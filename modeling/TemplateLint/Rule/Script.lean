import TemplateLint.Rule.Import
import TemplateLint.Template.Parser
/-!
# Rules — scripted

A rule can be written down as a table: what it is called, what it looks
at, which words it looks for, which offenses it reports in any case, how
it fixes them, and how it breaks down. The offenses are read whenever the
rule is run, and one that cannot be read is a breakdown like others. Not
every such table makes a rule (`RuleScript.toInstance`). A file of custom
rules can be written down likewise, as the scripts in it
(`Import.ofTable`).
-/

namespace TemplateLint

/-! ## Breakdowns -/

namespace Crash

/-- The kind that a failure goes by, of which it may have several
names. -/
def kindOf (name : String) : String :=
  if name = "IOError" || name = "EnvironmentError" then "OSError" else name

/-- The number of arguments that a kind of failure takes, and the words
for any other number, if one or none is too few. -/
def demand? (kind : String) (given : Nat) : Option String :=
  match kind with
  | "UnicodeDecodeError" | "UnicodeEncodeError" =>
    some s!"function takes exactly 5 arguments ({given} given)"
  | "UnicodeTranslateError" => some s!"function takes exactly 4 arguments ({given} given)"
  | "ExceptionGroup" | "BaseExceptionGroup" =>
    some s!"BaseExceptionGroup.__new__() takes exactly 2 arguments ({given} given)"
  | _ => none

/-- The words of a failure with an argument: a failed look-up shows it in
literal form. -/
def wordsWith (kind : String) (argument : Value) : Text :=
  if kind = "KeyError" then argument.literal else argument.shown

/-- The words of a failure without an argument. -/
def wordsWithout (kind : String) : Text :=
  if ["SyntaxError", "IndentationError", "TabError"].contains kind then Value.literal .null else []

/-- A failure of a kind, perhaps with an argument. -/
def raised (name : String) (argument : Value) : Crash :=
  let kind := kindOf name
  let given := if argument == .null then 0 else 1
  match demand? kind given with
  | some words => .of "TypeError" words
  | none =>
    .of kind (String.ofList (if given = 0 then wordsWithout kind else wordsWith kind argument))

/-- A failure that a table describes. -/
def ofTable (t : Table) : Crash :=
  raised (t.stringD "kind" "Exception") ((t.get? "message").getD .null)

/-- The failure of a value of a kind that does not fit. -/
def wrongKind (words : String) : Crash :=
  .of "TypeError" words

end Crash

/-- The failure to read what a value describes. -/
def DescriptionError.crash (e : DescriptionError) : Crash :=
  match e with
  | .badLocation _ | .badSeverity _ => .of "ValueError" e.message
  | .noTable _ => .of "AttributeError" e.message
  | .noNumber _ | .badCount _ | .noItems _ => .of "TypeError" e.message

/-- The failure to read an override. -/
def OverrideError.crash (e : OverrideError) : Crash :=
  match e with
  | .noTable _ => .of "AttributeError" e.message
  | .noPair .. | .noSeverity _ => .of "ValueError" e.message
  | .noItems _ | .noParts _ | .noKey _ => .of "TypeError" e.message

/-! ## Scripts -/

/-- How a scripted rule fixes an offense. -/
inductive ScriptFix where
  | crash (crash : Crash)
  | value (value : Value)
  | append (text : Text)
  | replace (old : Text) (new : Value)
  /-- It never finds anything to fix. -/
  | never
  deriving Repr

/-- When a scripted rule agrees to run. -/
inductive ScriptConsent where
  | always (answer : Bool)
  | contains (value : Value)
  deriving Repr

/-- What a scripted rule finds. -/
inductive ScriptCheck where
  | crash (crash : Crash)
  /-- Offenses, places of words, and what the rule was told, if it echoes
  that. -/
  | report (offenses searches : List Value) (echo : Bool)
  deriving Repr

/-- A rule written down as a table. -/
structure RuleScript where
  name : Option Value
  kind : Option Value
  /-- What it finds, or how it fails if there is no check to call. -/
  check : Except Crash ScriptCheck
  settings : RuleSettings
  /-- It says of itself that it can fix. -/
  fixes : Bool
  fix : Option ScriptFix
  consent : ScriptConsent
  /-- How it fails to be made, if it does. -/
  unmade : Option Crash
  /-- It belongs to another file. -/
  isImported : Bool
  /-- It stands in its file under two names. -/
  isAliased : Bool
  deriving Repr

namespace RuleScript

/-! ## Reading a table -/

/-- The text under a key. -/
def textD (t : Table) (key : String) : Text :=
  (t.stringD key "").toList

/-- The replacement that a value describes. -/
def replacementOf (v : Value) : ScriptFix :=
  match v.parts? with
  | some [.str old, new] => .replace old.toList new
  | some [old, _] => .crash (.wrongKind
      s!"'in <string>' requires string as left operand, not {old.kindWord}")
  | some parts =>
    let words :=
      if parts.length < 2 then s!"not enough values to unpack (expected 2, got {parts.length})"
      else "too many values to unpack (expected 2)"
    .crash (.of "ValueError" words)
  | none => .crash (.wrongKind s!"cannot unpack non-iterable {v.kindWord} object")

/-- The fix that a table describes. -/
def fixOfTable (t : Table) : ScriptFix :=
  match t.get? "crash", t.get? "value", t.get? "append", t.get? "replace" with
  | some (.table crash), _, _, _ => .crash (.ofTable crash)
  | _, some v, _, _ => .value v
  | _, _, some (.str s), _ => .append s.toList
  | _, _, some v, _ =>
    .crash (.wrongKind s!"can only concatenate str (not \"{v.kindWord}\") to str")
  | _, _, _, some v => replacementOf v
  | _, _, _, _ => .never

/-- The consent that a value describes. What cannot be called is not
asked. -/
def consentOf : Option Value → ScriptConsent
  | some (.bool b) => .always b
  | some (.table t) => ((Table.get? t "contains").map .contains).getD (.always true)
  | _ => .always true

/-- The items under a key. -/
def items (t : Table) (key : String) : List Value :=
  ((t.get? key).bind Value.list?).getD []

/-- The check that a table describes. -/
def checkOf (t : Table) : ScriptCheck :=
  match t.get? "crash" with
  | some (.table crash) => .crash (.ofTable crash)
  | _ => .report (items t "offenses") (items t "find") ((t.get? "echo").any Value.isTruthy)

/-- The failure to call a check that a value stands for. -/
def uncallable (v : Value) : Crash :=
  match v with
  | .str "missing" => .of "AttributeError" "'ScriptedRule' object has no attribute 'check'"
  | v => .wrongKind s!"'{v.kindWord}' object is not callable"

/-- The failure to make a rule that a value describes, if it describes
any. -/
def unmadeOf? : Value → Option Crash
  | .str "requires_arg" => some (.wrongKind "the rule cannot be made without an argument")
  | .table crash => some (.ofTable crash)
  | _ => none

/-- The script that a table is. -/
def ofTable? (t : Table) : Except OverrideError RuleScript := do
  let settings ← match t.get? "default_config" with
    | some (.table fields) => RuleSettings.ofTable? fields
    | _ => .ok {}
  return {
    name := t.get? "name"
    kind := t.get? "type"
    check := (t.get? "check").elim (.ok (checkOf t)) fun v => .error (uncallable v)
    settings
    fixes := (t.get? "autocorrectable").any Value.isTruthy
    fix := ((t.get? "autofix").bind Value.table?).map fixOfTable
    consent := consentOf (t.get? "is_enabled")
    unmade := (t.get? "init").bind unmadeOf?
    isImported := (t.get? "imported").any Value.isTruthy
    isAliased := (t.get? "alias").any Value.isTruthy }

end RuleScript

/-! ## Running a script -/

/-- The offenses at the places of a word that a value describes. -/
def searchOffenses? (title : Value) (source : Text) (v : Value) :
    Except DescriptionError (List Offense) :=
  match v with
  | .table t => do
    let word := RuleScript.textD t "text"
    let message := (Table.get? t "message").getD (.str "found")
    match Text.occurrences word source with
    | [] => return []
    | places =>
      let severity ← Table.read? t "severity" Severity.ofValue?
      return places.map fun start =>
        { Offense.ofValues title message title (source.span start (start + word.length)) with
          severity }
  | v => .error (.noTable v)

/-- Names with commas between them, all of which have to be texts. -/
def joinedNames? (titles : List Value) : Except Crash String :=
  match titles.findIdx? fun v => v.string?.isNone with
  | some index =>
    let found := (titles.getD index .null).kindWord
    .error (.wrongKind s!"sequence item {index}: expected str instance, {found} found")
  | none => .ok (",".intercalate (titles.filterMap Value.string?))

/-- The names that are disabled, in order, as they are shown. -/
def disabledTitles (context : Context) : List Value :=
  let odd := context.titles.filter fun v => v.string?.isNone
  (context.disabled.eraseDups.mergeSort fun a b => decide (a ≤ b)).map fun name =>
    (odd.find? fun v => v.asName == name).getD (.str name)

/-- What a rule was told, in one line. -/
def echoMessage? (input : RuleInput) (context : Context) : Except Crash String := do
  if !context.isGiven then
    throw (.of "AttributeError" "the rule is told nothing")
  let what := match input with
    | .document _ => "tree"
    | .text _ => "text"
  let disabled ← joinedNames? (disabledTitles context)
  let names ← joinedNames? context.titles
  return "|".intercalate
    [what, context.fileName.getD "None", disabled, names,
     ",".intercalate (context.settings.map (·.1)),
     if context.usage.isSome then "usage" else "no usage"]

/-- What a check finds, under what its rule is shown by. -/
def ScriptCheck.run (c : ScriptCheck) (title : Value) (input : RuleInput) (context : Context) :
    Except Crash (List Offense) :=
  match c with
  | .crash failure => .error failure
  | .report offenses searches echo => do
    let listed ← (offenses.mapM (Offense.ofValue? title)).mapError DescriptionError.crash
    let found ← (searches.mapM (searchOffenses? title input.source)).mapError
      DescriptionError.crash
    let echoed ←
      if echo then do
        let message ← echoMessage? input context
        pure [Offense.ofValues title (.str message) title .fallback]
      else pure []
    return listed ++ found.flatten ++ echoed

/-- A new source, as what the rule was handed. -/
def replacementFor (input : RuleInput) (source : Text) : Replacement :=
  match input with
  | .document _ => .document (Document.parse source)
  | .text _ => .text source

/-- What a fix gives back. -/
def ScriptFix.run (fix : ScriptFix) (input : RuleInput) : Except Crash Replacement :=
  match fix with
  | .crash failure => .error failure
  | .value (.str s) => .ok (.text s.toList)
  | .value v => .ok (.other v)
  | .append text => .ok (replacementFor input (input.source ++ text))
  | .replace old new =>
    if !Text.contains old input.source then .ok .nothing
    else
      match new with
      | .str s =>
        .ok ((Text.replaceFirst? old s.toList input.source).elim .nothing (replacementFor input))
      | v => .error (.wrongKind s!"replace() argument 2 must be str, not {v.kindWord}")
  | .never => .ok .nothing

/-- The answer to whether the rule is to run. -/
def ScriptConsent.answer? (c : ScriptConsent) (input : RuleInput) : Except Crash Bool :=
  match c with
  | .always b => .ok b
  | .contains (.str s) => .ok (Text.contains s.toList input.source)
  | .contains v => .error (.wrongKind
      s!"'in <string>' requires string as left operand, not {v.kindWord}")

/-! ## The rule of a script -/

namespace RuleScript

/-- What offenses of the rule are reported under. -/
def title (s : RuleScript) : Value :=
  s.name.getD (.str "r")

/-- The kind that a value names. -/
def kindOf (v : Option Value) : RuleKind :=
  match v with
  | some (.str "parser") => .parser
  | some (.str "source") => .source
  | some v => .other v.asName
  | none => .missing

/-- What the check of a script finds. Without a check to call it breaks
down, and without a name to report an offense under. -/
def run (s : RuleScript) (input : RuleInput) (context : Context) :
    Except Crash (List Offense) := do
  let found ← (← s.check).run s.title input context
  if s.name.isNone && !found.isEmpty then
    throw (.of "AttributeError" "a rule has to have a name")
  return found

/-- The rule of a script. -/
def toRule (s : RuleScript) : Rule where
  name := s.title.asName
  kind := kindOf s.kind
  settings := s.settings
  agrees input _ := s.consent.answer? input
  check := s.run
  fixer := if s.fixes then s.fix.map fun fix => fun _ input _ => fix.run input else none
  title := s.title
  isNamed := s.name.isSome
  kindTitle := s.kind.getD .null

/-- What is made of a script. -/
def toInstance (s : RuleScript) : Instance where
  rule := s.toRule
  hasCheck := s.check.toOption.isSome

/-- What a script leaves behind in a file: a class, perhaps under two
names. -/
def globals (s : RuleScript) : List Global :=
  let made := s.unmade.elim (.ok s.toInstance) .error
  List.replicate (if s.isAliased then 2 else 1) (.ofClass ⟨!s.isImported, made⟩)

end RuleScript

/-- What importing a file of scripts comes to. It breaks down if it is said
to, and if one of its scripts has settings that are none. -/
def Import.ofTable (t : Table) : Import :=
  match t.get? "raise" with
  | some (.table crash) => .failed (.ofTable crash)
  | _ =>
    match ((RuleScript.items t "classes").filterMap Value.table?).mapM RuleScript.ofTable? with
    | .ok scripts => .done (scripts.flatMap RuleScript.globals)
    | .error e => .failed e.crash

end TemplateLint
