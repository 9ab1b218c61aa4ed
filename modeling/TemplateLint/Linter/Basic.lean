import TemplateLint.Linter.Suppression
import TemplateLint.Rule.Builtin
import TemplateLint.Log
/-!
# Linter — running rules over a document

A linter holds rules of distinct names, each with the settings it was
resolved to. To lint a document is to run every active rule in order, to
drop what comments suppress, and to run last the rule that judges which
of these comments did nothing. A rule that crashes is reported as an
offense of its own and disturbs no other. Only what is asked of a rule
outside its check can break the linting off (`Linter.lint?`).
-/

namespace TemplateLint

/-- A rule with the settings it was resolved to. -/
structure BoundRule where
  rule : Rule
  settings : RuleSettings

/-- The name of the rule. -/
def BoundRule.name (b : BoundRule) : String :=
  b.rule.name

/-- What a linter works with beside its rules. -/
structure Equipment where
  /-- Makes a document of a source. Without it only source rules run. -/
  parse : Option (Text → Except Crash Document) := none
  /-- Makes a source of a document. Without it no document is fixed. -/
  print : Option (Document → Except Crash Text) := none
  scope : DisableScope := .remainder
  /-- Comments suppress nothing. -/
  ignoresComments : Bool := false

/-- A linter. -/
structure Linter extends Equipment where
  rules : List BoundRule
  distinct : (rules.map BoundRule.name).Nodup

/-- What linting a document comes to. -/
structure LintResult where
  offenses : List Offense := []
  ignored : Nat := 0
  log : Log := []
  deriving Repr

namespace LintResult

/-- The number of offenses of a severity. -/
def countOf (r : LintResult) (severity : Severity) : Nat :=
  r.offenses.countP fun o => o.severity = some severity

/-- The number of errors. -/
def errors (r : LintResult) : Nat := r.countOf .error

/-- The number of warnings. -/
def warnings (r : LintResult) : Nat := r.countOf .warning

end LintResult

/-! ## Building a linter -/

/-- Why rules make no linter. -/
inductive LinterError where
  /-- A rule has no name. -/
  | unnamed
  /-- Two rules have one name, the second of which is shown by this. -/
  | duplicateName (title : Value)
  /-- A list or a table stands for a name. -/
  | noName (title : Value)
  /-- An override cannot be read. -/
  | badOverride (error : OverrideError)
  deriving Repr

/-- The words for rules that make no linter. -/
def LinterError.message : LinterError → String
  | .unnamed => "a rule has to have a name"
  | .duplicateName title => "Duplicate rule name: " ++ String.ofList title.shown
  | .noName title => s!"unhashable type: '{title.kindWord}'"
  | .badOverride e => e.message

namespace Linter

/-- What is wrong with the names of some rules, the first fault of the
first rule that has one: there is no name, it is no name, or it is that of
an earlier rule. -/
def nameFault? (seen : List String) : List Rule → Option LinterError
  | [] => none
  | rule :: rules =>
    if !rule.isNamed then some .unnamed
    else if !rule.title.isPlain then some (.noName rule.title)
    else if seen.contains rule.name then some (.duplicateName rule.title)
    else nameFault? (rule.name :: seen) rules

theorem nodup_of_nameFault? {seen : List String} {rules : List Rule}
    (h : nameFault? seen rules = none) :
    (rules.map (·.name)).Nodup ∧ ∀ rule ∈ rules, rule.name ∉ seen := by
  induction rules generalizing seen with
  | nil => simp
  | cons rule rules ih =>
    simp only [nameFault?] at h
    split at h
    · cases h
    · split at h
      · cases h
      · split at h
        · cases h
        · rename_i fresh
          obtain ⟨distinct, apart⟩ := ih h
          refine ⟨List.nodup_cons.2 ⟨fun hmem => ?_, distinct⟩, fun r hr => ?_⟩
          · obtain ⟨r, hr, hname⟩ := List.mem_map.1 hmem
            exact apart r hr (hname ▸ .head _)
          · cases hr with
            | head => simpa using fresh
            | tail _ hmem => exact fun hseen => apart r hmem (.tail _ hseen)

/-- The rules with the settings that overrides change theirs to. -/
def resolve (change : String → RuleSettings → Except OverrideError RuleSettings) :
    List Rule → Except OverrideError (List BoundRule)
  | [] => .ok []
  | rule :: rules => do
    let settings ← change rule.name rule.settings
    return ⟨rule, settings⟩ :: (← resolve change rules)

theorem names_of_resolve {change : String → RuleSettings → Except OverrideError RuleSettings}
    {rules : List Rule} {bound : List BoundRule} (h : resolve change rules = .ok bound) :
    bound.map BoundRule.name = rules.map (·.name) := by
  induction rules generalizing bound with
  | nil => simp_all [resolve]
  | cons rule rules ih =>
    simp only [resolve, bind, Except.bind] at h
    split at h
    · simp at h
    · split at h
      · simp at h
      · rename_i rest hrest
        simp only [pure, Except.pure, Except.ok.injEq] at h
        subst h
        simp [BoundRule.name, ← ih hrest]

/-- The linter of some rules, if they have distinct names and their
overrides can be read. -/
def ofRules? (rules : List Rule)
    (change : String → RuleSettings → Except OverrideError RuleSettings)
    (equipment : Equipment) : Except LinterError Linter :=
  match distinct : nameFault? [] rules with
  | some e => .error e
  | none =>
    match resolved : resolve change rules with
    | .error e => .error (.badOverride e)
    | .ok bound =>
      .ok { equipment with
            rules := bound
            distinct := names_of_resolve resolved ▸ (nodup_of_nameFault? distinct).1 }

/-! ## What rules are told -/

/-- The names of the rules, in order. -/
def ruleNames (l : Linter) : List String :=
  l.rules.map BoundRule.name

/-- The rule with a name. -/
def rule? (l : Linter) (name : String) : Option BoundRule :=
  l.rules.find? fun b => b.name == name

/-- The settings of the rule with a name. -/
def settings? (l : Linter) (name : String) : Option RuleSettings :=
  (l.rule? name).map (·.settings)

/-- What the rules are told about a file. A rule that is not enabled is
disabled, as those are that the caller names. -/
def context (l : Linter) (fileName : Option String) (disabled : List String) : Context where
  fileName
  settings := l.rules.map fun b => (b.name, b.settings)
  disabled := disabled ++ (l.rules.filter fun b => !b.settings.isEnabled).map BoundRule.name
  ruleNames := l.ruleNames
  titles := l.rules.map (·.rule.title)

/-- There is a tree for the rule to look at, if it needs one. The rule
about errors of the parser can do without if there are any. -/
def hasInput (d : Document) (b : BoundRule) : Bool :=
  b.rule.kind ≠ .parser || d.root.isSome || (b.name == ParseErrors.ruleName && d.failed)

/-- The rule is run on a document: it is not disabled, applies to the
file, has something to look at, and agrees. -/
def isActive (d : Document) (context : Context) (b : BoundRule) : Bool :=
  !context.disabled.contains b.name && b.settings.appliesTo context.fileName
    && hasInput d b && b.rule.isWilling (b.rule.input d) context

/-! ## Running rules -/

/-- The offense that reports the crash of a rule. -/
def crashOffense (rule : Rule) (crash : Crash) : Offense :=
  { Offense.found rule.name s!"Rule crashed: {crash.kind}: {crash.message}" .fallback with
    severity := some .error
    instead := rule.instead }

/-- The offenses of one rule, bound to its severity. -/
def offensesOf (d : Document) (context : Context) (b : BoundRule) : List Offense :=
  match b.rule.check (b.rule.input d) context with
  | .ok offenses => offenses.map fun o => o.bind b.settings.severity
  | .error crash => [crashOffense b.rule crash]

/-- What is logged when one rule is run. -/
def logOf (d : Document) (context : Context) (b : BoundRule) : Log :=
  match b.rule.check (b.rule.input d) context with
  | .ok _ => []
  | .error _ => [⟨.error, .linter, s!"Rule {b.rule.shownName} crashed"⟩]

/-- The rule is the one that judges which comments did nothing. -/
def isDeferred (b : BoundRule) : Bool :=
  b.name == DisableComments.unnecessaryName

/-- The active rules, in order, without the deferred one. -/
def activeRules (l : Linter) (d : Document) (context : Context) : List BoundRule :=
  l.rules.filter fun b => isActive d context b && !isDeferred b

/-- The offenses of the active rules, before suppression. -/
def rawOffenses (l : Linter) (d : Document) (context : Context) : List Offense :=
  (l.activeRules d context).flatMap (offensesOf d context)

/-- The deferred rule, if it is active. -/
def deferredRule (l : Linter) (d : Document) (context : Context) : List BoundRule :=
  l.rules.filter fun b => isDeferred b && isActive d context b

/-- A comment excludes the document from linting. -/
def isExcluded (d : Document) : Bool :=
  d.root.any Node.ignoresLinter

/-- What a log calls a file. -/
def logName (fileName : Option String) : String :=
  match fileName with
  | none => "<source>"
  | some name => if name = "" then "<source>" else name

/-- The result for a document that no comment excludes, from the offenses
of the active rules. -/
def settle (l : Linter) (d : Document) (context : Context) (raw : List Offense) : LintResult :=
  let log := (l.activeRules d context).flatMap (logOf d context)
  if l.ignoresComments then { offenses := raw, log }
  else
    let suppressions := Suppression.collect d
    let filtered := Suppression.filter l.scope suppressions raw
    if suppressions.isEmpty then { offenses := filtered.kept, ignored := filtered.ignored, log }
    else
      let context' := { context with usage := some filtered.usage }
      let last := l.deferredRule d context
      { offenses := filtered.kept ++ last.flatMap (offensesOf d context')
        ignored := filtered.ignored
        log := log ++ last.flatMap (logOf d context') }

/-- The result for a document that a comment excludes. -/
def excludedResult (fileName : Option String) : LintResult where
  log := [⟨.debug, .linter, logName fileName ++ ": herb:linter ignore found, skipping"⟩]

/-- **Linting a document.** -/
def lint (l : Linter) (d : Document) (fileName : Option String) (disabled : List String) :
    LintResult :=
  if isExcluded d then excludedResult fileName
  else
    let context := l.context fileName disabled
    l.settle d context (l.rawOffenses d context)

/-! ## Breaking off -/

/-- Where something broke off: the failure, and what had been logged until
then. -/
structure Breakdown where
  crash : Crash
  log : Log := []
  deriving Repr

/-- The failure to find out whether a rule is active, if there is one. -/
def askingFailure? (d : Document) (context : Context) (b : BoundRule) : Option Crash :=
  if context.disabled.contains b.name then none
  else
    match b.settings.appliesTo? context.fileName with
    | none => some (.of "TypeError" "a file pattern has to be a text")
    | some false => none
    | some true =>
      if b.rule.kind = .missing then some (.of "AttributeError" "a rule has to have a kind")
      else if hasInput d b then
        match b.rule.agrees (b.rule.input d) context with
        | .ok _ => none
        | .error crash => some crash
      else none

/-- The result for a document that no comment excludes, unless that breaks
off: a rule cannot be asked whether it is active, or an offense belongs to
a rule whose name is no text, so that no comment can name it. -/
def lintIncluded? (l : Linter) (d : Document) (context : Context) : Except Breakdown LintResult :=
  match l.rules.findSome? (askingFailure? d context) with
  | some crash => .error { crash }
  | none =>
    let raw := l.rawOffenses d context
    if raw.all Offense.namesRule then .ok (l.settle d context raw)
    else .error {
      crash := .of "AttributeError" "the name of a rule has to be a text"
      log := (l.activeRules d context).flatMap (logOf d context) }

/-- Linting a document, unless that breaks off. -/
def lint? (l : Linter) (d : Document) (fileName : Option String) (disabled : List String) :
    Except Breakdown LintResult :=
  if isExcluded d then .ok (excludedResult fileName)
  else l.lintIncluded? d (l.context fileName disabled)

/-- **Linting that does not break off is linting.** -/
theorem eq_lint_of_lint? {l : Linter} {d : Document} {fileName : Option String}
    {disabled : List String} {result : LintResult}
    (h : l.lint? d fileName disabled = .ok result) : result = l.lint d fileName disabled := by
  simp only [lint?, lint] at h ⊢
  split at h
  · simp_all
  · simp only [lintIncluded?] at h
    split at h
    · cases h
    · split at h
      · cases h
        simp_all
      · cases h

/-- The document of a source. -/
def read? (l : Linter) (source : Text) : Except Crash Document :=
  match l.parse with
  | none => .ok (.ofText source)
  | some parse => parse source

/-- Linting a source, unless that breaks off. -/
def lintSource? (l : Linter) (source : Text) (fileName : Option String)
    (disabled : List String) : Except Breakdown LintResult :=
  match l.read? source with
  | .error crash => .error { crash }
  | .ok d => l.lint? d fileName disabled

end Linter

end TemplateLint
