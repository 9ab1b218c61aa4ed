import TemplateLint.Rule.Settings
import TemplateLint.Template.Node
import TemplateLint.Value.Literal
/-!
# Rules

A rule has a name, looks at a document tree or at plain source, and lists
the offenses it finds there. A check may crash; the rule then says how. A
rule may come with a fixer, which gives back a whole new input.
-/

namespace TemplateLint

/-- What a rule looks at. -/
inductive RuleKind where
  /-- The document, with its tree. -/
  | parser
  /-- The source alone. -/
  | source
  /-- Something this library knows nothing about. Such a rule is run like
  one that looks at the source, and its fixer is never called. -/
  | other (label : String)
  /-- The rule does not say. It cannot be run. -/
  | missing
  deriving DecidableEq, Repr

/-- The word for a kind of rule. -/
def RuleKind.label : RuleKind → String
  | .parser => "parser"
  | .source => "source"
  | .other label => label
  | .missing => ""

/-- What a rule is handed. -/
inductive RuleInput where
  | document (d : Document)
  | text (t : Text)
  deriving Repr

/-- The source of what a rule is handed. -/
def RuleInput.source : RuleInput → Text
  | .document d => d.source
  | .text t => t

/-- What comments suppressed: the line of a directive, and the name of a
rule it suppressed an offense of. -/
abbrev Usage := List (Nat × String)

namespace Usage

/-- A directive on a line suppressed an offense of a rule. -/
def uses (u : Usage) (line : Nat) (rule : String) : Bool :=
  u.contains (line, rule)

/-- A directive on a line suppressed an offense. -/
def usesAny (u : Usage) (line : Nat) : Bool :=
  u.any (·.1 == line)

end Usage

/-- What a rule is told about the file and the run. -/
structure Context where
  fileName : Option String := none
  settings : List (String × RuleSettings) := []
  disabled : List String := []
  /-- The names of the rules of the run. -/
  ruleNames : List String := []
  /-- What comments suppressed, for a rule that runs once that is known. -/
  usage : Option Usage := none
  /-- What is shown for the names of the rules. -/
  titles : List Value := ruleNames.map .str
  /-- The rule is told anything at all. -/
  isGiven : Bool := true
  deriving Repr, Inhabited

/-- How a rule broke down: the kind of failure and its words. -/
structure Crash where
  kind : String
  message : String
  /-- The kinds that its kind is derived from. -/
  bases : List String
  deriving DecidableEq, Repr

namespace Crash

/-- The kinds of failures that have to do with connections. -/
def connectionKinds : List String :=
  ["BrokenPipeError", "ConnectionAbortedError", "ConnectionRefusedError", "ConnectionResetError"]

/-- The other kinds of failures of the system. -/
def systemKinds : List String :=
  ["BlockingIOError", "ChildProcessError", "ConnectionError", "FileExistsError",
    "FileNotFoundError", "InterruptedError", "IsADirectoryError", "NotADirectoryError",
    "PermissionError", "ProcessLookupError", "TimeoutError", "UnsupportedOperation"]

/-- What a kind that is built in is derived from, as far as a run asks for
it: the failures of the system are all of one kind. -/
def basesOf (kind : String) : List String :=
  if connectionKinds.contains kind then ["ConnectionError", "OSError"]
  else if systemKinds.contains kind then ["OSError"]
  else []

/-- A failure of a kind that is built in. -/
def of (kind message : String) : Crash :=
  ⟨kind, message, basesOf kind⟩

/-- The failure is of a kind, or of one that is derived from it. -/
def isOf (c : Crash) (kind : String) : Bool :=
  c.kind == kind || c.bases.contains kind

end Crash

/-- What a fixer gives back. -/
inductive Replacement where
  | document (d : Document)
  | text (t : Text)
  | nothing
  /-- Something that replaces neither a document nor a text. -/
  | other (value : Value)
  deriving Repr

/-- A fixer: it is handed an offense, the present input and the
context. -/
abbrev Fixer := Offense → RuleInput → Context → Except Crash Replacement

/-- A rule. -/
structure Rule where
  name : String
  kind : RuleKind
  settings : RuleSettings := {}
  /-- Whether the rule agrees to run, if it can be asked. -/
  agrees : RuleInput → Context → Except Crash Bool := fun _ _ => .ok true
  check : RuleInput → Context → Except Crash (List Offense)
  fixer : Option Fixer := none
  /-- What is shown for the name. -/
  title : Value := .str name
  /-- The rule has a name at all. -/
  isNamed : Bool := true
  /-- What is shown for the kind. -/
  kindTitle : Value := .str kind.label

namespace Rule

/-- The name of the rule in a message. -/
def shownName (r : Rule) : String :=
  String.ofList r.title.shown

/-- What offenses of the rule show for its name, if that is no text. -/
def instead (r : Rule) : Table :=
  if r.title.string?.isSome then [] else [("rule", r.title), ("code", r.title)]

/-- The rule comes with a fixer. -/
def isAutocorrectable (r : Rule) : Bool :=
  r.fixer.isSome

/-- The rule agrees to run. -/
def isWilling (r : Rule) (input : RuleInput) (context : Context) : Bool :=
  (r.agrees input context).toOption.getD false

/-- What the rule is handed of a document. -/
def input (r : Rule) (d : Document) : RuleInput :=
  if r.kind = .parser then .document d else .text d.source

/-- A rule that looks at documents and never crashes. It finds nothing in
a text. -/
def onDocument (name : String) (severity : Severity)
    (offenses : Document → Context → List Offense) : Rule where
  name
  kind := .parser
  settings := { severity }
  check
    | .document d, context => .ok (offenses d context)
    | .text _, _ => .ok []

end Rule

end TemplateLint
