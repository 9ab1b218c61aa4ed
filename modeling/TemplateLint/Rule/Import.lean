import TemplateLint.Rule.Basic
/-!
# Rules — importing a file of custom rules

A file of custom rules is a program of its own, and what it does is its own
affair. Importing it fails or leaves values behind, and each class among
these is called to make an instance, which may fail again. What comes of
all that is given (`Import`). It is judged here: which instances are rules
(`Instance.isRule`), which values define one (`Global.rule?`), and what the
one rule of a file is, for it has to define exactly one (`Import.rule?`).
-/

namespace TemplateLint

/-- What a class makes: what would be run as a rule, and whether there is a
check in it to call. -/
structure Instance where
  rule : Rule
  hasCheck : Bool

/-- The instance is a rule: it has a text for a name, which is not empty, a
kind that is known, and a check. -/
def Instance.isRule (i : Instance) : Bool :=
  i.rule.isNamed && i.rule.title.string? = some i.rule.name && i.rule.name ≠ ""
    && (i.rule.kind = .parser || i.rule.kind = .source) && i.hasCheck

/-- A class as a file has it. -/
structure RuleClass where
  /-- It belongs to the file, and the file does not only import it. -/
  isOwn : Bool
  /-- What it makes when it is called without arguments. -/
  made : Except Crash Instance

/-- A value that a file leaves behind under a name. -/
inductive Global where
  | ofClass (c : RuleClass)
  | noClass

/-- The rule that a value defines. A class that belongs to another file, cannot be
made or makes no rule defines none. -/
def Global.rule? : Global → Option Rule
  | .noClass => none
  | .ofClass c => if c.isOwn then (c.made.toOption.filter Instance.isRule).map (·.rule) else none

/-- What importing a file comes to. -/
inductive Import where
  /-- Files of its kind cannot be imported. -/
  | unsupported
  /-- It breaks down. -/
  | failed (crash : Crash)
  /-- It leaves values behind, in the order of their names. A class with two
  names is there twice. -/
  | done (globals : List Global)

namespace Import

/-- Why a file gives no rule. -/
inductive Error where
  /-- It cannot be imported. -/
  | failed (crash : Crash)
  /-- It does not define exactly one rule, but these. -/
  | notOne (names : List String)
  deriving DecidableEq, Repr

/-- The failure to import a file of a kind that cannot be. -/
def unsupportedCrash (file : String) : Crash :=
  .of "ImportError" s!"Cannot load module from: {file}"

/-- The one rule of a file. -/
def rule? (file : String) : Import → Except Error Rule
  | .unsupported => .error (.failed (unsupportedCrash file))
  | .failed crash => .error (.failed crash)
  | .done globals =>
    match globals.filterMap Global.rule? with
    | [rule] => .ok rule
    | rules => .error (.notOne (rules.map (·.name)))

/-- The words for a file that gives no rule. -/
def Error.message (file : String) : Error → String
  | .failed crash =>
    s!"Failed to load custom rule file \"{file}\": {crash.kind}: {crash.message}"
  | .notOne names =>
    let sorted := names.mergeSort fun a b => decide (a ≤ b)
    let found := if names.isEmpty then "none" else ", ".intercalate sorted
    s!"Custom rule file \"{file}\" must define exactly one rule class (found: {found})."

end Import

end TemplateLint
