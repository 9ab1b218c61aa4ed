import TemplateLint.Linter.Suppression
import TemplateLint.Report
import TemplateLint.Path.Basic
import TemplateLint.Text.Lowercase
/-!
# Settings — a project's choices, read and checked

The settings of a project: which files to look at, the form of the
output, how far comments reach, the parser and printer, the custom rules,
and an override for any rule. They are read from a table. Reading goes
through the whole table and names every problem in it, key by key
(`Settings.problems`); each key is judged on its own.
-/

namespace TemplateLint

/-- What is wrong with a part of a table of settings. -/
inductive SettingsProblem where
  | notStrings (key : String)
  | notOneOf (key : String) (words : List String)
  | notBoolean (key : String)
  | notReference (key : String)
  | notPositive (key : String)
  | notTable (key : String)
  | unknownKeys (key : String) (unknown : List String)
  | notOverride (key : String)
  deriving DecidableEq, Repr

/-- The words for what is wrong. -/
def SettingsProblem.message : SettingsProblem → String
  | .notStrings key => key ++ " must be a list of strings"
  | .notOneOf key words => key ++ " must be one of " ++ Value.namesLiteral words
  | .notBoolean key => key ++ " must be a boolean"
  | .notReference key => key ++ " must be a \"module:callable\" string"
  | .notPositive key => key ++ " must be a positive integer"
  | .notTable key => key ++ " must be a table"
  | .unknownKeys key unknown => key ++ " has unknown keys: " ++ Value.namesLiteral unknown
  | .notOverride key => key ++ " must be a severity string, a boolean or a table"

/-- The words for all that is wrong. -/
def SettingsProblem.report (problems : List SettingsProblem) : String :=
  "Configuration errors:\n"
    ++ "\n".intercalate (problems.map fun problem => "  - " ++ problem.message)

/-- The settings of a project. -/
structure Settings where
  included : List String := ["**/*.html.erb"]
  excluded : List String := ["**/.*/**", "**/node_modules/**", "**/vendor/**", "**/tmp/**"]
  format : OutputFormat := .text
  scope : DisableScope := .remainder
  ignoresComments : Bool := false
  parser : Option String := none
  printer : Option String := none
  customRules : List String := [".herb/rules/**/*.py"]
  /-- The most passes of fixing over one file. -/
  passes : Nat := 10
  /-- The number of files linted at a time. -/
  jobs : Nat := 1
  rules : List (String × RuleOverride) := []
  deriving Repr, Inhabited

namespace Settings

/-! ## Single keys -/

/-- A part of the settings, and the problems with it. If there are any the
part is of no use. -/
structure Checked (α : Type) where
  value : α
  problems : List SettingsProblem := []

/-- A part that is read from the value under a key, if the key is
there. -/
def checked {α : Type} (t : Table) (key : String) (default : α) (read : Value → Option α)
    (problem : SettingsProblem) : Checked α :=
  match t.get? key with
  | none => { value := default }
  | some v =>
    match read v with
    | some a => { value := a }
    | none => { value := default, problems := [problem] }

/-- A list of patterns. -/
def patterns (t : Table) (key : String) (default : List String) : Checked (List String) :=
  checked t key default Value.strings? (.notStrings key)

/-- One of some words. -/
def word {α : Type} (t : Table) (key : String) (default : α) (ofWord? : String → Option α)
    (words : List String) : Checked α :=
  checked t key default (fun v => v.string?.bind ofWord?) (.notOneOf key words)

/-- A whole number above zero. -/
def positive (t : Table) (key : String) (default : Nat) : Checked Nat :=
  let read (v : Value) : Option Nat := v.int?.bind fun i => if i < 1 then none else some i.toNat
  checked t key default read (.notPositive key)

/-- A text names a callable in a module: one colon, with something on
either side. -/
def isReference (s : String) : Bool :=
  match Text.splitAt ':' s.toList with
  | [module, callable] => !module.isEmpty && !callable.isEmpty
  | _ => false

/-- A reference to a callable. Nothing stands for none. -/
def reference (t : Table) (key : String) : Checked (Option String) :=
  let read : Value → Option (Option String)
    | .null => some none
    | .str s => if isReference s then some (some s) else none
    | _ => none
  checked t key none read (.notReference key)

/-! ## Overrides -/

/-- The keys of an override. -/
def overrideKeys : List String :=
  ["enabled", "severity", "options", "include", "exclude"]

/-- The severity that a value names, in letters of either case. -/
def severityOf? (v : Value) : Option Severity :=
  Severity.ofWord? (String.ofList v.shown.lower)

/-- A part of an override, read from the value under a key, if the key is
there. -/
def overridePart {α : Type} (rule : String) (t : Table) (key : String) (read : Value → Option α)
    (problem : String → SettingsProblem) : Checked (Option α) :=
  checked t key none (fun v => (read v).map some) (problem ("rules." ++ rule ++ "." ++ key))

/-- The words for the severities. -/
def severityWords : List String :=
  Severity.all.map Severity.word

/-- The keys of a table that no override has, sorted. -/
def unknownKeys (t : Table) : List String :=
  (t.keys.filter fun key => !overrideKeys.contains key).mergeSort fun a b => decide (a ≤ b)

/-- The override that a table holds. -/
def overrideTable (rule : String) (t : Table) : Checked RuleOverride :=
  let unknown := unknownKeys t
  let enabled := overridePart rule t "enabled" Value.bool? .notBoolean
  let severity := overridePart rule t "severity" severityOf? fun key =>
    .notOneOf key severityWords
  let options := overridePart rule t "options" Value.table? .notTable
  let included := overridePart rule t "include" Value.strings? .notStrings
  let excluded := overridePart rule t "exclude" Value.strings? .notStrings
  { value := ⟨enabled.value, severity.value, options.value, included.value, excluded.value⟩
    problems := (if unknown.isEmpty then [] else [.unknownKeys ("rules." ++ rule) unknown])
      ++ enabled.problems ++ severity.problems ++ options.problems ++ included.problems
      ++ excluded.problems }

/-- The override that a value stands for: a truth value says whether the
rule runs, a string is its severity, and a table may say more. -/
def override (rule : String) : Value → Checked RuleOverride
  | .bool b => { value := { enabled := some b } }
  | .str s =>
    match severityOf? (.str s) with
    | some severity => { value := { severity := some severity } }
    | none => { value := {}, problems := [.notOneOf ("rules." ++ rule) severityWords] }
  | .table t => overrideTable rule t
  | _ => { value := {}, problems := [.notOverride ("rules." ++ rule)] }

/-- The overrides under a key. -/
def overrides (t : Table) : Checked (List (String × RuleOverride)) :=
  match t.get? "rules" with
  | none => { value := [] }
  | some (.table entries) =>
    { value := entries.map fun entry => (entry.1, (override entry.1 entry.2).value)
      problems := entries.flatMap fun entry => (override entry.1 entry.2).problems }
  | some _ => { value := [], problems := [.notTable "rules"] }

/-! ## The whole table -/

/-- The settings in a table, with the problems of every key. -/
def check (t : Table) : Checked Settings :=
  let base : Settings := {}
  let included := patterns t "include" base.included
  let excluded := patterns t "exclude" base.excluded
  let customRules := patterns t "custom_rules" base.customRules
  let format := word t "output_format" base.format OutputFormat.ofWord?
    (OutputFormat.all.map OutputFormat.word)
  let scope := word t "disable_scope" base.scope DisableScope.ofWord?
    (DisableScope.all.map DisableScope.word)
  let ignores := checked t "ignore_disable_comments" base.ignoresComments Value.bool?
    (.notBoolean "ignore_disable_comments")
  let parser := reference t "parser"
  let printer := reference t "printer"
  let passes := positive t "max_fix_iterations" base.passes
  let jobs := positive t "jobs" base.jobs
  let rules := overrides t
  { value :=
      { included := included.value, excluded := excluded.value, format := format.value
        scope := scope.value, ignoresComments := ignores.value, parser := parser.value
        printer := printer.value, customRules := customRules.value, passes := passes.value
        jobs := jobs.value, rules := rules.value }
    problems := included.problems ++ excluded.problems ++ customRules.problems
      ++ format.problems ++ scope.problems ++ ignores.problems ++ parser.problems
      ++ printer.problems ++ passes.problems ++ jobs.problems ++ rules.problems }

/-- Everything that is wrong with a table, in the order of the keys of the
settings. -/
def problems (t : Table) : List SettingsProblem :=
  (check t).problems

/-- The settings in a table, if nothing is wrong with it. -/
def ofTable? (t : Table) : Except (List SettingsProblem) Settings :=
  if (problems t).isEmpty then .ok (check t).value else .error (problems t)

/-- The override for a rule. -/
def override? (s : Settings) (rule : String) : Option RuleOverride :=
  s.rules.lookup rule

end Settings

/-- The settings of a project and the file they stand in, if they stand
in one. -/
structure Project where
  settings : Settings
  file : Option Path
  deriving Repr

/-- The directory that the names of files and patterns count from. -/
def Project.directory (p : Project) (here : Path) : Path :=
  match p.file with
  | some file => file.parent
  | none => here

end TemplateLint
