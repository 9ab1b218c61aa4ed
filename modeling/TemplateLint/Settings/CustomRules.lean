import TemplateLint.Discovery
import TemplateLint.Path.Glob
import TemplateLint.Rule.Builtin
import TemplateLint.Rule.Import
/-!
# Settings — the custom rules of a project

The files that match the patterns for custom rules are imported in the
order of their paths. Each gives one rule or one warning: a file that
cannot be imported or does not define exactly one rule gives none, and of
rules with one name only the first is kept. Where a name was taken is part
of the warning. What importing a file comes to is given for each path.
-/

namespace TemplateLint

/-- A rule that is there already: its name, and where it comes from. -/
structure KnownRule where
  name : String
  origin : String
  deriving DecidableEq, Repr

namespace KnownRule

/-- The origin of a rule that stands in no file. -/
def unfiled : String := "<built-in>"

/-- A rule of the library, which is installed in a directory. -/
def ofBuiltin (home : String) (r : Rule) : KnownRule :=
  let file := r.name.map fun c => if c = '-' then '_' else c
  ⟨r.name, home ++ "/herblint/rules/" ++ file ++ ".py"⟩

end KnownRule

namespace CustomRules

/-! ## The files -/

/-- Why a search for files breaks off. A pattern that is refused is only
reported. -/
inductive SearchError where
  | nameless
  | namelessDirectory
  deriving DecidableEq, Repr

/-- The files that patterns match, and a warning for each pattern that is
refused. -/
structure Found where
  files : List Path
  warnings : List String
  deriving Repr

/-- The files that one pattern matches, or the warning about it. -/
def search (root : FileTree) (directory : Path) (pattern : String) :
    Except SearchError Found :=
  match Glob.files? root directory pattern.toList with
  | .ok files => .ok ⟨files, []⟩
  | .error .nameless => .error .nameless
  | .error .namelessDirectory => .error .namelessDirectory
  | .error e => .ok ⟨[], [s!"Failed to search pattern \"{pattern}\": {e.message}"]⟩

/-- The files that some patterns match, in order, each once. -/
def find (root : FileTree) (directory : Path) (patterns : List String) :
    Except SearchError Found := do
  let found ← patterns.mapM (search root directory)
  return ⟨Discovery.listed (found.flatMap (·.files)), found.flatMap (·.warnings)⟩

/-! ## Their rules -/

/-- A custom rule and its file. -/
structure Loaded where
  rule : Rule
  file : Path

/-- What loading files comes to. -/
structure Loading where
  loaded : List Loaded
  warnings : List String
  log : Log

/-- The rule of a file. -/
def ruleIn? (imports : Path → Import) (file : Path) : Except Import.Error Rule :=
  (imports file).rule? file.toString

/-- The words for a rule whose name is taken. -/
def takenMessage (name file origin : String) : String :=
  s!"Custom rule \"{name}\" in \"{file}\" was skipped: "
    ++ s!"a rule with the same name is already loaded from \"{origin}\"."

/-- The rules of some files, beside those known already, the one known
last first. -/
def load (imports : Path → Import) (known : List KnownRule) : List Path → Loading
  | [] => ⟨[], [], []⟩
  | file :: files =>
    match ruleIn? imports file with
    | .error e =>
      let rest := load imports known files
      { rest with warnings := e.message file.toString :: rest.warnings }
    | .ok rule =>
      match known.find? fun k => k.name == rule.name with
      | some k =>
        let rest := load imports known files
        { rest with warnings := takenMessage rule.name file.toString k.origin :: rest.warnings }
      | none =>
        let rest := load imports (⟨rule.name, file.toString⟩ :: known) files
        let note := s!"Loaded custom rule {rule.name} from {file.toString}"
        { rest with
          loaded := ⟨rule, file⟩ :: rest.loaded
          log := ⟨.debug, .loader, note⟩ :: rest.log }

/-- The custom rules below a directory. Every warning is logged once all
files are loaded. -/
def loadAll (imports : Path → Import) (root : FileTree) (directory : Path)
    (patterns : List String) (known : List KnownRule) : Except SearchError Loading := do
  let found ← find root directory patterns
  let loading := load imports known.reverse found.files
  let warnings := found.warnings ++ loading.warnings
  return { loading with
    warnings
    log := loading.log ++ warnings.map fun w => ⟨.warning, .loader, w⟩ }

end CustomRules

end TemplateLint
