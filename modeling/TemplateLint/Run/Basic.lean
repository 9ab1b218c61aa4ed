import TemplateLint.Linter.Autofix
import TemplateLint.Plugin
import TemplateLint.Settings.CustomRules
import TemplateLint.Settings.Linter
/-!
# Run — what a run works with

A run finds a workspace: the files, where one stands, the modules that are
installed, and what importing a file of custom rules comes to. From that
and the settings of a project it is set up: the parser and the printer are
loaded, and so are the custom rules, and a linter is built of them. What
goes wrong before that breaks the run off; what goes wrong with a custom
rule is a warning.
-/

namespace TemplateLint

/-- What a run finds. -/
structure Workspace where
  root : FileTree
  /-- Where one stands. -/
  here : Path
  modules : List Module
  /-- What importing a file of custom rules comes to. -/
  imports : Path → Import
  /-- The directory that the rules of the library are installed in. -/
  home : String

/-- The directory of a project, from the root. -/
def Workspace.directory (w : Workspace) (p : Project) : Path :=
  (p.directory w.here).resolve w.here

/-- What a file of a project goes by. -/
def Workspace.nameOf (w : Workspace) (p : Project) (file : Path) : String :=
  Discovery.displayName (w.directory p) file

/-! ## Reading files -/

/-- Why there is no text in a file. -/
inductive ReadError where
  | unreachable (file : Path) (error : FileError)
  | undecodable (error : Text.DecodingError)
  /-- What parses the text failed, as reading a file does. -/
  | parser (crash : Crash)
  deriving Repr

/-- The words for a file without text. -/
def ReadError.message : ReadError → String
  | .unreachable file e => e.message file.written
  | .undecodable e => e.message
  | .parser crash => crash.message

/-- The warning about a file without text. -/
def ReadError.warning (name : String) (e : ReadError) : String :=
  s!"Cannot read {name}: {e.message}"

/-- The failure to look for a path, if it holds a null character or leads
to a name that is too long. -/
def FileTree.lookupCrash? (root : FileTree) (here path : Path) : Option Crash :=
  if path.hasNull then some (.of "ValueError" Path.nullMessage)
  else
    match root.find? (path.resolve here) with
    | .error .nameTooLong => some (.of "OSError" (FileError.nameTooLong.message path.written))
    | _ => none

/-- The text of a file. -/
def FileTree.text? (root : FileTree) (file : Path) : Except ReadError Text :=
  match root.octets? file with
  | .error e => .error (.unreachable file e)
  | .ok octets => (Text.decode octets).mapError .undecodable

/-! ## Setting up -/

/-- Why a run breaks off. -/
inductive RunError where
  /-- The parser or the printer is missing. -/
  | plugin (error : PluginError)
  /-- The search for custom rules breaks off. -/
  | search (error : CustomRules.SearchError)
  /-- The rules make no linter. -/
  | rules (error : LinterError)
  /-- A path cannot be looked for, or the work on a file broke off. -/
  | crash (crash : Crash)

/-- The words for a run that breaks off. -/
def RunError.message : RunError → String
  | .plugin e => e.message
  | .search .nameless => "a pattern for custom rules names nothing"
  | .search .namelessDirectory => "a pattern for custom rules names no file"
  | .rules e => e.message
  | .crash failure => failure.message

/-- A run that broke off, with its log until then. -/
structure RunFailure where
  error : RunError
  log : Log := []

/-- What a run works with. -/
structure Setup where
  linter : Linter
  warnings : List String := []
  log : Log := []

namespace Setup

/-- The callable that a reference leads to, if there is a reference. -/
def plugin? (modules : List Module) :
    Option String → Except RunFailure (Option Callable)
  | none => .ok none
  | some reference =>
    match Plugin.load? modules reference with
    | .ok c => .ok (some c)
    | .error e => .error { error := .plugin e }

/-- What is logged about the parser. -/
def parserLog (parser : Option Callable) : Log :=
  if parser.isSome then []
  else [⟨.info, .runner, "No parser configured; only source rules will run"⟩]

/-- The custom rules of a project. -/
def customRules? (w : Workspace) (p : Project) :
    Except CustomRules.SearchError CustomRules.Loading :=
  CustomRules.loadAll w.imports w.root (w.directory p) p.settings.customRules
    (Rule.builtins.map (KnownRule.ofBuiltin w.home))

/-- **Setting up a run of a project.** -/
def ofProject? (w : Workspace) (p : Project) : Except RunFailure Setup := do
  let parser ← plugin? w.modules p.settings.parser
  let printer ← plugin? w.modules p.settings.printer
  let log := parserLog parser
  let loading ← (customRules? w p).mapError fun e => { error := .search e, log }
  let log := log ++ loading.log
  let equipment : Equipment :=
    { parse := parser.map Callable.parse, print := printer.map Callable.print }
  let linter ← (p.settings.linter? (loading.loaded.map (·.rule)) equipment).mapError
    fun e => { error := .rules e, log }
  return { linter, warnings := loading.warnings, log }

/-- The failure to look for files, if a path cannot be looked for, with
what is logged about the paths before it. -/
def pathFailure? (w : Workspace) (p : Project) (paths : List Path) : Option RunFailure :=
  (paths.findSome? (w.root.lookupCrash? w.here)).map fun crash =>
    let before := paths.takeWhile fun path => (w.root.lookupCrash? w.here path).isNone
    { error := .crash crash, log := Discovery.log w.root w.here p.settings before }

end Setup

end TemplateLint
