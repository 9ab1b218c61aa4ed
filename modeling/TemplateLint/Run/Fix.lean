import TemplateLint.Run.Basic
/-!
# Run — fixing files

Every file of a run is fixed on its own. Nothing is written on the way:
the run comes to a list of changes, each a file with its old and its new
text, and a file whose text stays the same is not among them.
`FileChange.write` puts the new text into the file.
-/

namespace TemplateLint

/-- A file with its text before and after. -/
structure FileChange where
  file : Path
  old : Text
  new : Text
  deriving DecidableEq, Repr

namespace FileChange

/-- The files with the new text of one of them in its place. -/
def write (c : FileChange) (root : FileTree) : FileTree :=
  FileTree.put (.file (Text.encode c.new)) c.file.names root

/-- The files with the new texts of some of them in their places. -/
def writeAll (changes : List FileChange) (root : FileTree) : FileTree :=
  changes.foldl (fun root c => c.write root) root

end FileChange

/-- What fixing a file comes to. -/
inductive FileFix where
  | fixed (file : Path) (old : Text) (outcome : Linter.FixOutcome)
  | unread (name : String) (error : ReadError)
  deriving Repr

namespace FileFix

/-- The change to the file, if its text does not stay the same. -/
def change? : FileFix → Option FileChange
  | .fixed file old outcome =>
    if outcome.source = old then none else some ⟨file, old, outcome.source⟩
  | .unread .. => none

/-- The number of offenses that are left. -/
def unfixed : FileFix → Nat
  | .fixed _ _ outcome => outcome.unfixed
  | .unread .. => 0

/-- The warning about a file without text. -/
def warning? : FileFix → Option String
  | .fixed .. => none
  | .unread name e => some (e.warning name)

/-- What is logged about a file. -/
def log : FileFix → Log
  | .fixed _ _ outcome => outcome.log
  | .unread name e => [⟨.warning, .runner, e.warning name⟩]

/-- How the fixing of the file broke off, if it did. -/
def failure? : FileFix → Option Crash
  | .fixed _ _ outcome => outcome.failure
  | .unread .. => none

end FileFix

/-- What fixing files comes to. -/
structure FixRun where
  changes : List FileChange := []
  /-- The number of offenses that are left. -/
  unfixed : Nat := 0
  warnings : List String := []
  deriving Repr

/-- The result of fixing some files. -/
def FixRun.ofFixes (fixes : List FileFix) : FixRun where
  changes := fixes.filterMap FileFix.change?
  unfixed := (fixes.map FileFix.unfixed).foldl (· + ·) 0
  warnings := fixes.filterMap FileFix.warning?

namespace Setup

/-- What fixing one file comes to. -/
def fixFile (s : Setup) (w : Workspace) (p : Project) (file : Path) : FileFix :=
  let name := w.nameOf p file
  match w.root.text? file with
  | .error e => .unread name e
  | .ok old => .fixed file old (s.linter.fixSource old (some name) p.settings.passes)

/-- What fixing the files that some paths stand for comes to, file by
file. -/
def fixes (s : Setup) (w : Workspace) (p : Project) (paths : List Path) : List FileFix :=
  (Discovery.files w.root w.here p.settings paths).map (s.fixFile w p)

/-- What is logged before the first file is fixed. -/
def fixLog (w : Workspace) (p : Project) (paths : List Path) : Log :=
  let count := (Discovery.files w.root w.here p.settings paths).length
  Discovery.log w.root w.here p.settings paths
    ++ [⟨.info, .runner, s!"Found {count} files to fix"⟩]

/-- What is logged about the files up to the one on which the work broke
off. -/
def brokenLog : List FileFix → Log
  | [] => []
  | f :: fixes => f.log ++ if f.failure?.isSome then [] else brokenLog fixes

/-- **Fixing the files that some paths stand for.** -/
def fix (s : Setup) (w : Workspace) (p : Project) (paths : List Path) :
    Except RunFailure (FixRun × Log) :=
  match pathFailure? w p paths with
  | some failure => .error failure
  | none =>
    let fixes := s.fixes w p paths
    let log := fixLog w p paths
    match fixes.findSome? FileFix.failure? with
    | some crash => .error { error := .crash crash, log := log ++ brokenLog fixes }
    | none => .ok (FixRun.ofFixes fixes, log ++ fixes.flatMap FileFix.log)

end Setup

end TemplateLint
