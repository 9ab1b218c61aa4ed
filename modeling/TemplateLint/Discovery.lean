import TemplateLint.FileTree
import TemplateLint.Path.Pattern
import TemplateLint.Settings.Basic
import TemplateLint.Log
/-!
# Discovery — the templates of a run

Which files a run looks at, given some paths. A path to a file stands for
that file, unless its name is excluded. A path to a directory stands for
the files below it that are included and not excluded, judged by their
paths from there. Each file is listed once, in the order of paths.
-/

namespace TemplateLint

namespace Discovery

/-- The path of something as patterns see it: from a directory, if it lies
below that, and with slashes only. -/
def shownFrom (base p : Path) : Text :=
  let shown := match base.below? p with
    | some names => Path.mk .here names
    | none => p
  shown.written.map fun c => if c = '\\' then '/' else c

/-- Some pattern matches something, seen from a directory. -/
def matchesAny (patterns : List String) (base p : Path) : Bool :=
  patterns.any fun pattern => PathPattern.fits pattern.toList (shownFrom base p)

/-- The files at and below a path. -/
def filesBelow (root : FileTree) (p : Path) : List Path :=
  match root.find? p with
  | .error _ => []
  | .ok t => t.files.map fun names => ⟨p.start, p.names ++ names⟩

/-- A file below a directory belongs to the run. -/
def isWanted (s : Settings) (base file : Path) : Bool :=
  !matchesAny s.excluded base file && matchesAny s.included base file

/-- The files that a path stands for. -/
def filesFor (root : FileTree) (s : Settings) (p : Path) : List Path :=
  if root.hasFile p then (if matchesAny s.excluded p.parent p then [] else [p])
  else (filesBelow root p).filter (isWanted s p)

/-- The files below a directory that are excluded. -/
def excludedFor (root : FileTree) (s : Settings) (p : Path) : List Path :=
  if root.hasFile p then [] else (filesBelow root p).filter (matchesAny s.excluded p)

/-- Paths in order, each once. -/
def listed (ps : List Path) : List Path :=
  ps.eraseDups.mergeSort Path.le

/-- The files that some paths stand for, in order. -/
def files (root : FileTree) (here : Path) (s : Settings) (paths : List Path) : List Path :=
  listed (paths.flatMap fun p => filesFor root s (p.resolve here))

/-- What is logged on the way. -/
def log (root : FileTree) (here : Path) (s : Settings) (paths : List Path) : Log :=
  paths.flatMap fun p =>
    (excludedFor root s (p.resolve here)).map fun file =>
      ⟨.debug, .scanner, "Excluded " ++ file.toString⟩

/-- The name a file goes by: its path from a directory, if it lies below
that. -/
def displayName (directory file : Path) : String :=
  match directory.below? file with
  | some names => (Path.mk .here names).toString
  | none => file.toString

end Discovery

end TemplateLint
