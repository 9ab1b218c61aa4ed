import TemplateLint.FileTree
import TemplateLint.Text.Wildcard
/-!
# Paths — searching a file tree

A pattern of names, with slashes between them, that is followed from a
directory: a name may be a wildcard pattern, and two stars stand for a
directory and all directories below it. The search finds files. Hidden
names are names like others.
-/

namespace TemplateLint

namespace Glob

/-- A name of a pattern. -/
inductive Part where
  /-- The directory and all directories below it. -/
  | anyDepth
  /-- Every entry that a wildcard pattern matches. -/
  | wildcard (pattern : List Wildcard.Part)
  /-- The entry with this name. -/
  | exactly (name : Text)
  deriving DecidableEq, Repr

/-- Why a pattern cannot be searched for. -/
inductive Error where
  /-- The pattern is empty. -/
  | empty
  /-- The pattern starts at the root. -/
  | rooted
  /-- Two stars stand inside a name. -/
  | starsInName
  /-- The pattern names nothing. -/
  | nameless
  /-- The pattern names nothing and ends with a slash. -/
  | namelessDirectory
  deriving DecidableEq, Repr

/-- The words for a pattern that cannot be searched for. -/
def Error.message : Error → String
  | .empty => "Unacceptable pattern: ''"
  | .rooted => "Non-relative patterns are unsupported"
  | .starsInName => "Invalid pattern: '**' can only be an entire path component"
  | .nameless => "tuple index out of range"
  | .namelessDirectory => "a pattern without names cannot be searched for"

/-- Two stars. -/
def stars : Text := ['*', '*']

/-- What one name of a pattern stands for. -/
def part? (name : Text) : Except Error Part :=
  if name = stars then .ok .anyDepth
  else if Text.contains stars name then .error .starsInName
  else if name.any fun c => c = '*' || c = '?' || c = '[' then .ok (.wildcard (Wildcard.read name))
  else .ok (.exactly name)

/-- The parts of a pattern, and whether it ends with a slash, which only
directories match. -/
def read? (pattern : Text) : Except Error (List Part × Bool) :=
  let onlyDirectories := Text.endsWith ['/'] pattern
  if pattern.isEmpty then .error .empty
  else if Path.startOf pattern ≠ .here then .error .rooted
  else
    match Path.namesOf pattern with
    | [] => .error (if onlyDirectories then .namelessDirectory else .nameless)
    | names => (names.mapM part?).map fun parts => (parts, onlyDirectories)

/-- The files that parts lead to from a directory, and the names that lead
to both. -/
def select (root : FileTree) : List Part → List Text → List (List Text)
  | [], place => if root.hasFile ⟨.root, place⟩ then [place] else []
  | .anyDepth :: parts, place =>
    match root.find? ⟨.root, place⟩ with
    | .error _ => []
    | .ok t => t.directories.flatMap fun names => select root parts (place ++ names)
  | .wildcard pattern :: parts, place =>
    match root.find? ⟨.root, place⟩ with
    | .error _ => []
    | .ok t =>
      (t.entryNames.filter (Wildcard.accepts pattern)).flatMap fun name =>
        select root parts (place ++ [name])
  | .exactly name :: parts, place =>
    if root.hasDirectory ⟨.root, place⟩ then
      select root parts (if name = ['.', '.'] then place.dropLast else place ++ [name])
    else []

/-- The files below a directory that a pattern matches. -/
def files? (root : FileTree) (directory : Path) (pattern : Text) :
    Except Error (List Path) := do
  let (parts, onlyDirectories) ← read? pattern
  if onlyDirectories || !root.hasDirectory directory then return []
  else return (select root parts directory.names).map fun names => ⟨directory.start, names⟩

end Glob

end TemplateLint
