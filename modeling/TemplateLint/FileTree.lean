import TemplateLint.Path.Basic
import TemplateLint.Text.Quoted
import TemplateLint.Text.Utf8
/-!
# File trees — directories and files

A file system as a value: a directory of named entries, each a file or a
directory again. A file has its octets, or cannot be read though it is
there. There are no links, so a place in the tree is a list of names. A
path is followed from the root name by name (`FileTree.find?`), which
fails where a name is missing or something is no directory; double dots
lead back up through directories that exist.
-/

namespace TemplateLint

/-- Why a file cannot be reached or read. -/
inductive FileError where
  | notFound
  | notDirectory
  | isDirectory
  | nameTooLong
  /-- The system refuses to open it, with a number and words of its own. -/
  | refused (number : Nat) (words : String)
  /-- It is opened, but reading it breaks off. -/
  | brokeOff (number : Nat) (words : String)
  deriving DecidableEq, Repr

/-- The report of a file that cannot be read, under the name it was asked
for by. A file that was opened is not named again. -/
def FileError.message (e : FileError) (asked : Text) : String :=
  let named (what : String) := what ++ ": " ++ String.ofList (Text.quoted asked)
  match e with
  | .notFound => named "[Errno 2] No such file or directory"
  | .notDirectory => named "[Errno 20] Not a directory"
  | .isDirectory => named "[Errno 21] Is a directory"
  | .nameTooLong => named "[Errno 36] File name too long"
  | .refused number words => named s!"[Errno {number}] {words}"
  | .brokeOff number words => s!"[Errno {number}] {words}"

/-- A file or a directory. -/
inductive FileTree where
  | file (octets : List UInt8)
  /-- A file that cannot be read. -/
  | unreadable (error : FileError)
  | directory (entries : List (Text × FileTree))
  deriving Repr, Inhabited

namespace FileTree

/-- A directory. -/
def isDirectory : FileTree → Bool
  | .directory _ => true
  | .file _ | .unreadable _ => false

/-- A file. -/
def isFile (t : FileTree) : Bool :=
  !t.isDirectory

/-- A name has more octets than an entry can be called by. -/
def isTooLong (name : Text) : Bool :=
  255 < (Text.encode name).length

/-- What stands under a name. -/
def entry? (t : FileTree) (name : Text) : Except FileError FileTree :=
  match t with
  | .file _ | .unreadable _ => .error .notDirectory
  | .directory entries =>
    match entries.lookup name with
    | none => .error (if isTooLong name then .nameTooLong else .notFound)
    | some e => .ok e

/-- What names lead to, given the directories above from the inside
out. -/
def follow (above : List FileTree) (t : FileTree) : List Text → Except FileError FileTree
  | [] => .ok t
  | name :: names =>
    if t.isFile then .error .notDirectory
    else if name = ['.', '.'] then
      match above with
      | [] => follow [] t names
      | up :: above => follow above up names
    else
      match t.entry? name with
      | .error e => .error e
      | .ok e => follow (t :: above) e names

/-- What a path from the root leads to. -/
def find? (root : FileTree) (p : Path) : Except FileError FileTree :=
  follow [] root p.names

/-- A path from the root leads to a file. -/
def hasFile (root : FileTree) (p : Path) : Bool :=
  match root.find? p with
  | .ok t => t.isFile
  | .error _ => false

/-- A path from the root leads to a directory. -/
def hasDirectory (root : FileTree) (p : Path) : Bool :=
  match root.find? p with
  | .ok t => t.isDirectory
  | .error _ => false

/-- A path from the root leads to anything. -/
def exists? (root : FileTree) (p : Path) : Bool :=
  (root.find? p).isOk

/-- The octets of the file that a path from the root leads to. -/
def octets? (root : FileTree) (p : Path) : Except FileError (List UInt8) :=
  match root.find? p with
  | .error e => .error e
  | .ok (.directory _) => .error .isDirectory
  | .ok (.unreadable e) => .error e
  | .ok (.file octets) => .ok octets

mutual

/-- The names that lead to the files at and below an entry. -/
def files : FileTree → List (List Text)
  | .file _ | .unreadable _ => [[]]
  | .directory entries => filesOf entries

/-- The names that lead to the files below some entries. -/
def filesOf : List (Text × FileTree) → List (List Text)
  | [] => []
  | (name, e) :: entries => (files e).map (name :: ·) ++ filesOf entries

end

mutual

/-- The names that lead to the directories at and below an entry. -/
def directories : FileTree → List (List Text)
  | .file _ | .unreadable _ => []
  | .directory entries => [] :: directoriesOf entries

/-- The names that lead to the directories below some entries. -/
def directoriesOf : List (Text × FileTree) → List (List Text)
  | [] => []
  | (name, e) :: entries => (directories e).map (name :: ·) ++ directoriesOf entries

end

/-- The names of the entries of a directory. -/
def entryNames : FileTree → List Text
  | .file _ | .unreadable _ => []
  | .directory entries => entries.map (·.1)

/-- An entry set under a name: in place if it is there, else at the
end. -/
def putEntry (entries : List (Text × FileTree)) (name : Text) (e : FileTree) :
    List (Text × FileTree) :=
  if entries.any (·.1 == name) then
    entries.map fun entry => if entry.1 == name then (name, e) else entry
  else entries ++ [(name, e)]

/-- The tree with something put where names lead. Directories on the way
are made, and what stands in the way of them is replaced. -/
def put (content : FileTree) : List Text → FileTree → FileTree
  | [], _ => content
  | name :: names, t =>
    let entries := match t with
      | .directory entries => entries
      | .file _ | .unreadable _ => []
    let below := (entries.lookup name).getD (.directory [])
    .directory (putEntry entries name (put content names below))

end FileTree

end TemplateLint
