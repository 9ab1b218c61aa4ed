import TemplateLint.Text.Basic
/-!
# Paths — names from a root or from where one stands

A path is where it starts and the names to follow from there. Empty names
and single dots say nothing and are dropped when a path is read; double
dots are kept until it is resolved (`Path.resolve`). Paths are ordered
name by name, so a directory comes before a longer name of its own kind.
-/

namespace TemplateLint

/-- Where a path starts. -/
inductive PathStart where
  /-- Where one stands. -/
  | here
  /-- The root. -/
  | root
  /-- The root, written with two slashes. -/
  | doubleRoot
  deriving DecidableEq, Repr

/-- The text a path starts with. -/
def PathStart.written : PathStart → Text
  | .here => []
  | .root => ['/']
  | .doubleRoot => ['/', '/']

/-- A path of files or directories. -/
structure Path where
  start : PathStart
  names : List Text
  deriving DecidableEq, Repr

namespace Path

/-- A name that says nothing. -/
def isIdle (name : Text) : Bool :=
  name = [] || name = ['.']

/-- The names of a text with slashes, without those that say nothing. -/
def namesOf (t : Text) : List Text :=
  (t.splitAt '/').filter fun name => !isIdle name

/-- Where a text says that a path starts. Three slashes and more are one
slash. -/
def startOf : Text → PathStart
  | '/' :: '/' :: '/' :: _ => .root
  | '/' :: '/' :: _ => .doubleRoot
  | '/' :: _ => .root
  | _ => .here

/-- The path that a text stands for. -/
def read (t : Text) : Path :=
  ⟨startOf t, namesOf t⟩

/-- The names with slashes between them. -/
def joined (names : List Text) : Text :=
  List.intercalate ['/'] names

/-- The text of a path: a dot if there is nothing to follow. -/
def written (p : Path) : Text :=
  if p.start = .here && p.names.isEmpty then ['.'] else p.start.written ++ joined p.names

/-- The text of a path. -/
protected def toString (p : Path) : String :=
  String.ofList p.written

/-- A null character stands in a name, so that nothing can be found
there. -/
def hasNull (p : Path) : Bool :=
  p.names.any fun name => name.any (· = '\x00')

/-- The words for a path with a null character. -/
def nullMessage : String := "embedded null byte"

/-- The path does not depend on where one stands. -/
def isAbsolute (p : Path) : Bool :=
  p.start ≠ .here

/-- A path followed from another. -/
def append (p q : Path) : Path :=
  if q.isAbsolute then q else ⟨p.start, p.names ++ q.names⟩

/-- The path of something in a directory. -/
def child (p : Path) (name : Text) : Path :=
  ⟨p.start, p.names ++ [name]⟩

/-- The path of the directory that something is in. The root is in
itself. -/
def parent (p : Path) : Path :=
  ⟨p.start, p.names.dropLast⟩

/-- The last name. -/
def name (p : Path) : Text :=
  p.names.getLast?.getD []

/-- The names to follow from a directory, if the path leads through it. -/
def below? (base p : Path) : Option (List Text) :=
  if base.start = p.start && base.names.isPrefixOf p.names then
    some (p.names.drop base.names.length)
  else none

/-- Names followed from a directory, given from the inside out: a double
dot leads one up, and the root stays the root. -/
def follow (inside : List Text) : List Text → List Text
  | [] => inside.reverse
  | name :: names =>
    if name = ['.', '.'] then follow inside.tail names else follow (name :: inside) names

/-- The path from the root, double dots followed, of one that starts where
one stands. The root is then written with one slash. -/
def resolve (p here : Path) : Path :=
  let q := here.append p
  ⟨if q.isAbsolute then .root else .here, follow [] q.names⟩

/-- Some names come before others in the order of paths. -/
def namesLe : List Text → List Text → Bool
  | [], _ => true
  | _ :: _, [] => false
  | a :: as, b :: bs => if a = b then namesLe as bs else decide (a < b)

/-- One path is listed no later than another: name by name. -/
def le (p q : Path) : Bool :=
  if p.start = q.start then namesLe p.names q.names
  else namesLe [p.start.written] [q.start.written]

end Path

end TemplateLint
