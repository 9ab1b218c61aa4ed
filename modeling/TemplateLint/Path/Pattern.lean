import TemplateLint.Text.Wildcard
/-!
# Paths — patterns over directories

A pattern for relative paths with slashes. Without `**` it is a wildcard
pattern for the whole path. With it the pattern has one of five shapes:
some directory above matches, the end of the path matches, the path
starts with a directory and its end matches, it lies below a directory,
or none of these, and then it is a wildcard pattern again.
-/

namespace TemplateLint

namespace PathPattern

/-- Two stars: any directories. -/
def anyDirectories : Text := ['*', '*']

/-- The shapes of a pattern. -/
inductive Shape where
  /-- The whole path matches. -/
  | whole (pattern : Text)
  /-- The name of a directory above matches. -/
  | inside (pattern : Text)
  /-- The end of the path matches, from the start of some name on. -/
  | ending (pattern : Text)
  /-- The path lies in a directory, and its end there matches. -/
  | between (directory pattern : Text)
  /-- The path is a directory or lies in it. -/
  | below (directory : Text)
  deriving DecidableEq, Repr

/-- The text with an end cut off, if it has that end. -/
def before? (ending t : Text) : Option Text :=
  (Text.after? ending.reverse t.reverse).map List.reverse

/-- The shape of a pattern. -/
def shape (pattern : Text) : Shape :=
  if !Text.contains anyDirectories pattern then .whole pattern
  else
    match Text.after? ['*', '*', '/'] pattern, before? ['/', '*', '*'] pattern with
    | some _, some _ => .inside (pattern.slice 3 (-3))
    | some tail, none => .ending tail
    | none, front =>
      match Text.cutAt? ['/', '*', '*', '/'] pattern with
      | some (directory, tail) => .between directory tail
      | none =>
        match front with
        | some directory => .below directory
        | none => .whole pattern

/-- The names of a path. -/
def names (path : Text) : List Text :=
  path.splitAt '/'

/-- Names joined to a path. -/
def joined (names : List Text) : Text :=
  List.intercalate ['/'] names

/-- What is left of a path after some of its names, at least one being
left. -/
def endings : List Text → List Text
  | [] => []
  | name :: names => joined (name :: names) :: endings names

/-- A path has a shape. -/
def Shape.holds (path : Text) : Shape → Bool
  | .whole pattern => Wildcard.fits pattern path
  | .inside pattern => (names path).dropLast.any (Wildcard.fits pattern)
  | .ending pattern => (endings (names path)).any (Wildcard.fits pattern)
  | .between directory pattern =>
    match Text.after? (directory ++ ['/']) path with
    | none => false
    | some rest => (endings (names rest)).any (Wildcard.fits pattern)
  | .below directory => Text.startsWith (directory ++ ['/']) path || path == directory

/-- A pattern matches a path. -/
def fits (pattern path : Text) : Bool :=
  (shape pattern).holds path

end PathPattern

end TemplateLint
