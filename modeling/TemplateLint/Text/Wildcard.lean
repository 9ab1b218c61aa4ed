import TemplateLint.Text.Basic
/-!
# Text — wildcard patterns

A pattern in which `*` stands for any text, `?` for any one character,
and a bracket for one character of a set or, after `!`, outside it. A
pattern is read once (`Wildcard.read`) and matches a whole text or not
(`Wildcard.accepts`). A bracket that is never closed stands for itself.
A range whose ends are in the wrong order holds nothing.
-/

namespace TemplateLint

namespace Wildcard

/-- What one part of a pattern stands for. -/
inductive Part where
  /-- Any text. -/
  | anyText
  /-- Any one character. -/
  | anyChar
  /-- One character, itself. -/
  | char (c : Char)
  /-- One character in one of some closed ranges, or in none of them. -/
  | oneOf (negated : Bool) (ranges : List (Char × Char))
  deriving DecidableEq, Repr

/-! ## Reading a bracket -/

/-- The content of a bracket whose opening has been read, and the text
behind it. A `]` at the very start of the set belongs to it. -/
def bracket? (t : Text) : Option (Text × Text) :=
  let (mark, t) := match t with
    | '!' :: t => (['!'], t)
    | t => ([], t)
  let (first, t) := match t with
    | ']' :: t => ([']'], t)
    | t => ([], t)
  match t.span (· ≠ ']') with
  | (rest, ']' :: t) => some (mark ++ first ++ rest, t)
  | _ => none

/-- A set cut at the dashes that make ranges. A dash among the next
`kept` characters stands for itself; `chunk` holds what was read of the
chunk under way, last character first. -/
def chunksFrom (kept : Nat) (chunk : Text) : Text → List Text
  | [] => [chunk.reverse]
  | c :: t =>
    if c = '-' && kept = 0 then chunk.reverse :: chunksFrom 2 [] t
    else chunksFrom (kept - 1) (c :: chunk) t

/-- A dash that ends the set stands for itself. -/
def closeChunks : List Text → List Text
  | [] => []
  | [chunk, []] => [chunk ++ ['-']]
  | chunk :: chunks => chunk :: closeChunks chunks

/-- The chunks without the ranges between them that are empty: the two
ends of such a range are dropped. -/
def dropEmptyRanges : List Text → List Text
  | [] => []
  | chunk :: chunks =>
    match dropEmptyRanges chunks with
    | [] => [chunk]
    | next :: rest =>
      match chunk.getLast?, next.head? with
      | some last, some first =>
        if first < last then (chunk.dropLast ++ next.drop 1) :: rest
        else chunk :: next :: rest
      | _, _ => chunk :: next :: rest

/-- The chunks of a set. -/
def chunks (set : Text) : List Text :=
  let kept := if Text.startsWith ['!'] set then 2 else 1
  dropEmptyRanges (closeChunks (chunksFrom kept [] set))

/-- The range from the end of a chunk to the start of the next. A dash
with nothing before it stands for itself. -/
def rangeBetween (chunk next : Text) : Char × Char :=
  match chunk.getLast?, next.head? with
  | some first, some last => (first, last)
  | _, _ => ('-', '-')

/-- The ranges of some chunks. -/
def rangesOf : List Text → List (Char × Char)
  | [] => []
  | [chunk] => chunk.map fun c => (c, c)
  | chunk :: next :: rest =>
    chunk.map (fun c => (c, c)) ++ rangeBetween chunk next :: rangesOf (next :: rest)

/-- The part that a set stands for. -/
def setPart (set : Text) : Part :=
  match chunks set with
  | ('!' :: chunk) :: rest => .oneOf true (rangesOf (chunk :: rest))
  | cs => .oneOf false (rangesOf cs)

/-! ## Reading a pattern -/

/-- The parts of a pattern of which the first characters are covered by
the bracket before; `covered` counts them. -/
def readFrom : Nat → Text → List Part
  | _, [] => []
  | covered + 1, _ :: t => readFrom covered t
  | 0, c :: t =>
    if c = '*' then .anyText :: readFrom 0 t
    else if c = '?' then .anyChar :: readFrom 0 t
    else if c = '[' then
      match bracket? t with
      | some (set, _) => setPart set :: readFrom (set.length + 1) t
      | none => .char '[' :: readFrom 0 t
    else .char c :: readFrom 0 t

/-- The parts of a pattern. -/
def read (pattern : Text) : List Part :=
  readFrom 0 pattern

/-! ## Matching -/

/-- A character is the one that a part stands for. -/
def Part.holds : Part → Char → Bool
  | .anyText, _ => false
  | .anyChar, _ => true
  | .char d, c => d = c
  | .oneOf negated ranges, c => negated != ranges.any fun r => r.1 ≤ c && c ≤ r.2

/-! A text is read from its end. For what was read so far a row says, for
every part of the pattern and for its end, whether the parts from there on
stand for it, so that a match costs one step per part and character. -/

/-- The row of the empty text. -/
def emptyRow : List Part → List Bool
  | [] => [true]
  | part :: parts =>
    let row := emptyRow parts
    (part = .anyText && row.headD false) :: row

/-- The row of a text, from the row of what follows its first
character. -/
def nextRow (c : Char) : List Part → List Bool → List Bool
  | part :: parts, here :: below =>
    let row := nextRow c parts below
    (if part = .anyText then row.headD false || here
      else part.holds c && below.headD false) :: row
  | _, _ => [false]

/-- The row of a text. -/
def rowOf (parts : List Part) (t : Text) : List Bool :=
  t.foldr (nextRow · parts) (emptyRow parts)

/-- Some parts stand for a whole text. -/
def accepts (parts : List Part) (t : Text) : Bool :=
  (rowOf parts t).headD false

theorem rowOf_cons (part : Part) (parts : List Part) (t : Text) :
    rowOf (part :: parts) t = accepts (part :: parts) t :: rowOf parts t := by
  have shape : ∃ here, rowOf (part :: parts) t = here :: rowOf parts t := by
    induction t with
    | nil => exact ⟨_, rfl⟩
    | cons c t ih =>
      obtain ⟨here, h⟩ := ih
      have step : rowOf (part :: parts) (c :: t)
          = nextRow c (part :: parts) (rowOf (part :: parts) t) := rfl
      rw [step, h]
      exact ⟨_, rfl⟩
  obtain ⟨here, h⟩ := shape
  simp [accepts, h]

theorem accepts_nil (t : Text) : accepts [] t = t.isEmpty := by
  cases t <;> rfl

theorem accepts_anyText_nil (parts : List Part) :
    accepts (.anyText :: parts) [] = accepts parts [] := by
  simp [accepts, rowOf, emptyRow]

/-- Any text takes up one more character, or none. -/
theorem accepts_anyText_cons (parts : List Part) (c : Char) (t : Text) :
    accepts (.anyText :: parts) (c :: t)
      = (accepts parts (c :: t) || accepts (.anyText :: parts) t) := by
  have step : rowOf (.anyText :: parts) (c :: t)
      = nextRow c (.anyText :: parts) (rowOf (.anyText :: parts) t) := rfl
  rw [accepts, step, rowOf_cons]
  simp [nextRow, accepts, rowOf]

theorem accepts_cons_nil {part : Part} (parts : List Part) (h : part ≠ .anyText) :
    accepts (part :: parts) [] = false := by
  simp [accepts, rowOf, emptyRow, h]

/-- Any other part takes up one character. -/
theorem accepts_cons_cons {part : Part} (parts : List Part) (c : Char) (t : Text)
    (h : part ≠ .anyText) :
    accepts (part :: parts) (c :: t) = (part.holds c && accepts parts t) := by
  have step : rowOf (part :: parts) (c :: t)
      = nextRow c (part :: parts) (rowOf (part :: parts) t) := rfl
  rw [accepts, step, rowOf_cons]
  simp [nextRow, accepts, h]

/-- A pattern matches a whole text. -/
def fits (pattern t : Text) : Bool :=
  accepts (read pattern) t

end Wildcard

end TemplateLint
