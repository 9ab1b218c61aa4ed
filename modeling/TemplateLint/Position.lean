import TemplateLint.Text.Basic
/-!
# Positions — lines, columns and spans

A position is a line, counted from one, and a column, counted from zero.
Reading text moves a position on (`Position.advance`), and never back
(`Position.le_advance`), so the span of a slice of text is a `Location`
by construction. Positions from outside are checked instead
(`Position.ofInts?`, `Location.between?`).
-/

namespace TemplateLint

/-- A point in a text: a line, counted from one, and a column, counted
from zero. -/
structure Position where
  line : Nat
  column : Nat
  deriving DecidableEq, Repr

namespace Position

/-- Positions are ordered by line, then by column. -/
protected def le (p q : Position) : Prop :=
  p.line < q.line ∨ (p.line = q.line ∧ p.column ≤ q.column)

instance : LE Position := ⟨Position.le⟩

instance (p q : Position) : Decidable (p ≤ q) :=
  inferInstanceAs (Decidable (p.line < q.line ∨ (p.line = q.line ∧ p.column ≤ q.column)))

theorem le_def {p q : Position} :
    p ≤ q ↔ p.line < q.line ∨ (p.line = q.line ∧ p.column ≤ q.column) := Iff.rfl

@[simp] theorem le_refl (p : Position) : p ≤ p :=
  .inr ⟨rfl, Nat.le_refl _⟩

theorem le_trans {p q r : Position} (h₁ : p ≤ q) (h₂ : q ≤ r) : p ≤ r := by
  rw [le_def] at *
  omega

/-- Where every text starts. -/
def origin : Position := ⟨1, 0⟩

/-- The position after one character. -/
def step (p : Position) (c : Char) : Position :=
  if c = '\n' then ⟨p.line + 1, 0⟩ else ⟨p.line, p.column + 1⟩

/-- The position after a text. -/
def advance (p : Position) (t : Text) : Position :=
  t.foldl step p

@[simp] theorem advance_nil (p : Position) : p.advance [] = p := rfl

@[simp] theorem advance_cons (p : Position) (c : Char) (t : Text) :
    p.advance (c :: t) = (p.step c).advance t := rfl

theorem advance_append (p : Position) (s t : Text) :
    p.advance (s ++ t) = (p.advance s).advance t :=
  List.foldl_append

/-- The position after so many characters of a text. -/
def advanceBy (p : Position) : Nat → Text → Position
  | 0, _ => p
  | _ + 1, [] => p
  | count + 1, c :: t => (p.step c).advanceBy count t

theorem advanceBy_eq_advance_take (p : Position) (count : Nat) (t : Text) :
    p.advanceBy count t = p.advance (t.take count) := by
  fun_induction advanceBy p count t <;> simp_all

theorem le_step (p : Position) (c : Char) : p ≤ p.step c := by
  unfold step
  split
  · exact .inl (Nat.lt_succ_self _)
  · exact .inr ⟨rfl, Nat.le_succ _⟩

/-- **Reading never moves a position back.** -/
theorem le_advance (p : Position) (t : Text) : p ≤ p.advance t := by
  induction t generalizing p with
  | nil => exact le_refl p
  | cons c t ih => exact le_trans (le_step p c) (ih (p.step c))

/-- A position some columns to the right. -/
def right (p : Position) (columns : Nat) : Position :=
  ⟨p.line, p.column + columns⟩

theorem right_le_right (p : Position) {a b : Nat} (h : a ≤ b) : p.right a ≤ p.right b :=
  .inr ⟨rfl, Nat.add_le_add_left h _⟩

end Position

/-- The span between two positions, the second of which is outside it. -/
structure Location where
  start : Position
  stop : Position
  ordered : start ≤ stop
  deriving DecidableEq, Repr

namespace Location

/-- The empty span at a position. -/
def point (p : Position) : Location :=
  ⟨p, p, Position.le_refl p⟩

/-- Where an offense with no better place is reported. -/
def fallback : Location :=
  point Position.origin

/-- The span of a text read from a position. -/
def reading (p : Position) (t : Text) : Location :=
  ⟨p, p.advance t, Position.le_advance p t⟩

/-- The span between two columns at one position. -/
def columns (p : Position) (first length : Nat) : Location :=
  ⟨p.right first, p.right (first + length),
    Position.right_le_right p (Nat.le_add_right first length)⟩

end Location

namespace Text

/-- The position of an offset. -/
def positionAt (source : Text) (offset : Nat) : Position :=
  Position.origin.advanceBy offset source

theorem positionAt_eq (source : Text) (offset : Nat) :
    source.positionAt offset = Position.origin.advance (source.take offset) :=
  Position.advanceBy_eq_advance_take ..

/-- The span between two offsets. -/
def span (source : Text) (start stop : Nat) : Location :=
  .reading (source.positionAt start) ((source.drop start).take (stop - start))

/-- The number of line ends before the last line, plus one, and the
length of that line. -/
def lastPosition (source : Text) : Position :=
  ⟨source.count '\n' + 1, (source.reverse.takeWhile (· ≠ '\n')).length⟩

/-- The empty span at the very end of a text. -/
def endLocation (source : Text) : Location :=
  .point source.lastPosition

end Text

/-! ## Positions from outside -/

/-- Why numbers are no position or no span. -/
inductive LocationError where
  /-- A line or a column is below zero. -/
  | negative (line column : Int)
  /-- The end lies before the start. -/
  | reversed (start stop : Position)
  deriving DecidableEq, Repr

/-- A position with its parts named. -/
def Position.described (p : Position) : String :=
  s!"Position(line={p.line}, column={p.column})"

/-- The report of a bad position or span. -/
def LocationError.message : LocationError → String
  | .negative line column => s!"Position must be non-negative, got {line}:{column}"
  | .reversed start stop =>
    "Location end " ++ stop.described ++ " is before start " ++ start.described

/-- The position with a line and a column, if neither is below zero. -/
def Position.ofInts? (line column : Int) : Except LocationError Position :=
  if line < 0 || column < 0 then .error (.negative line column)
  else .ok ⟨line.toNat, column.toNat⟩

/-- The span between two positions, if they are in order. -/
def Location.between? (start stop : Position) : Except LocationError Location :=
  if h : start ≤ stop then .ok ⟨start, stop, h⟩ else .error (.reversed start stop)

/-- The span between two pairs of line and column. -/
def Location.ofInts? (startLine startColumn stopLine stopColumn : Int) :
    Except LocationError Location := do
  let start ← Position.ofInts? startLine startColumn
  let stop ← Position.ofInts? stopLine stopColumn
  Location.between? start stop

end TemplateLint
