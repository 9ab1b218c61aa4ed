import TemplateLint.Position
/-!
# Offsets — positions tell them apart

Every character that is read moves a position on, and none moves it back. So a
later offset of a source has a later position (`Text.not_positionAt_le`), and no
two offsets have one (`Text.positionAt_inj`). A span stops at the position of its
last offset (`Text.stop_span`).
-/

namespace TemplateLint

namespace Position

/-- Reading a character moves a position on. -/
theorem not_step_le (p : Position) (c : Char) : ¬ p.step c ≤ p := by
  rw [le_def, step]
  split
  · simp only
    omega
  · simp only
    omega

/-- **Reading moves a position on**, unless there is nothing to read. -/
theorem not_advance_le (p : Position) {t : Text} (h : t ≠ []) : ¬ p.advance t ≤ p := by
  cases t with
  | nil => exact absurd rfl h
  | cons c t =>
    intro hle
    rw [advance_cons] at hle
    exact not_step_le p c (le_trans (le_advance _ t) hle)

end Position

namespace Text

variable {source : Text} {a b : Nat}

/-- A source up to an offset is read up to an earlier one first. -/
theorem positionAt_eq_advance (h : a ≤ b) :
    source.positionAt b = (source.positionAt a).advance ((source.drop a).take (b - a)) := by
  rw [positionAt_eq, positionAt_eq, ← Position.advance_append, ← List.take_add,
    Nat.add_sub_cancel' h]

/-- **A span stops at the position of its last offset.** -/
theorem stop_span (h : a ≤ b) : (source.span a b).stop = source.positionAt b :=
  (positionAt_eq_advance h).symm

/-- **A later offset has a later position.** -/
theorem not_positionAt_le (h : a < b) (hb : b ≤ source.length) :
    ¬ source.positionAt b ≤ source.positionAt a := by
  have hread : (source.drop a).take (b - a) ≠ [] := by
    rw [← List.length_pos_iff, List.length_take, List.length_drop]
    omega
  rw [positionAt_eq_advance (Nat.le_of_lt h)]
  exact Position.not_advance_le _ hread

/-- **No two offsets of a source have one position.** -/
theorem positionAt_inj (ha : a ≤ source.length) (hb : b ≤ source.length)
    (h : source.positionAt a = source.positionAt b) : a = b := by
  rcases Nat.lt_trichotomy a b with hlt | heq | hlt
  · exact absurd (h ▸ Position.le_refl _) (not_positionAt_le hlt hb)
  · exact heq
  · exact absurd (h ▸ Position.le_refl _) (not_positionAt_le hlt ha)

end Text

end TemplateLint
