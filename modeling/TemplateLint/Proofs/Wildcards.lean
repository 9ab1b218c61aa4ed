import TemplateLint.Proofs.Text
import TemplateLint.Text.Wildcard
/-!
# Wildcards — patterns put together

Parts one after another stand for texts one after another
(`Wildcard.accepts_append`), and a pattern without a bracket is read character
by character, so that two patterns can be put together where the first has no
bracket (`Wildcard.fits_append`). A bracket may go on over the place where they
are put together; that is why it is left out.
-/

namespace TemplateLint

namespace Wildcard

variable {part : Part} {parts parts' : List Part} {c : Char} {t x y : Text}

/-! ## Parts -/

/-- Any text is whatever stands before what the parts behind it stand for. -/
theorem accepts_anyText_iff : accepts (.anyText :: parts) t ↔ ∃ u, u <:+ t ∧ accepts parts u := by
  induction t with
  | nil =>
    rw [accepts_anyText_nil]
    constructor
    · intro h
      exact ⟨[], List.suffix_rfl, h⟩
    · rintro ⟨u, hu, h⟩
      rwa [List.suffix_nil.1 hu] at h
  | cons c t ih =>
    rw [accepts_anyText_cons, Bool.or_eq_true, ih]
    constructor
    · rintro (h | ⟨u, hu, h⟩)
      · exact ⟨c :: t, List.suffix_rfl, h⟩
      · exact ⟨u, hu.trans (List.suffix_cons c t), h⟩
    · rintro ⟨u, hu, h⟩
      rcases List.suffix_cons_iff.1 hu with rfl | hu
      · exact .inl h
      · exact .inr ⟨u, hu, h⟩

/-- Any other part is one character. -/
theorem accepts_cons_iff (hpart : part ≠ .anyText) :
    accepts (part :: parts) t ↔ ∃ c u, t = c :: u ∧ part.holds c ∧ accepts parts u := by
  cases t with
  | nil =>
    rw [accepts_cons_nil parts hpart]
    exact iff_of_false Bool.false_ne_true fun ⟨c, u, h, _⟩ => nomatch h
  | cons c t =>
    rw [accepts_cons_cons parts c t hpart, Bool.and_eq_true]
    constructor
    · intro h
      exact ⟨c, t, rfl, h⟩
    · rintro ⟨c', u, heq, h⟩
      cases heq
      exact h

/-- **Parts one after another** stand for texts one after another. -/
theorem accepts_append : accepts (parts ++ parts') t ↔
    ∃ u v, t = u ++ v ∧ accepts parts u ∧ accepts parts' v := by
  induction parts generalizing t with
  | nil =>
    constructor
    · intro h
      exact ⟨[], t, rfl, rfl, h⟩
    · rintro ⟨u, v, rfl, hu, hv⟩
      rw [accepts_nil, List.isEmpty_iff] at hu
      rwa [hu]
  | cons part parts ih =>
    rw [List.cons_append]
    by_cases hpart : part = .anyText
    · subst hpart
      simp only [accepts_anyText_iff, ih]
      constructor
      · rintro ⟨_, ⟨before, rfl⟩, u, v, rfl, hu, hv⟩
        exact ⟨before ++ u, v, (List.append_assoc ..).symm, ⟨u, List.suffix_append _ _, hu⟩, hv⟩
      · rintro ⟨_, v, rfl, ⟨u, ⟨before, rfl⟩, hu⟩, hv⟩
        exact ⟨u ++ v, ⟨before, (List.append_assoc ..).symm⟩, u, v, rfl, hu, hv⟩
    · simp only [accepts_cons_iff hpart, ih]
      constructor
      · rintro ⟨c, _, rfl, hc, u, v, rfl, hu, hv⟩
        exact ⟨c :: u, v, rfl, ⟨c, u, rfl, hc, hu⟩, hv⟩
      · rintro ⟨_, v, rfl, ⟨c, u, rfl, hc, hu⟩, hv⟩
        exact ⟨c, u ++ v, rfl, hc, u, v, rfl, hu, hv⟩

/-! ## Patterns without brackets -/

/-- What a character stands for that opens no bracket. -/
def partOf (c : Char) : Part :=
  if c = '*' then .anyText else if c = '?' then .anyChar else .char c

theorem read_cons (hc : c ≠ '[') (t : Text) : read (c :: t) = partOf c :: read t := by
  rw [read, readFrom, partOf]
  split
  · rfl
  · split
    · rfl
    · rfl

/-- A pattern in front is read for itself, if it has no bracket. -/
theorem read_append (hx : '[' ∉ x) (y : Text) : read (x ++ y) = read x ++ read y := by
  induction x with
  | nil => rfl
  | cons c x ih =>
    rw [List.mem_cons, not_or] at hx
    rw [List.cons_append, read_cons (Ne.symm hx.1), read_cons (Ne.symm hx.1), ih hx.2,
      List.cons_append]

/-- **Patterns put together** stand for texts put together. -/
theorem fits_append (hx : '[' ∉ x) :
    fits (x ++ y) t ↔ ∃ u v, t = u ++ v ∧ fits x u ∧ fits y v := by
  rw [fits, read_append hx]
  exact accepts_append

theorem fits_nil : fits [] t ↔ t = [] := by
  rw [fits, read, readFrom, accepts_nil, List.isEmpty_iff]

/-- A star stands for any text. -/
theorem fits_star : fits ('*' :: x) t ↔ ∃ u, u <:+ t ∧ fits x u := by
  rw [fits, read_cons (by decide)]
  exact accepts_anyText_iff

theorem partOf_ne_anyText (hc : c ≠ '*') : partOf c ≠ .anyText := by
  rw [partOf, if_neg hc]
  split
  · exact nofun
  · exact nofun

theorem fits_cons (hstar : c ≠ '*') (hbracket : c ≠ '[') :
    fits (c :: x) t ↔ ∃ d u, t = d :: u ∧ (partOf c).holds d ∧ fits x u := by
  rw [fits, read_cons hbracket]
  exact accepts_cons_iff (partOf_ne_anyText hstar)

theorem holds_partOf_self (hc : c ≠ '*') : (partOf c).holds c := by
  rw [partOf, if_neg hc]
  split
  · rfl
  · exact decide_eq_true rfl

theorem holds_partOf_iff {d : Char} (hstar : c ≠ '*') (hmark : c ≠ '?') :
    (partOf c).holds d ↔ d = c := by
  rw [partOf, if_neg hstar, if_neg hmark, Part.holds, decide_eq_true_eq, eq_comm]

/-- A pattern without a bracket stands for itself, among others. -/
theorem fits_self (hx : '[' ∉ x) : fits x x := by
  induction x with
  | nil => exact fits_nil.2 rfl
  | cons c x ih =>
    rw [List.mem_cons, not_or] at hx
    by_cases hstar : c = '*'
    · subst hstar
      exact fits_star.2 ⟨x, List.suffix_cons _ _, ih hx.2⟩
    · exact (fits_cons hstar (Ne.symm hx.1)).2 ⟨c, x, rfl, holds_partOf_self hstar, ih hx.2⟩

/-- **What a pattern stands for has a slash for each of its own.** -/
theorem count_slash_le (hx : '[' ∉ x) (h : fits x t) : x.count '/' ≤ t.count '/' := by
  induction x generalizing t with
  | nil => exact Nat.zero_le _
  | cons c x ih =>
    rw [List.mem_cons, not_or] at hx
    by_cases hstar : c = '*'
    · subst hstar
      obtain ⟨u, hu, hfits⟩ := fits_star.1 h
      rw [List.count_cons_of_ne (by decide)]
      exact (ih hx.2 hfits).trans (hu.sublist.count_le _)
    · obtain ⟨d, u, rfl, hd, hfits⟩ := (fits_cons hstar (Ne.symm hx.1)).1 h
      have hrest := ih hx.2 hfits
      by_cases hslash : c = '/'
      · subst hslash
        obtain rfl := (holds_partOf_iff (by decide) (by decide)).1 hd
        rw [List.count_cons_self, List.count_cons_self]
        exact Nat.succ_le_succ hrest
      · rw [List.count_cons_of_ne hslash]
        exact hrest.trans (List.count_le_count_cons ..)

/-! ## Literal text -/

/-- No character of the text has a meaning in patterns. -/
def IsLiteral (x : Text) : Prop :=
  ∀ c ∈ x, c ≠ '*' ∧ c ≠ '?' ∧ c ≠ '['

instance (x : Text) : Decidable (IsLiteral x) :=
  List.decidableBAll (fun c => c ≠ '*' ∧ c ≠ '?' ∧ c ≠ '[') x

theorem IsLiteral.bracket_notMem (h : IsLiteral x) : '[' ∉ x :=
  fun hmem => (h '[' hmem).2.2 rfl

/-- **Literal text stands for itself** alone. -/
theorem IsLiteral.fits_iff (h : IsLiteral x) : fits x t ↔ t = x := by
  induction x generalizing t with
  | nil => exact fits_nil
  | cons c x ih =>
    obtain ⟨hc, hx⟩ := List.forall_mem_cons.1 h
    rw [fits_cons hc.1 hc.2.2]
    constructor
    · rintro ⟨d, u, rfl, hd, hfits⟩
      rw [(holds_partOf_iff hc.1 hc.2.1).1 hd, (ih hx).1 hfits]
    · rintro rfl
      exact ⟨c, x, rfl, holds_partOf_self hc.1, (ih hx).2 rfl⟩

end Wildcard

end TemplateLint
