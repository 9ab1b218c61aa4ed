import Mathlib.Data.List.TakeDrop
import TemplateLint.Template.Lexeme
import TemplateLint.Proofs.Text
/-!
# Lexemes — cutting, step by step

The cut of a text is given by two equations: at a tag it takes the lexeme
and goes on behind it (`cut_written`), and elsewhere it takes a character
(`cut_cons`). `cut_induction` is the induction they carry. Nothing is
dropped: the lexemes make up the text again (`flatMap_written_cut`).
-/

namespace TemplateLint

namespace Lexeme

/-! ## The lexeme at the start of a text -/

theorem erbMark_append (t : Text) : (erbMark t).1 ++ (erbMark t).2 = t := by
  unfold erbMark
  split <;> rfl

/-- A tag is written as it is read, and ends. Its name is made of the
characters of a name, and no other tag starts before it ends. -/
theorem eq_of_tagNamed? {closing : Bool} {t : Text} {lexeme : Lexeme}
    (h : tagNamed? closing t = some lexeme) :
    ∃ name rest behind, lexeme = .tag closing name rest ∧
      t = name ++ (rest ++ '>' :: behind) ∧ (∀ c ∈ name, isTagStart c ∨ isTagChar c) ∧
      name ≠ [] ∧ '<' ∉ rest := by
  cases t with
  | nil => cases h
  | cons c t =>
    simp only [tagNamed?, List.span_eq_takeWhile_dropWhile] at h
    split at h
    · rename_i hstart
      split at h
      · rename_i rest behind hspan
        cases h
        obtain ⟨hrest, hbehind⟩ := Prod.mk.inj hspan
        refine ⟨_, _, behind, rfl, ?_, fun d hd => ?_, List.cons_ne_nil _ _, fun hmem => ?_⟩
        · rw [← hbehind, ← hrest, List.takeWhile_append_dropWhile, List.cons_append,
            List.takeWhile_append_dropWhile]
        · rcases List.mem_cons.1 hd with rfl | hd
          · exact .inl hstart
          · exact .inr (List.mem_takeWhile_imp hd)
        · rw [← hrest] at hmem
          simpa using List.mem_takeWhile_imp hmem
      · cases h
    · cases h

/-- **A lexeme starts a text in one of three ways**: as an ERB tag that is closed, as an
HTML tag, or as an ERB tag that is not closed. -/
theorem exists_of_starting? {t : Text} {lexeme : Lexeme} (h : starting? t = some lexeme) :
    (∃ t' content behind, t = '<' :: '%' :: t' ∧
      Text.cutAt? erbClosing (erbMark t').2 = some (content, behind) ∧
      lexeme = .erb ('<' :: '%' :: (erbMark t').1) content) ∨
    (∃ closing t', t = tagOpening closing ++ t' ∧ tagNamed? closing t' = some lexeme) ∨
    ∃ t', t = '<' :: '%' :: t' ∧ Text.cutAt? erbClosing (erbMark t').2 = none ∧
      lexeme = .dangling [] t := by
  unfold starting? at h
  split at h
  · rename_i t
    simp only at h
    split at h
    · rename_i content behind hcut
      exact .inl ⟨t, content, behind, rfl, hcut, (Option.some.inj h).symm⟩
    · rename_i hcut
      exact .inr (.inr ⟨t, rfl, hcut, (Option.some.inj h).symm⟩)
  · exact .inr (.inl ⟨true, _, rfl, h⟩)
  · exact .inr (.inl ⟨false, _, rfl, h⟩)
  · cases h

/-- **What starts a text is written there.** It is an ERB tag, an HTML tag, or
all that there is. -/
theorem starting?_cases {t : Text} {lexeme : Lexeme} (h : starting? t = some lexeme) :
    (∃ mark content behind, lexeme = .erb ('<' :: '%' :: mark) content ∧
      t = lexeme.written ++ behind ∧ '\n' ∉ mark) ∨
    (∃ closing name rest behind, lexeme = .tag closing name rest ∧
      t = lexeme.written ++ behind ∧ '\n' ∉ name) ∨
    ∃ rest, lexeme = .dangling [] ('<' :: rest) ∧ t = '<' :: rest := by
  have newline_notMem : ∀ {name : Text}, (∀ c ∈ name, isTagStart c ∨ isTagChar c) → '\n' ∉ name :=
    fun hname hmem => absurd (hname _ hmem) (by decide +kernel)
  obtain ⟨t, content, behind, rfl, hcut, rfl⟩ | ⟨closing, t, rfl, htag⟩ | ⟨t, rfl, -, rfl⟩ :=
    exists_of_starting? h
  · refine .inl ⟨(erbMark t).1, content, behind, rfl, ?_, ?_⟩
    · have hcontent := Text.eq_of_cutAt? hcut
      calc
        '<' :: '%' :: t = '<' :: '%' :: ((erbMark t).1 ++ (erbMark t).2) := by
          rw [erbMark_append]
        _ = _ := by rw [hcontent]; simp [written]
    · unfold erbMark
      split <;> simp
  · obtain ⟨name, rest, behind, rfl, rfl, hname, -, -⟩ := eq_of_tagNamed? htag
    exact .inr (.inl ⟨_, name, rest, behind, rfl, by simp [written], newline_notMem hname⟩)
  · exact .inr (.inr ⟨_, rfl, rfl⟩)

/-- What starts a text is not empty. -/
theorem eq_of_starting? {t : Text} {lexeme : Lexeme} (h : starting? t = some lexeme) :
    lexeme.written ≠ [] ∧ ∃ behind, t = lexeme.written ++ behind := by
  obtain ⟨mark, content, behind, rfl, rfl, -⟩ | ⟨closing, name, rest, behind, rfl, rfl, -⟩ |
    ⟨rest, rfl, rfl⟩ := starting?_cases h
  · exact ⟨by simp [written], behind, rfl⟩
  · exact ⟨by simp [written], behind, rfl⟩
  · exact ⟨by simp [written], [], by simp [written]⟩

/-! ## The cut -/

theorem cutFrom_eq_cut_drop (covered : Nat) (t : Text) :
    cutFrom covered t = cut (t.drop covered) := by
  induction t generalizing covered with
  | nil => cases covered <;> rfl
  | cons c t ih =>
    cases covered with
    | zero => rfl
    | succ covered => exact ih covered

/-- Where a lexeme starts, the cut takes it and goes on behind it. -/
theorem cut_written {lexeme : Lexeme} {behind : Text}
    (h : starting? (lexeme.written ++ behind) = some lexeme) :
    cut (lexeme.written ++ behind) = lexeme :: cut behind := by
  obtain ⟨c, t, hct⟩ := List.exists_cons_of_ne_nil (eq_of_starting? h).1
  rw [hct, List.cons_append] at h ⊢
  rw [cut, cutFrom, h]
  simp only [cutFrom_eq_cut_drop, hct, List.length_cons, Nat.add_sub_cancel, List.drop_left]

/-- Where none starts, it takes a character. -/
theorem cut_cons {c : Char} {t : Text} (h : starting? (c :: t) = none) :
    cut (c :: t) = consText c (cut t) := by
  rw [cut, cutFrom, h]
  rfl

/-- **Induction along the cut**: over nothing, a lexeme and what is behind
it, and a character and what is behind that. -/
theorem cut_induction {motive : Text → List Lexeme → Prop} (nil : motive [] [])
    (lexeme : ∀ lexeme behind, starting? (lexeme.written ++ behind) = some lexeme →
      motive behind (cut behind) → motive (lexeme.written ++ behind) (lexeme :: cut behind))
    (char : ∀ c t, starting? (c :: t) = none → motive t (cut t) →
      motive (c :: t) (consText c (cut t))) (t : Text) : motive t (cut t) := by
  -- The induction is on the length, since what is behind a lexeme need not be the tail.
  induction hlength : t.length using Nat.strong_induction_on generalizing t with
  | _ n ih =>
    rcases t with _ | ⟨c, t⟩
    · exact nil
    · cases hstart : starting? (c :: t) with
      | none =>
        rw [cut_cons hstart]
        exact char c t hstart (ih t.length (by rw [← hlength]; simp) t rfl)
      | some found =>
        obtain ⟨hne, behind, hbehind⟩ := eq_of_starting? hstart
        have hshorter : behind.length < n := by
          rw [← hlength, hbehind, List.length_append]
          have := List.length_pos_iff.2 hne
          omega
        rw [hbehind] at hstart ⊢
        rw [cut_written hstart]
        exact lexeme found behind hstart (ih behind.length hshorter behind rfl)

theorem flatMap_written_consText (c : Char) (lexemes : List Lexeme) :
    (consText c lexemes).flatMap written = c :: lexemes.flatMap written := by
  unfold consText
  split <;> simp [written]

/-- **Nothing is dropped.** -/
theorem flatMap_written_cut (t : Text) : (cut t).flatMap written = t := by
  induction t using cut_induction with
  | nil => rfl
  | lexeme found behind _ ih => rw [List.flatMap_cons, ih]
  | char c t _ ih => rw [flatMap_written_consText, ih]

end Lexeme

end TemplateLint
