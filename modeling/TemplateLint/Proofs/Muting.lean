import Mathlib.Data.Nat.Find
import TemplateLint.Proofs.Comments
import TemplateLint.Proofs.Newlines
/-!
# Muting — comments and the rules about newlines

Whether a comment mutes an offense about newlines is decided by lines, and
the fixers move lines. What they cannot move is which comments there are
and what stands between them: in the text up to the first comment that
mutes blank lines every such offense is fixed, and behind it none is
(`Linter.exists_split`). What is muted stays muted after either fixer.
-/

namespace TemplateLint

namespace Linter

open Text Newlines

variable {l : Linter} {s t : Text} {rule : String} {line : Nat}

/-- **A comment of a source mutes a rule on a line**: the linter reads
comments, and one of them names the rule and reaches the line. -/
def Mutes (l : Linter) (source : Text) (rule : String) (line : Nat) : Prop :=
  l.parse.isSome ∧ l.ignoresComments = false ∧
    ∃ before directive, source.HasComment before directive ∧ directive.Names rule ∧
      l.scope.Reaches (before.count '\n' + 1) line

/-- Every range of newlines too many is on a line on which it is muted. -/
def MutesExcess (l : Linter) (source : Text) : Prop :=
  ∀ range ∈ excess source, l.Mutes source blankLinesName ((source.take range.1).count '\n' + 1)

theorem names_congr {d d' : Directive} (h : d'.ruleNames = d.ruleNames) (hnames : d.Names rule) :
    d'.Names rule := by
  unfold Directive.Names at hnames ⊢
  rwa [h]

/-- **No comment stands on the line of a range of newlines**, so that only one
that reaches further mutes it, and that one stands before it. -/
theorem lt_of_reaches {scope : DisableScope} {before after : Text} {range : Nat × Nat}
    (hrange : range ∈ excess (before ++ '<' :: after))
    (hreaches : scope.Reaches (before.count '\n' + 1)
      (((before ++ '<' :: after).take range.1).count '\n' + 1)) :
    scope = .remainder ∧ before.length < range.1 := by
  obtain ⟨lead, tail, hs, hstart, hcount⟩ := exists_of_mem_excess hrange
  rw [hcount] at hreaches
  rcases List.append_eq_append_iff.1 hs with ⟨z, rfl, hz⟩ | ⟨z, rfl, hz⟩
  · -- The comment stands before the range, and so on an earlier line.
    rw [hstart, List.length_append]
    rw [List.count_append] at hreaches
    cases scope with
    | remainder => exact ⟨rfl, by omega⟩
    | line =>
      simp only [DisableScope.Reaches] at hreaches
      omega
  · -- It stands behind the two newlines, and so on a later line.
    rcases z with _ | ⟨a, _ | ⟨b, z⟩⟩
    · cases hz
    · cases hz
    · obtain ⟨rfl, rfl, -⟩ : '\n' = a ∧ '\n' = b ∧ tail = z ++ '<' :: after := by simpa using hz
      have hlater : lead.count '\n' + 2 ≤ (lead ++ '\n' :: '\n' :: z).count '\n' := by
        rw [List.count_append, List.count_cons_self, List.count_cons_self]
        omega
      cases scope <;> simp only [DisableScope.Reaches] at hreaches <;> omega

/-- **The text up to where blank lines are muted.** Behind it, every offense
is muted, by the comment that it ends at; in it, none is. -/
theorem exists_split (l : Linter) (s : Text) :
    ∃ x y, s = x ++ y ∧ y.head? ≠ some '\n' ∧
      (∀ range ∈ excess s, l.Mutes s blankLinesName ((s.take range.1).count '\n' + 1) ↔
        x.length < range.1) ∧
      (y = [] ∨ ∃ after directive, y = '<' :: after ∧ s.HasComment x directive ∧
        directive.Names blankLinesName ∧ l.scope = .remainder ∧ l.parse.isSome ∧
        l.ignoresComments = false) := by
  by_cases h : l.scope = .remainder ∧ l.parse.isSome ∧ l.ignoresComments = false ∧
      ∃ n before directive, s.HasComment before directive ∧ directive.Names blankLinesName ∧
        before.length = n
  · obtain ⟨hscope, hparse, hreads, hcomment⟩ := h
    classical
    -- Of the comments that mute blank lines, the first one is where the text is split.
    obtain ⟨x, directive, hx, hnames, hlength⟩ := Nat.find_spec hcomment
    have hfirst : ∀ before directive, s.HasComment before directive →
        directive.Names blankLinesName → x.length ≤ before.length := by
      intro before directive hbefore hnames
      rw [hlength]
      exact Nat.find_min' hcomment ⟨before, directive, hbefore, hnames, rfl⟩
    obtain ⟨after, rfl⟩ := hx.exists_append
    refine ⟨x, '<' :: after, rfl, by simp, fun range hrange => ⟨?_, fun hlt => ?_⟩,
      .inr ⟨after, directive, rfl, hx, hnames, hscope, hparse, hreads⟩⟩
    · rintro ⟨-, -, before, directive', hbefore, hnames', hreaches⟩
      obtain ⟨after', hs⟩ := hbefore.exists_append
      have hle := hfirst before directive' hbefore hnames'
      rw [hs] at hrange hreaches
      have hlt := (lt_of_reaches hrange hreaches).2
      omega
    · refine ⟨hparse, hreads, x, directive, hx, hnames, ?_⟩
      rw [hscope]
      exact Nat.succ_le_succ (count_le_count_take (Nat.le_of_lt hlt) _)
  · refine ⟨s, [], (List.append_nil s).symm, nofun, fun range hrange => ⟨?_, fun hlt => ?_⟩,
      .inl rfl⟩
    · rintro ⟨hparse, hreads, before, directive, hbefore, hnames, hreaches⟩
      obtain ⟨after, hs⟩ := hbefore.exists_append
      rw [hs] at hrange hreaches
      have hscope := (lt_of_reaches hrange hreaches).1
      exact absurd ⟨hscope, hparse, hreads, _, before, directive, hbefore, hnames, rfl⟩ h
    · have hend := (lt_of_mem_excessAt hrange).2
      omega

/-- **What is left in place is muted**, after the part in front of it is
squeezed. -/
theorem mutesExcess_squeeze {x y : Text} (hy : y.head? ≠ some '\n')
    (h : y = [] ∨ ∃ after directive, y = '<' :: after ∧ (x ++ y).HasComment x directive ∧
      directive.Names blankLinesName ∧ l.scope = .remainder ∧ l.parse.isSome ∧
      l.ignoresComments = false) :
    l.MutesExcess (squeeze x ++ y) := by
  intro range hrange
  rw [excess, ← excessAt, excessAt_append hy, excessAt_squeeze, List.nil_append] at hrange
  have hstart := (lt_of_mem_excessAt hrange).1
  rcases h with rfl | ⟨after, directive, rfl, hx, hnames, hscope, hparse, hreads⟩
  · cases hrange
  · obtain ⟨directive', hcomment, hsame⟩ :=
      hx.of_append (shape_squeeze_append x _).symm (ink_squeeze x)
    refine ⟨hparse, hreads, squeeze x, directive', hcomment, names_congr hsame hnames, ?_⟩
    rw [hscope]
    exact Nat.succ_le_succ (count_le_count_take (by omega) _)

/-- Muted newlines stay muted when the end of the file is put in order. -/
theorem MutesExcess.append_newline {body : Text} {c : Char} (hc : c ≠ '\n') {count : Nat}
    (h : l.MutesExcess (body ++ c :: newlines count)) : l.MutesExcess (body ++ [c] ++ ['\n']) := by
  intro range hrange
  rw [excess_append_newline body hc] at hrange
  have hall : range ∈ excess (body ++ c :: newlines count) := by
    rw [excess_append_newlines body hc]
    exact List.mem_append_left _ hrange
  have hend := (lt_of_mem_excessAt hrange).2
  obtain ⟨hparse, hreads, before, directive, hbefore, hnames, hreaches⟩ := h range hall
  obtain ⟨after, hs⟩ := hbefore.exists_append
  have hlt : before.length < range.1 := by
    rw [hs] at hall hreaches
    exact (lt_of_reaches hall hreaches).2
  -- The comment stands before the range, and so in what the fixer leaves alone.
  have hbody : ∃ z, body = before ++ '<' :: z := by
    rcases List.append_eq_append_iff.1 hs with ⟨z, rfl, hz⟩ | ⟨z, rfl, hz⟩
    · rw [List.length_append] at hlt
      omega
    · rcases z with _ | ⟨d, z⟩
      · rw [List.append_nil] at hend
        omega
      · cases hz
        exact ⟨z, rfl⟩
  obtain ⟨z, rfl⟩ := hbody
  have hbehind : before ++ '<' :: z ++ c :: newlines count =
      before ++ '<' :: (z ++ c :: newlines count) := by simp
  have hbehind' : before ++ '<' :: z ++ [c] ++ ['\n'] =
      before ++ '<' :: (z ++ c :: newlines 1) := by
    rw [List.append_assoc, List.append_assoc]
    rfl
  have hshape : shape (before ++ '<' :: (z ++ c :: newlines count)) =
      shape (before ++ '<' :: (z ++ c :: newlines 1)) := by
    rw [← hbehind, ← hbehind', shape_append_newlines _ hc, List.append_assoc]
    exact (shape_append_newlines _ hc 1).symm
  rw [hbehind] at hbefore
  obtain ⟨directive', hcomment, hsame⟩ := hbefore.of_append hshape rfl
  refine ⟨hparse, hreads, before, directive', hbehind' ▸ hcomment, names_congr hsame hnames, ?_⟩
  have hle : range.1 ≤ (before ++ '<' :: z).length := by omega
  rw [List.take_append_of_le_length hle] at hreaches
  rwa [List.append_assoc, List.take_append_of_le_length hle]

/-! ## The end of a file -/

/-- A comment that mutes the end of a file mutes it after a part of the file
is squeezed: it is on the last line still, or reaches it. -/
theorem Mutes.squeeze_append {x y : Text}
    (h : l.Mutes (x ++ y) rule ((x ++ y).count '\n' + 1)) :
    l.Mutes (squeeze x ++ y) rule ((squeeze x ++ y).count '\n' + 1) := by
  obtain ⟨hparse, hreads, before, directive, hbefore, hnames, hreaches⟩ := h
  obtain ⟨after, hs⟩ := hbefore.exists_append
  obtain ⟨before', after', hs', hink, hafter⟩ := exists_squeeze_append (by decide) hs
  have hshape : shape (before ++ '<' :: after) = shape (before' ++ '<' :: after') := by
    rw [← hs, ← hs', shape_squeeze_append]
  rw [hs] at hbefore
  obtain ⟨directive', hcomment, hsame⟩ := hbefore.of_append hshape hink
  rw [hs']
  refine ⟨hparse, hreads, before', directive', hcomment, names_congr hsame hnames, ?_⟩
  have hcount : ∀ a b : Text, (a ++ '<' :: b).count '\n' = a.count '\n' + b.count '\n' := by
    intro a b
    rw [List.count_append, List.count_cons_of_ne (by decide)]
  rw [hs, hcount] at hreaches
  rw [hcount]
  -- On the line alone, the comment mutes the end only if no newline comes behind it.
  cases hscope : l.scope with
  | remainder => exact Nat.succ_le_succ (Nat.le_add_right _ _)
  | line =>
    rw [hscope] at hreaches
    simp only [DisableScope.Reaches] at hreaches ⊢
    have hlast : after.count '\n' = 0 := by omega
    rw [List.count_eq_zero] at hlast
    rw [List.count_eq_zero.2 (hafter hlast), Nat.add_zero]

end Linter

end TemplateLint
