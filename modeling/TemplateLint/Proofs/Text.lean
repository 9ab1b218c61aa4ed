import Mathlib.Data.List.Chain
import Mathlib.Data.List.TakeWhile
import TemplateLint.Position
/-!
# Text — what the searches and cuts find

Each search is given by an equation between texts: a leading word, the
text between the blanks at both ends. The pieces between separators join to
the text again (`Text.intercalate_splitAt`), and the runs of a text are the
one way to cut it into pieces that are of one class each and of another class
than the next (`Text.runs_flatMap`). The line of a position counts newlines.
-/

namespace TemplateLint

namespace Text

/-! ## Leading words -/

/-- What follows a leading word is what is behind it. -/
theorem after?_eq_some_iff {word t rest : Text} :
    after? word t = some rest ↔ t = word ++ rest := by
  induction word generalizing t with
  | nil => simp [after?, eq_comm]
  | cons w word ih =>
    cases t with
    | nil => simp [after?]
    | cons c t =>
      by_cases h : w = c
      · simp [after?, h, ih]
      · simp [after?, h, Ne.symm h]

theorem after?_eq_none_iff {word t : Text} : after? word t = none ↔ ∀ rest, t ≠ word ++ rest := by
  simp only [Option.eq_none_iff_forall_ne_some, ne_eq, after?_eq_some_iff]

theorem startsWith_iff_prefix {word t : Text} : startsWith word t ↔ word <+: t := by
  rw [startsWith, Option.isSome_iff_exists]
  exact exists_congr fun rest => after?_eq_some_iff.trans eq_comm

/-- A word is found where it stands if its first character does not come
before. -/
theorem cutAt?_append {c : Char} {word before : Text} (h : c ∉ before) (rest : Text) :
    cutAt? (c :: word) (before ++ (c :: word ++ rest)) = some (before, rest) := by
  induction before with
  | nil =>
    have hafter : after? (c :: word) (c :: (word ++ rest)) = some rest := after?_eq_some_iff.2 rfl
    rw [List.nil_append, List.cons_append, cutAt?, hafter]
  | cons b before ih =>
    rw [List.mem_cons, not_or] at h
    rw [List.cons_append, cutAt?, after?, if_neg h.1, ih h.2]
    rfl

theorem offsetOf?_append {c : Char} {word before : Text} (h : c ∉ before) (rest : Text) :
    offsetOf? (c :: word) (before ++ (c :: word ++ rest)) = some before.length := by
  rw [offsetOf?, cutAt?_append h]
  rfl

/-- The two sides of an occurrence stand before and behind it. -/
theorem eq_of_cutAt? {word t before behind : Text}
    (h : cutAt? word t = some (before, behind)) : t = before ++ (word ++ behind) := by
  induction t generalizing before with
  | nil =>
    obtain ⟨rest, hrest, hsides⟩ := Option.map_eq_some_iff.1 h
    cases hsides
    rw [List.nil_append]
    exact after?_eq_some_iff.1 hrest
  | cons c t ih =>
    rw [cutAt?] at h
    split at h
    · rename_i rest hrest
      cases h
      rw [List.nil_append]
      exact after?_eq_some_iff.1 hrest
    · obtain ⟨sides, hsides, hbefore⟩ := Option.map_eq_some_iff.1 h
      cases hbefore
      rw [List.cons_append, ← ih hsides]

/-- No occurrence is found where there is none. -/
theorem cutAt?_eq_none_iff {word t : Text} : cutAt? word t = none ↔ ¬ word <:+: t := by
  induction t with
  | nil =>
    rw [cutAt?, Option.map_eq_none_iff, after?_eq_none_iff, List.infix_nil]
    simp [eq_comm]
  | cons c t ih =>
    rw [cutAt?, List.infix_cons_iff, ← startsWith_iff_prefix, startsWith]
    split
    · rename_i hrest
      simp [hrest]
    · rename_i hnone
      simp [hnone, ih]

/-- The occurrence that is found is the first one. -/
theorem not_infix_of_cutAt? {word t before behind : Text} (hne : word ≠ [])
    (h : cutAt? word t = some (before, behind)) : ¬ word <:+: before := by
  induction t generalizing before with
  | nil =>
    obtain ⟨rest, -, hsides⟩ := Option.map_eq_some_iff.1 h
    cases hsides
    rwa [List.infix_nil]
  | cons c t ih =>
    rw [cutAt?] at h
    split at h
    · cases h
      rwa [List.infix_nil]
    · rename_i hnone
      obtain ⟨sides, hsides, hbefore⟩ := Option.map_eq_some_iff.1 h
      cases hbefore
      rw [List.infix_cons_iff, not_or]
      refine ⟨fun hprefix => ?_, ih hsides⟩
      -- A prefix of what stands before the occurrence is a prefix of the text.
      obtain ⟨rest, hrest⟩ := hprefix
      refine after?_eq_none_iff.1 hnone (rest ++ (word ++ sides.2)) ?_
      rw [← List.append_assoc, hrest, List.cons_append, ← eq_of_cutAt? hsides]

/-- An occurrence in front is found, whatever stands behind. -/
theorem cutAt?_append_of_some {word t before behind : Text}
    (h : cutAt? word t = some (before, behind)) (rest : Text) :
    cutAt? word (t ++ rest) = some (before, behind ++ rest) := by
  induction t generalizing before with
  | nil =>
    obtain ⟨found, hfound, hsides⟩ := Option.map_eq_some_iff.1 h
    cases hsides
    have hafter : after? word rest = some (behind ++ rest) := by
      rw [after?_eq_some_iff, ← List.append_assoc, ← after?_eq_some_iff.1 hfound, List.nil_append]
    rw [List.nil_append]
    cases rest with
    | nil => rw [cutAt?, hafter]; rfl
    | cons c rest => rw [cutAt?, hafter]
  | cons c t ih =>
    rw [cutAt?] at h
    split at h
    · rename_i found hfound
      cases h
      have hafter : after? word (c :: (t ++ rest)) = some (behind ++ rest) := by
        rw [after?_eq_some_iff, ← List.append_assoc, ← after?_eq_some_iff.1 hfound,
          List.cons_append]
      rw [List.cons_append, cutAt?, hafter]
    · rename_i hnone
      obtain ⟨sides, hsides, hbefore⟩ := Option.map_eq_some_iff.1 h
      cases hbefore
      have hshort : word.length ≤ (c :: t).length := by
        rw [eq_of_cutAt? hsides]
        simp only [List.length_cons, List.length_append]
        omega
      have hnone' : after? word (c :: (t ++ rest)) = none := by
        refine after?_eq_none_iff.2 fun found hfound => ?_
        -- What starts here is no longer than the text in front.
        obtain ⟨found', hfound'⟩ := List.prefix_of_prefix_length_le ⟨found, hfound.symm⟩
          (List.prefix_append (c :: t) rest) hshort
        exact after?_eq_none_iff.1 hnone found' hfound'.symm
      rw [List.cons_append, cutAt?, hnone', ih hsides]
      rfl

/-- Where no occurrence starts in front, the search goes on behind. -/
theorem cutAt?_append_of_forall {word t rest : Text}
    (h : ∀ last, last ≠ [] → last <:+ t → ¬ word <+: last ++ rest) :
    cutAt? word (t ++ rest) = (cutAt? word rest).map fun sides => (t ++ sides.1, sides.2) := by
  induction t with
  | nil => simp
  | cons c t ih =>
    have hnone : after? word (c :: (t ++ rest)) = none := by
      rw [after?_eq_none_iff]
      intro behind hbehind
      exact h (c :: t) (List.cons_ne_nil _ _) (List.suffix_refl _) ⟨behind, hbehind.symm⟩
    rw [List.cons_append, cutAt?, hnone,
      ih fun last hne hlast => h last hne (hlast.trans (List.suffix_cons c t)), Option.map_map]
    rfl

theorem endsWith_iff_suffix {word t : Text} : endsWith word t ↔ word <:+ t := by
  rw [endsWith, startsWith_iff_prefix, List.reverse_prefix]

theorem contains_iff_infix {word t : Text} : contains word t ↔ word <:+: t := by
  rw [contains, ← not_iff_not, Bool.not_eq_true, Option.isSome_eq_false_iff,
    Option.isNone_iff_eq_none, cutAt?_eq_none_iff]

/-! ## Pieces between separators -/

theorem splitAt_ne_nil (sep : Char) (t : Text) : splitAt sep t ≠ [] := by
  cases t with
  | nil => exact List.cons_ne_nil _ _
  | cons c t =>
    rw [splitAt]
    split
    · exact List.cons_ne_nil _ _
    · split
      · exact List.cons_ne_nil _ _
      · exact List.cons_ne_nil _ _

theorem splitAt_cons_of_ne {sep c : Char} (h : c ≠ sep) {t piece : Text} {pieces : List Text}
    (ht : splitAt sep t = piece :: pieces) : splitAt sep (c :: t) = (c :: piece) :: pieces := by
  rw [splitAt, if_neg h, ht]

/-- **A text is split at each separator**, whatever stands around it. -/
theorem splitAt_append (sep : Char) (t t' : Text) :
    splitAt sep (t ++ sep :: t') = splitAt sep t ++ splitAt sep t' := by
  induction t with
  | nil =>
    change splitAt sep (sep :: t') = [] :: splitAt sep t'
    rw [splitAt, if_pos rfl]
  | cons c t ih =>
    rw [List.cons_append]
    by_cases h : c = sep
    · rw [splitAt, if_pos h, splitAt, if_pos h, ih, List.cons_append]
    · obtain ⟨piece, pieces, ht⟩ := List.exists_cons_of_ne_nil (splitAt_ne_nil sep t)
      rw [ht, List.cons_append] at ih
      rw [splitAt_cons_of_ne h ih, splitAt_cons_of_ne h ht, List.cons_append]

theorem splitAt_of_notMem {sep : Char} {t : Text} (h : sep ∉ t) : splitAt sep t = [t] := by
  induction t with
  | nil => rfl
  | cons c t ih =>
    rw [List.mem_cons, not_or] at h
    exact splitAt_cons_of_ne (Ne.symm h.1) (ih h.2)

theorem mem_of_mem_splitAt {t piece : Text} {separator c : Char}
    (hpiece : piece ∈ splitAt separator t) (hc : c ∈ piece) : c ∈ t := by
  induction t generalizing piece with
  | nil =>
    obtain rfl := List.mem_singleton.1 hpiece
    cases hc
  | cons first t ih =>
    rw [splitAt] at hpiece
    split at hpiece
    · rcases List.mem_cons.1 hpiece with rfl | hpiece
      · cases hc
      · exact .tail _ (ih hpiece hc)
    · split at hpiece
      · obtain rfl := List.mem_singleton.1 hpiece
        exact List.mem_singleton.1 hc ▸ .head _
      · rename_i piece' pieces heq
        rcases List.mem_cons.1 hpiece with rfl | hpiece
        · rcases List.mem_cons.1 hc with rfl | hc
          · exact .head _
          · exact .tail _ (ih (heq ▸ .head _) hc)
        · exact .tail _ (ih (heq ▸ .tail _ hpiece) hc)

/-- No piece holds a separator. -/
theorem notMem_of_mem_splitAt {t piece : Text} {sep : Char} (hpiece : piece ∈ splitAt sep t) :
    sep ∉ piece := by
  induction t generalizing piece with
  | nil =>
    rw [List.mem_singleton.1 hpiece]
    exact List.not_mem_nil
  | cons c t ih =>
    obtain ⟨first, pieces, ht⟩ := List.exists_cons_of_ne_nil (splitAt_ne_nil sep t)
    rw [ht] at ih
    by_cases h : c = sep
    · rw [splitAt, if_pos h, ht] at hpiece
      rcases List.mem_cons.1 hpiece with rfl | hpiece
      · exact List.not_mem_nil
      · exact ih hpiece
    · rw [splitAt_cons_of_ne h ht] at hpiece
      rcases List.mem_cons.1 hpiece with rfl | hpiece
      · exact List.not_mem_cons_of_ne_of_not_mem (Ne.symm h) (ih (.head _))
      · exact ih (.tail _ hpiece)

/-- The pieces with the separator between them are the text. -/
theorem intercalate_splitAt (sep : Char) (t : Text) :
    List.intercalate [sep] (splitAt sep t) = t := by
  induction t with
  | nil => rfl
  | cons c t ih =>
    obtain ⟨piece, pieces, ht⟩ := List.exists_cons_of_ne_nil (splitAt_ne_nil sep t)
    by_cases h : c = sep
    · rw [splitAt, if_pos h, ht, List.intercalate_cons_cons, ← ht, ih, h]
      rfl
    · rw [splitAt_cons_of_ne h ht]
      rw [ht] at ih
      cases pieces with
      | nil =>
        rw [List.intercalate_singleton] at ih ⊢
        rw [ih]
      | cons next pieces =>
        rw [List.intercalate_cons_cons] at ih ⊢
        rw [← ih]
        rfl

/-! ## Blanks at both ends -/

/-- The text is white space. -/
def Blank (t : Text) : Prop :=
  ∀ c ∈ t, isBlank c

/-- There is no white space at either end. -/
structure Trimmed (t : Text) : Prop where
  head : ∀ c ∈ t.head?, isBlank c = false
  last : ∀ c ∈ t.getLast?, isBlank c = false

theorem dropWhile_eq_self {p : Char → Bool} {t : Text} (h : ∀ c ∈ t.head?, p c = false) :
    t.dropWhile p = t := by
  cases t with
  | nil => rfl
  | cons c t => rw [List.dropWhile_cons_of_neg (by simp [h c rfl])]

theorem head?_dropWhile {p : Char → Bool} {t : Text} :
    ∀ c ∈ (t.dropWhile p).head?, p c = false := by
  intro c hc
  have h := List.head?_dropWhile_not p t
  rw [Option.mem_def.1 hc] at h
  simpa using h

theorem Blank.append {s t : Text} (hs : Blank s) (ht : Blank t) : Blank (s ++ t) := by
  intro c hc
  rcases List.mem_append.1 hc with h | h
  · exact hs c h
  · exact ht c h

/-- Blanks before a trimmed text, and behind it, are what is dropped. -/
theorem trim_append {lead core tail : Text} (hlead : Blank lead) (htail : Blank tail)
    (hcore : Trimmed core) : trim (lead ++ (core ++ tail)) = core := by
  rw [trim, dropStart, List.dropWhile_append_of_pos hlead]
  rcases eq_or_ne core [] with rfl | hne
  · rw [List.nil_append, ← List.append_nil tail, List.dropWhile_append_of_pos htail]
    rfl
  · have hhead : ∀ c ∈ (core ++ tail).head?, isBlank c = false := by
      rw [List.head?_append_of_ne_nil _ hne]
      exact hcore.head
    have hlast : ∀ c ∈ core.reverse.head?, isBlank c = false := by
      rw [List.head?_reverse]
      exact hcore.last
    rw [dropWhile_eq_self hhead, dropEnd, List.reverse_append,
      List.dropWhile_append_of_pos fun c hc => htail c (List.mem_reverse.1 hc),
      dropWhile_eq_self hlast, List.reverse_reverse]

/-- **A trimmed text stands between blanks**, and that determines it. -/
theorem trim_eq_iff {t core : Text} :
    trim t = core ↔
      Trimmed core ∧ ∃ lead tail, Blank lead ∧ Blank tail ∧ t = lead ++ (core ++ tail) := by
  constructor
  · rintro rfl
    have hlead : Blank (t.takeWhile isBlank) := fun c hc => List.mem_takeWhile_imp hc
    have htail : Blank ((t.dropWhile isBlank).reverse.takeWhile isBlank).reverse :=
      fun c hc => List.mem_takeWhile_imp (List.mem_reverse.1 hc)
    have hrest : t.dropWhile isBlank =
        trim t ++ ((t.dropWhile isBlank).reverse.takeWhile isBlank).reverse := by
      rw [trim, dropEnd, dropStart, ← List.reverse_append, List.takeWhile_append_dropWhile,
        List.reverse_reverse]
    refine ⟨⟨fun c hc => ?_, fun c hc => ?_⟩, _, _, hlead, htail, ?_⟩
    · refine head?_dropWhile (p := isBlank) (t := t) c ?_
      rw [hrest, List.head?_append, Option.mem_def.1 hc]
      rfl
    · rw [trim, dropEnd, List.getLast?_reverse] at hc
      exact head?_dropWhile c hc
    · rw [← hrest, List.takeWhile_append_dropWhile]
  · rintro ⟨hcore, lead, tail, hlead, htail, rfl⟩
    exact trim_append hlead htail hcore

/-- Two texts that start with all they have of a class are equal part by
part. -/
theorem append_inj_of_class {p : Char → Bool} {a a' b b' : Text} (ha : ∀ c ∈ a, p c)
    (ha' : ∀ c ∈ a', p c) (hb : ∀ c ∈ b.head?, p c = false) (hb' : ∀ c ∈ b'.head?, p c = false)
    (h : a ++ b = a' ++ b') : a = a' ∧ b = b' := by
  have hrest : b = b' := by
    rw [← dropWhile_eq_self hb, ← dropWhile_eq_self hb', ← List.dropWhile_append_of_pos ha, h,
      List.dropWhile_append_of_pos ha']
  exact ⟨List.append_cancel_right (hrest ▸ h), hrest⟩

/-! ## Runs -/

/-- Pieces of one class each, next to pieces of the other class. -/
structure AreRuns (p : Char → Bool) (pieces : List (Bool × Text)) : Prop where
  pure : ∀ piece ∈ pieces, piece.2 ≠ [] ∧ ∀ c ∈ piece.2, p c = piece.1
  alternate : pieces.IsChain fun a b => a.1 ≠ b.1

variable {p : Char → Bool}

/-- The first run starts with the first character, and is of its class. -/
theorem exists_runs_cons (c : Char) (t : Text) :
    ∃ run rest, runs p (c :: t) = (p c, c :: run) :: rest := by
  rw [runs]
  rcases runs p t with _ | ⟨⟨inside, run⟩, rest⟩
  · exact ⟨[], [], rfl⟩
  · by_cases h : p c = inside
    · exact ⟨run, rest, by simp [h]⟩
    · exact ⟨[], (inside, run) :: rest, by simp [h]⟩

/-- The runs make up the text. -/
theorem flatMap_runs (t : Text) : (runs p t).flatMap (·.2) = t := by
  induction t with
  | nil => rfl
  | cons c t ih =>
    rw [runs]
    rcases hruns : runs p t with _ | ⟨⟨inside, run⟩, rest⟩
    · rw [hruns] at ih
      simp [← ih]
    · rw [hruns] at ih
      by_cases h : p c = inside <;> simp [h, ← ih]

theorem areRuns_runs (t : Text) : AreRuns p (runs p t) := by
  induction t with
  | nil => exact ⟨by simp [runs], .nil⟩
  | cons c t ih =>
    rw [runs]
    rcases hruns : runs p t with _ | ⟨⟨inside, run⟩, rest⟩
    · exact ⟨by simp, .singleton _⟩
    · rw [hruns] at ih
      by_cases h : p c = inside
      · simp only [h, if_true]
        refine ⟨fun piece hpiece => ?_, ?_⟩
        · rcases List.mem_cons.1 hpiece with rfl | hpiece
          · have hrun := (ih.pure _ (.head _)).2
            exact ⟨by simp, by simpa [h] using hrun⟩
          · exact ih.pure _ (.tail _ hpiece)
        · have hchain := ih.alternate
          rw [List.isChain_cons] at hchain ⊢
          exact hchain
      · simp only [h, if_false]
        refine ⟨fun piece hpiece => ?_, ?_⟩
        · rcases List.mem_cons.1 hpiece with rfl | hpiece
          · simp
          · exact ih.pure _ hpiece
        · exact List.isChain_cons_cons.2 ⟨h, ih.alternate⟩

/-- A piece of one class before a text that goes on with the other is a
run. -/
theorem runs_append {inside : Bool} {run t : Text} (hne : run ≠ [])
    (hrun : ∀ c ∈ run, p c = inside) (ht : ∀ piece ∈ (runs p t).head?, piece.1 ≠ inside) :
    runs p (run ++ t) = (inside, run) :: runs p t := by
  induction run with
  | nil => exact absurd rfl hne
  | cons c run ih =>
    have hc : p c = inside := hrun c (.head _)
    rcases eq_or_ne run [] with rfl | hne'
    · rw [List.singleton_append, runs]
      rcases hruns : runs p t with _ | ⟨⟨inside', run⟩, rest⟩
      · simp [hc]
      · rw [hruns] at ht
        have hother : inside ≠ inside' := (ht (inside', run) rfl).symm
        simp [hc, hother]
    · rw [List.cons_append, runs, ih hne' fun c hmem => hrun c (.tail _ hmem)]
      simp [hc]

/-- **Runs are the only such pieces.** -/
theorem runs_flatMap {pieces : List (Bool × Text)} (h : AreRuns p pieces) :
    runs p (pieces.flatMap (·.2)) = pieces := by
  induction pieces with
  | nil => rfl
  | cons piece pieces ih =>
    have hchain := List.isChain_cons.1 h.alternate
    have hrest := ih ⟨fun piece hpiece => h.pure _ (.tail _ hpiece), hchain.2⟩
    obtain ⟨hne, hpure⟩ := h.pure _ (.head _)
    rw [List.flatMap_cons, runs_append hne hpure, hrest]
    -- What is left is that the next piece is of the other class.
    rw [hrest]
    exact fun piece' hpiece' => (hchain.1 _ hpiece').symm

/-- **A run ends where the class changes**, so that a text can be cut there
before its runs are taken. -/
theorem runs_append_of_ne {t t' : Text}
    (h : ∀ c ∈ t.getLast?, ∀ c' ∈ t'.head?, p c ≠ p c') :
    runs p (t ++ t') = runs p t ++ runs p t' := by
  induction t with
  | nil => rfl
  | cons c t ih =>
    rcases t with _ | ⟨d, t⟩
    · rcases t' with _ | ⟨c', t'⟩
      · rfl
      · have hother : p c ≠ p c' := h c rfl c' rfl
        obtain ⟨run, rest, hruns⟩ := exists_runs_cons (p := p) c' t'
        rw [List.singleton_append, runs, hruns]
        simp [runs, hother]
    · have hrest := ih fun e he => h e (by simpa using he)
      obtain ⟨run, rest, hruns⟩ := exists_runs_cons (p := p) d t
      rw [List.cons_append, runs, hrest, hruns, runs, hruns]
      by_cases hclass : p c = p d <;> simp [hclass]

/-- Every run of a text without characters of a class is outside the class. -/
theorem runs_outside {t : Text} (h : ∀ c ∈ t, p c = false) :
    ∀ piece ∈ runs p t, piece.1 = false := by
  intro piece hpiece
  obtain ⟨hne, hpure⟩ := (areRuns_runs t).pure piece hpiece
  obtain ⟨c, run, hrun⟩ := List.exists_cons_of_ne_nil hne
  have hmem : c ∈ piece.2 := hrun ▸ .head _
  rw [← hpure c hmem]
  refine h c ?_
  rw [← flatMap_runs (p := p) t]
  exact List.mem_flatMap.2 ⟨piece, hpiece, hmem⟩

/-! ## Lines -/

/-- Each newline read is a line further. -/
theorem line_advance (p : Position) (t : Text) : (p.advance t).line = p.line + t.count '\n' := by
  induction t generalizing p with
  | nil => rfl
  | cons c t ih =>
    rw [Position.advance_cons, ih, Position.step]
    split
    · rename_i hc
      rw [hc, List.count_cons_self, Nat.add_right_comm, Nat.add_assoc]
    · rename_i hc
      rw [List.count_cons_of_ne hc]

theorem line_origin_advance (t : Text) : (Position.origin.advance t).line = t.count '\n' + 1 := by
  rw [line_advance, Nat.add_comm]
  rfl

/-- As far as a text goes, no more of a character stands in it than in what
goes on at least as far. -/
theorem count_le_count_take {x y : Text} {n : Nat} (h : x.length ≤ n) (c : Char) :
    x.count c ≤ ((x ++ y).take n).count c := by
  rw [List.take_append, List.take_of_length_le h, List.count_append]
  exact Nat.le_add_right _ _

end Text

end TemplateLint
