import TemplateLint.Proofs.Spacing
import TemplateLint.Rule.Newlines
/-!
# Newlines — what the two fixers make of a text

The fixer of blank lines, run over all offenses of a text from the last to
the first, squeezes every run of newlines to what is allowed
(`Newlines.squeezes_of_cuts`). The other fixer leaves one newline at the
end. Neither changes the shape of the text, and neither brings up an
offense of its own rule, or of the other.
-/

namespace TemplateLint

namespace Newlines

open Text

/-! ## Runs of newlines -/

/-- So many newlines. -/
def newlines (count : Nat) : Text :=
  List.replicate count '\n'

@[simp] theorem length_newlines (count : Nat) : (newlines count).length = count :=
  List.length_replicate

theorem eq_newline_of_mem_newlines {count : Nat} {c : Char} (h : c ∈ newlines count) : c = '\n' :=
  List.eq_of_mem_replicate h

theorem newlines_add (a b : Nat) : newlines (a + b) = newlines a ++ newlines b :=
  List.replicate_add ..

theorem head?_append_ne {s t : Text} (hs : s.head? ≠ some '\n') (ht : t.head? ≠ some '\n') :
    (s ++ t).head? ≠ some '\n' := by
  cases s with
  | nil => exact ht
  | cons c s => exact hs

/-- **Induction along runs of newlines**: over nothing, a character that is no
newline, and a whole run of newlines. -/
theorem newlines_induction {motive : Text → Prop} (nil : motive [])
    (char : ∀ c t, c ≠ '\n' → motive t → motive (c :: t))
    (run : ∀ count t, t.head? ≠ some '\n' → motive t → motive (newlines (count + 1) ++ t))
    (t : Text) : motive t := by
  -- Newlines in front are collected until something else comes.
  suffices h : ∀ count, motive (newlines count ++ t) from h 0
  induction t with
  | nil =>
    rintro (_ | count)
    · exact nil
    · exact run count [] nofun nil
  | cons c t ih =>
    intro count
    by_cases hc : c = '\n'
    · have hnext : newlines count ++ c :: t = newlines (count + 1) ++ t := by
        rw [hc, newlines_add, List.append_assoc]
        rfl
      rw [hnext]
      exact ih (count + 1)
    · have hchar := char c t hc (ih 0)
      rcases count with _ | count
      · exact hchar
      · exact run count (c :: t) (by simpa using hc) hchar

/-- The runs of a text that starts with a run of newlines. -/
theorem runs_newlines (count : Nat) {t : Text} (ht : t.head? ≠ some '\n') :
    runs (· = '\n') (newlines (count + 1) ++ t) =
      (true, newlines (count + 1)) :: runs (· = '\n') t := by
  refine runs_append (by simp [newlines]) ?_ ?_
  · intro c hc
    simpa using eq_newline_of_mem_newlines hc
  · cases t with
    | nil => exact nofun
    | cons c t =>
      obtain ⟨run, rest, hruns⟩ := exists_runs_cons (p := (· = '\n')) c t
      rw [hruns]
      intro piece hpiece
      cases hpiece
      simpa using ht

/-- The newlines beyond those allowed, in a text that starts at an offset. -/
def excessAt (offset : Nat) (t : Text) : List (Nat × Nat) :=
  excessFrom offset (t.runs (· = '\n'))

theorem excessAt_cons {c : Char} (hc : c ≠ '\n') (offset : Nat) (t : Text) :
    excessAt offset (c :: t) = excessAt (offset + 1) t := by
  rw [excessAt, excessAt, runs]
  rcases runs (· = '\n') t with _ | ⟨⟨isNewline, run⟩, rest⟩
  · simp [excessFrom, hc]
  · cases isNewline <;> simp [excessFrom, hc, Nat.add_assoc, Nat.add_comm 1]

theorem excessAt_newlines (offset count : Nat) {t : Text} (ht : t.head? ≠ some '\n') :
    excessAt offset (newlines (count + 1) ++ t) =
      (if count + 1 > allowed then [(offset + allowed, offset + (count + 1))] else []) ++
        excessAt (offset + (count + 1)) t := by
  rw [excessAt, runs_newlines count ht, excessFrom, length_newlines]
  simp [excessAt]

/-- The text with no more newlines together than are allowed. -/
def squeeze (t : Text) : Text :=
  (t.runs (· = '\n')).flatMap fun piece =>
    if piece.1 then piece.2.take allowed else piece.2

theorem squeeze_cons {c : Char} (hc : c ≠ '\n') (t : Text) : squeeze (c :: t) = c :: squeeze t := by
  rw [squeeze, squeeze, runs]
  rcases runs (· = '\n') t with _ | ⟨⟨isNewline, run⟩, rest⟩
  · simp [hc]
  · cases isNewline <;> simp [hc]

theorem squeeze_newlines (count : Nat) {t : Text} (ht : t.head? ≠ some '\n') :
    squeeze (newlines (count + 1) ++ t) = newlines (min allowed (count + 1)) ++ squeeze t := by
  rw [squeeze, runs_newlines count ht, List.flatMap_cons, if_pos rfl, newlines, List.take_replicate]
  rfl

/-! ## Squeezing -/

/-- No run of newlines goes over from one text to another that starts with
none. -/
theorem excessAt_append {y : Text} (hy : y.head? ≠ some '\n') (offset : Nat) (x : Text) :
    excessAt offset (x ++ y) = excessAt offset x ++ excessAt (offset + x.length) y := by
  induction x using newlines_induction generalizing offset with
  | nil => rfl
  | char c t hc ih =>
    rw [List.cons_append, excessAt_cons hc, excessAt_cons hc, ih, List.length_cons,
      Nat.add_right_comm, Nat.add_assoc]
  | run count t ht ih =>
    rw [List.append_assoc, excessAt_newlines offset count (head?_append_ne ht hy),
      excessAt_newlines offset count ht, ih, List.append_assoc, List.length_append,
      length_newlines, Nat.add_assoc]

theorem squeeze_append {y : Text} (hy : y.head? ≠ some '\n') (x : Text) :
    squeeze (x ++ y) = squeeze x ++ squeeze y := by
  induction x using newlines_induction with
  | nil => rfl
  | char c t hc ih => rw [List.cons_append, squeeze_cons hc, squeeze_cons hc, ih, List.cons_append]
  | run count t ht ih =>
    rw [List.append_assoc, squeeze_newlines count (head?_append_ne ht hy),
      squeeze_newlines count ht, ih, List.append_assoc]

theorem head?_squeeze_ne {t : Text} (h : t.head? ≠ some '\n') : (squeeze t).head? ≠ some '\n' := by
  cases t with
  | nil => exact nofun
  | cons c t =>
    have hc : c ≠ '\n' := by simpa using h
    rw [squeeze_cons hc]
    exact h

/-- **Nothing is left to squeeze.** -/
theorem excessAt_squeeze (offset : Nat) (t : Text) : excessAt offset (squeeze t) = [] := by
  induction t using newlines_induction generalizing offset with
  | nil => rfl
  | char c t hc ih => rw [squeeze_cons hc, excessAt_cons hc, ih]
  | run count t ht ih =>
    obtain ⟨kept, hkept⟩ : ∃ kept, min allowed (count + 1) = kept + 1 := ⟨min 2 count, by
      rw [allowed]; omega⟩
    have hfew : ¬ kept + 1 > allowed := by omega
    rw [squeeze_newlines count ht, hkept, excessAt_newlines offset kept (head?_squeeze_ne ht),
      if_neg hfew, ih]
    rfl

/-- Squeezing a part of a text keeps its shape. -/
theorem shape_squeeze_append (x y : Text) : shape (squeeze x ++ y) = shape (x ++ y) := by
  induction x using newlines_induction with
  | nil => rfl
  | char c t hc ih => rw [squeeze_cons hc, List.cons_append, List.cons_append, shape_cons,
      shape_cons, ih]
  | run count t ht ih =>
    have hkept : newlines (min allowed (count + 1)) ≠ [] := by
      rw [newlines, Ne, List.replicate_eq_nil_iff, allowed]
      omega
    have hall : newlines (count + 1) ≠ [] := by simp [newlines]
    rw [squeeze_newlines count ht, List.append_assoc, List.append_assoc,
      shape_append _ (squeeze t ++ y), shape_append _ (t ++ y), ih,
      foldr_joinLine_newlines hkept fun _ => eq_newline_of_mem_newlines,
      foldr_joinLine_newlines hall fun _ => eq_newline_of_mem_newlines]

theorem shape_squeeze (t : Text) : shape (squeeze t) = shape t := by
  have h := shape_squeeze_append t []
  rwa [List.append_nil, List.append_nil] at h

theorem ink_squeeze (t : Text) : ink (squeeze t) = ink t := by
  rw [← ink_shape, shape_squeeze, ink_shape]

theorem notMem_squeeze {t : Text} {c : Char} (h : c ∉ t) : c ∉ squeeze t := by
  intro hmem
  rw [squeeze, List.mem_flatMap] at hmem
  obtain ⟨piece, hpiece, hc⟩ := hmem
  refine h ?_
  rw [← flatMap_runs (p := (· = '\n')) t]
  refine List.mem_flatMap.2 ⟨piece, hpiece, ?_⟩
  split at hc
  · exact List.mem_of_mem_take hc
  · exact hc

/-- What is no newline stays behind as much ink when a part of the text is
squeezed, and no newline comes behind it where there was none. -/
theorem exists_squeeze_append {x y a b : Text} {c : Char} (hc : c ≠ '\n')
    (h : x ++ y = a ++ c :: b) :
    ∃ a' b', squeeze x ++ y = a' ++ c :: b' ∧ ink a' = ink a ∧ ('\n' ∉ b → '\n' ∉ b') := by
  -- The character stands behind the part that is squeezed, or in it.
  rcases List.append_eq_append_iff.1 h with ⟨z, rfl, rfl⟩ | ⟨z, rfl, hz⟩
  · exact ⟨squeeze x ++ z, b, by simp, by simp [ink_squeeze], id⟩
  · rcases z with _ | ⟨d, z⟩
    · rw [List.nil_append] at hz
      exact ⟨squeeze a, b, by simp [← hz], ink_squeeze a, id⟩
    · rw [List.cons_append, List.cons.injEq] at hz
      obtain ⟨rfl, rfl⟩ := hz
      refine ⟨squeeze a, squeeze z ++ y, ?_, ink_squeeze a, fun hb => ?_⟩
      · rw [squeeze_append (by simpa using hc), squeeze_cons hc]
        simp
      · rw [List.mem_append, not_or] at hb ⊢
        exact ⟨notMem_squeeze hb.1, hb.2⟩

/-! ## The ranges -/

/-- A range of newlines too many starts behind a newline, with a newline. -/
theorem exists_of_mem_excessAt {offset : Nat} {t : Text} {range : Nat × Nat}
    (h : range ∈ excessAt offset t) :
    ∃ before after, t = before ++ '\n' :: '\n' :: after ∧
      range.1 = offset + before.length + 1 := by
  induction t using newlines_induction generalizing offset with
  | nil => cases h
  | char c t hc ih =>
    rw [excessAt_cons hc] at h
    obtain ⟨before, after, rfl, hrange⟩ := ih h
    exact ⟨c :: before, after, rfl, by rw [hrange, List.length_cons]; omega⟩
  | run count t ht ih =>
    rw [excessAt_newlines offset count ht] at h
    rcases List.mem_append.1 h with h | h
    · split at h
      · rename_i hmany
        cases List.mem_singleton.1 h
        rw [allowed] at hmany
        obtain ⟨rest, rfl⟩ : ∃ rest, count = rest + 3 := ⟨count - 3, by omega⟩
        -- The last newline that is allowed stands before the range.
        refine ⟨newlines 2, newlines rest ++ t, ?_, rfl⟩
        rw [show rest + 3 + 1 = 2 + (2 + rest) by omega, newlines_add, newlines_add,
          List.append_assoc, List.append_assoc]
        rfl
      · cases h
    · obtain ⟨before, after, rfl, hrange⟩ := ih h
      refine ⟨newlines (count + 1) ++ before, after, (List.append_assoc ..).symm, ?_⟩
      rw [hrange, List.length_append, length_newlines]
      omega

theorem lt_of_mem_excessAt {offset : Nat} {t : Text} {range : Nat × Nat}
    (h : range ∈ excessAt offset t) : offset < range.1 ∧ range.1 < offset + t.length := by
  obtain ⟨before, after, rfl, hrange⟩ := exists_of_mem_excessAt h
  rw [hrange, List.length_append, List.length_cons, List.length_cons]
  omega

/-- The newlines in front of a range, one more than what is before it has. -/
theorem exists_of_mem_excess {t : Text} {range : Nat × Nat} (h : range ∈ excess t) :
    ∃ before after, t = before ++ '\n' :: '\n' :: after ∧ range.1 = before.length + 1 ∧
      (t.take range.1).count '\n' = before.count '\n' + 1 := by
  obtain ⟨before, after, ht, hstart⟩ := exists_of_mem_excessAt h
  rw [Nat.zero_add] at hstart
  refine ⟨before, after, ht, hstart, ?_⟩
  have htake : t.take range.1 = before ++ ['\n'] := by
    rw [ht, List.append_cons before]
    exact List.take_left' (by rw [hstart, List.length_append, List.length_singleton])
  rw [htake, List.count_append, List.count_singleton_self]

/-- A range starts with a newline, so that what comes behind its start is on a
later line. -/
theorem count_take_lt {t : Text} {range : Nat × Nat} (h : range ∈ excess t) {n : Nat}
    (hlt : range.1 < n) : (t.take range.1).count '\n' < (t.take n).count '\n' := by
  obtain ⟨before, after, rfl, hstart, hcount⟩ := exists_of_mem_excess h
  have hmore := count_le_count_take (x := before ++ ['\n', '\n']) (y := after) (n := n) (by
    rw [List.length_append]
    simp only [List.length_cons, List.length_nil]
    omega) '\n'
  rw [List.count_append, List.append_assoc] at hmore
  simp only [List.count_cons_self, List.count_nil, List.cons_append, List.nil_append] at hmore
  omega

/-- The ranges stand in the order of where they start. -/
theorem pairwise_excessAt (offset : Nat) (t : Text) :
    (excessAt offset t).Pairwise fun a b => a.1 < b.1 := by
  induction t using newlines_induction generalizing offset with
  | nil => exact .nil
  | char c t hc ih => exact excessAt_cons hc offset t ▸ ih _
  | run count t ht ih =>
    rw [excessAt_newlines offset count ht, List.pairwise_append]
    refine ⟨?_, ih _, fun a ha b hb => ?_⟩
    · split
      · exact List.pairwise_singleton _ _
      · exact .nil
    · split at ha
      · cases List.mem_singleton.1 ha
        have hstart := (lt_of_mem_excessAt hb).1
        simp only
        omega
      · cases ha

/-- The ranges start on lines further and further down. -/
theorem pairwise_line_excess (t : Text) :
    (excess t).Pairwise fun a b => (t.take a.1).count '\n' < (t.take b.1).count '\n' :=
  (pairwise_excessAt 0 t).imp_of_mem fun ha _ hlt => count_take_lt ha hlt

/-- **Cutting out the ranges of a part of a text squeezes it**, if the last
comes first: what is cut out does not move what comes before it. The text is
that of a state, as `reads` finds it there. -/
theorem squeezes_of_cuts {σ : Type} (reads : σ → Text → Prop) (cut : Nat × Nat → σ → σ)
    (hcut : ∀ a count b s, reads s (a ++ newlines count ++ b) →
      reads (cut (a.length, a.length + count) s) (a ++ b))
    (a x b : Text) (s : σ) (hs : reads s (a ++ x ++ b)) :
    reads ((excessAt a.length x).foldr cut s) (a ++ squeeze x ++ b) := by
  induction x using newlines_induction generalizing a with
  | nil => exact hs
  | char c t hc ih =>
    have hrest := ih (a ++ [c]) (by simpa using hs)
    rw [List.length_append, List.length_singleton] at hrest
    rw [excessAt_cons hc, squeeze_cons hc]
    simpa using hrest
  | run count t ht ih =>
    -- What is behind the run is squeezed by now, and the run stands where it stood.
    have hrest := ih (a ++ newlines (count + 1)) (by simpa using hs)
    rw [List.length_append, length_newlines] at hrest
    rw [excessAt_newlines _ _ ht, List.foldr_append, squeeze_newlines count ht]
    split
    · rename_i hmany
      obtain ⟨extra, hextra⟩ : ∃ extra, count + 1 = allowed + extra :=
        ⟨count + 1 - allowed, by omega⟩
      have hlast := hcut (a ++ newlines allowed) extra (squeeze t ++ b) _ (by
        rw [hextra, newlines_add] at hrest
        simpa only [List.append_assoc, hextra] using hrest)
      rw [List.length_append, length_newlines, Nat.add_assoc, ← hextra] at hlast
      rw [List.foldr_cons, List.foldr_nil, Nat.min_eq_left (by omega)]
      simpa only [List.append_assoc] using hlast
    · rename_i hfew
      rw [List.foldr_nil, Nat.min_eq_right (by omega)]
      simpa only [List.append_assoc] using hrest

/-! ## The fixer of blank lines -/

/-- The fixer removes a range of newlines. -/
theorem removeNewlines?_newlines (a b : Text) (count : Nat) :
    removeNewlines? (a ++ newlines count ++ b) (some (a.length : Nat))
      (some ((a.length + count : Nat) : Int)) = some (a ++ b) := by
  have hoffset : ∀ (t : Text) (n : Nat), t.offset n = n := fun t n => rfl
  have hbetween : (a ++ newlines count ++ b).slice (a.length : Nat)
      ((a.length + count : Nat) : Int) = newlines count := by
    rw [slice, hoffset, hoffset, List.append_assoc, List.drop_left, Nat.add_sub_cancel_left]
    exact List.take_left' (length_newlines count)
  have hall : ((a ++ newlines count ++ b).slice (a.length : Nat)
      ((a.length + count : Nat) : Int)).all (fun c => decide (c = '\n')) = true := by
    rw [hbetween]
    simp [newlines]
  have hbehind : (a ++ newlines count ++ b).drop (a.length + count) = b :=
    List.drop_left' (by rw [List.length_append, length_newlines])
  rw [removeNewlines?, between]
  simp only [Option.getD_some]
  rw [if_pos hall, before, onwards, hoffset, hoffset, hbehind, List.append_assoc,
    List.take_left]

/-- The line of an offense is that of the offset where its range starts. -/
theorem line_blankLinesOffense (source : Text) (start stop : Nat) :
    (blankLinesOffense source start stop).start.line = (source.take start).count '\n' + 1 := by
  rw [← line_origin_advance, ← positionAt_eq]
  rfl

/-! ## The end of a file -/

theorem all_newline_iff {t : Text} : t.all (· = '\n') ↔ ink t = 0 := by
  simp [ink]

theorem endsWith_newline (u : Text) (c : Char) :
    endsWith ['\n'] (u ++ [c]) = decide (c = '\n') := by
  by_cases h : c = '\n'
  · simp [endsWith, startsWith, after?, h]
  · simp [endsWith, startsWith, after?, h, Ne.symm h]

theorem endsWith_newlines (u : Text) (c : Char) :
    endsWith ['\n', '\n'] (u ++ [c] ++ ['\n']) = decide (c = '\n') := by
  by_cases h : c = '\n'
  · simp [endsWith, startsWith, after?, h]
  · simp [endsWith, startsWith, after?, h, Ne.symm h]

theorem endOfFileOffenses_append (u : Text) (c : Char) :
    endOfFileOffenses (u ++ [c] ++ ['\n']) = [] ↔ c ≠ '\n' ∨ ink (u ++ [c] ++ ['\n']) = 0 := by
  rw [← all_newline_iff, endOfFileOffenses, endsWith_newline, endsWith_newlines]
  by_cases hc : c = '\n'
  · rcases (u ++ [c] ++ ['\n']).all (· = '\n') with _ | _ <;> simp [hc]
  · simp [hc]

/-- **A file is in order at its end** if it is of newlines only, or ends with
one newline behind something else. -/
theorem endOfFileOffenses_eq_nil_iff {t : Text} :
    endOfFileOffenses t = [] ↔ ink t = 0 ∨ ∃ body c, t = body ++ [c] ++ ['\n'] ∧ c ≠ '\n' := by
  constructor
  · intro h
    rw [or_iff_not_imp_left]
    intro hink
    rcases List.eq_nil_or_concat t with rfl | ⟨u, d, rfl⟩
    · exact absurd rfl hink
    rw [List.concat_eq_append] at h hink ⊢
    rcases eq_or_ne d '\n' with rfl | hd
    · rcases List.eq_nil_or_concat u with rfl | ⟨v, c, rfl⟩
      · exact absurd rfl hink
      rw [List.concat_eq_append] at h hink ⊢
      exact ⟨v, c, rfl, ((endOfFileOffenses_append v c).1 h).resolve_right hink⟩
    · rw [endOfFileOffenses, endsWith_newline] at h
      simp [hd] at h
  · rintro (hink | ⟨body, c, rfl, hc⟩)
    · rcases List.eq_nil_or_concat t with rfl | ⟨u, d, rfl⟩
      · rfl
      · have hall := all_newline_iff.2 hink
        rw [List.concat_eq_append] at hall ⊢
        have hd : d = '\n' := by simpa using List.all_eq_true.1 hall d (by simp)
        rw [endOfFileOffenses, endsWith_newline, hall]
        simp [hd]
    · exact (endOfFileOffenses_append body c).2 (.inl hc)

/-- Squeezing does not disturb the end of a file that is in order. -/
theorem endOfFileOffenses_squeeze_append {x y : Text} (hy : y.head? ≠ some '\n')
    (h : endOfFileOffenses (x ++ y) = []) : endOfFileOffenses (squeeze x ++ y) = [] := by
  rw [endOfFileOffenses_eq_nil_iff] at h ⊢
  rcases h with hink | ⟨body, c, hbody, hc⟩
  · left
    rw [ink_append, ink_squeeze, ← ink_append, hink]
  · right
    rw [List.append_assoc] at hbody
    rcases List.append_eq_append_iff.1 hbody with ⟨z, rfl, rfl⟩ | ⟨z, rfl, hz⟩
    · exact ⟨squeeze x ++ z, c, by simp, hc⟩
    · -- The end reaches into the part that is squeezed, which then holds all of it or none.
      rcases z with _ | ⟨d, _ | ⟨e, z⟩⟩
      · rw [List.nil_append] at hz
        exact ⟨squeeze body, c, by simp [← hz], hc⟩
      · cases hz
        exact absurd rfl hy
      · obtain ⟨rfl, rfl, rfl, rfl⟩ : c = d ∧ '\n' = e ∧ z = [] ∧ y = [] := by simpa using hz
        have hend : squeeze [c, '\n'] = [c] ++ ['\n'] := by
          rw [squeeze_cons hc]
          rfl
        refine ⟨squeeze body, c, ?_, hc⟩
        rw [List.append_nil, squeeze_append (by simpa using hc), hend, List.append_assoc]

/-! ## The fixer of the end of a file -/

/-- The fixer leaves one newline behind what is no newline. -/
theorem endWithNewline?_append (body : Text) {c : Char} (hc : c ≠ '\n') (count : Nat) :
    endWithNewline? (body ++ c :: newlines count) = some (body ++ [c] ++ ['\n']) := by
  have hall : ¬ (body ++ c :: newlines count).all (· = '\n') := by
    rw [all_newline_iff, ink_append, ink_cons hc]
    omega
  have hdrop : dropEnd (· = '\n') (body ++ c :: newlines count) = body ++ [c] := by
    have hreverse : (body ++ c :: newlines count).reverse =
        newlines count ++ (c :: body.reverse) := by simp [newlines]
    rw [dropEnd, hreverse, List.dropWhile_append_of_pos, List.dropWhile_cons_of_neg (by simp [hc])]
    · simp
    · intro d hd
      simpa using eq_newline_of_mem_newlines hd
  rw [endWithNewline?, if_neg hall, hdrop]

/-- A text that is not of newlines only has a last character that is none. -/
theorem exists_append_newlines {t : Text} (h : ink t ≠ 0) :
    ∃ body c count, t = body ++ c :: newlines count ∧ c ≠ '\n' := by
  induction t using List.reverseRecOn with
  | nil => exact absurd rfl h
  | append_singleton t d ih =>
    rcases eq_or_ne d '\n' with rfl | hd
    · have hink : ink t ≠ 0 := by simpa using h
      obtain ⟨body, c, count, rfl, hc⟩ := ih hink
      refine ⟨body, c, count + 1, ?_, hc⟩
      rw [newlines_add, List.append_assoc]
      rfl
    · exact ⟨t, d, 0, rfl, hd⟩

/-- Newlines at the end are no part of the shape. -/
theorem shape_append_newlines (body : Text) {c : Char} (hc : c ≠ '\n') (count : Nat) :
    shape (body ++ c :: newlines count) = collapse body ++ [c] := by
  rw [shape_append_cons hc, shape_newlines fun _ => eq_newline_of_mem_newlines]

theorem excess_append_newlines (body : Text) {c : Char} (hc : c ≠ '\n') (count : Nat) :
    excess (body ++ c :: newlines count) =
      excess body ++ excessAt (body.length + 1) (newlines count) := by
  have happend := excessAt_append (y := c :: newlines count) (by simpa using hc) 0 body
  rw [Nat.zero_add, excessAt_cons hc] at happend
  exact happend

/-- One newline at the end is not too much. -/
theorem excess_append_newline (body : Text) {c : Char} (hc : c ≠ '\n') :
    excess (body ++ [c] ++ ['\n']) = excess body := by
  have hnone : excessAt (body.length + 1) (newlines 1) = [] := rfl
  rw [List.append_assoc, ← List.append_nil (excess body), ← hnone]
  exact excess_append_newlines body hc 1

/-- The only offense there can be is at the very end. -/
theorem line_of_mem_endOfFileOffenses {t : Text} {o : Offense} (h : o ∈ endOfFileOffenses t) :
    o.start.line = t.count '\n' + 1 := by
  unfold endOfFileOffenses at h
  split at h
  · cases h
  · split at h
    · cases List.mem_singleton.1 h
      rfl
    · split at h
      · cases List.mem_singleton.1 h
        rfl
      · cases h

theorem length_endOfFileOffenses (t : Text) : (endOfFileOffenses t).length ≤ 1 := by
  unfold endOfFileOffenses
  split
  · exact Nat.zero_le 1
  · split
    · exact Nat.le_refl 1
    · split
      · exact Nat.le_refl 1
      · exact Nat.zero_le 1

end Newlines

end TemplateLint
