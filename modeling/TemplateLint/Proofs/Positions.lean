import TemplateLint.Proofs.BlankLines
import TemplateLint.Proofs.Tiling
/-!
# Positions — one for each offset

There are three ways to a position: reading the source up to an offset, counting
the newlines before the offset and looking for the last of them
(`Text.countedPosition`), and the same for the end of a source
(`Text.lastPosition`). They agree (`Text.countedPosition_eq`), and the positions
come in the order of the offsets. Each column of each line, up to the end of the
line, is the position of an offset (`Text.exists_positionAt_iff`), and nothing
else is (`Text.offsets_correspond`).
-/

namespace TemplateLint

namespace Position

/-- A position before another: on an earlier line, or further left on the same. -/
instance : LT Position :=
  ⟨fun p q => p.line < q.line ∨ (p.line = q.line ∧ p.column < q.column)⟩

theorem lt_def {p q : Position} :
    p < q ↔ p.line < q.line ∨ (p.line = q.line ∧ p.column < q.column) := Iff.rfl

theorem lt_iff_not_le {p q : Position} : p < q ↔ ¬ q ≤ p := by
  rw [lt_def, le_def]
  omega

theorem le_of_lt {p q : Position} (h : p < q) : p ≤ q := by
  rw [lt_def] at h
  rw [le_def]
  omega

end Position

namespace Text

/-! ## Counting newlines -/

/-- The offset at which the line of an offset starts: the one behind the last
newline before it, or the start of the source. -/
def lineStart (source : Text) (offset : Nat) : Nat :=
  ((source.take offset).reverse.dropWhile (· ≠ '\n')).length

/-- The position of an offset by counting. Behind the end of the source the
columns of the last line go on. -/
def countedPosition (source : Text) (offset : Nat) : Position :=
  ⟨(source.take offset).count '\n' + 1, offset - source.lineStart offset⟩

variable {source : Text} {a b : Nat}

/-- **Reading a text ends at its last position.** -/
theorem advance_origin (t : Text) : Position.origin.advance t = t.lastPosition := by
  induction t using List.reverseRecOn with
  | nil => rfl
  | append_singleton t c ih =>
    rw [Position.advance_append, ih, Position.advance_cons, Position.advance_nil, Position.step]
    split
    · rename_i hc
      simp [lastPosition, hc]
    · rename_i hc
      simp [lastPosition, hc]

theorem positionAt_eq_lastPosition (source : Text) (offset : Nat) :
    source.positionAt offset = lastPosition (source.take offset) := by
  rw [positionAt_eq, advance_origin]

/-- **Counting comes to the position of the offset.** -/
theorem countedPosition_eq (h : a ≤ source.length) :
    source.countedPosition a = source.positionAt a := by
  have hlength :
      ((source.take a).reverse.takeWhile (· ≠ '\n')).length + source.lineStart a = a := by
    rw [lineStart, ← List.length_append, List.takeWhile_append_dropWhile, List.length_reverse,
      List.length_take, Nat.min_eq_left h]
  rw [positionAt_eq_lastPosition, countedPosition, lastPosition, Position.mk.injEq]
  exact ⟨rfl, by omega⟩

theorem lineStart_le (source : Text) (offset : Nat) : source.lineStart offset ≤ offset := by
  refine Nat.le_trans (List.length_dropWhile_le _ _) ?_
  rw [List.length_reverse]
  exact List.length_take_le _ _

/-- **Positions by counting come in the order of the offsets**, also behind the
end. -/
theorem countedPosition_lt (h : a < b) : source.countedPosition a < source.countedPosition b := by
  obtain ⟨between, hbetween⟩ : ∃ between, source.take b = source.take a ++ between :=
    ⟨_, (List.take_append_drop a (source.take b)).symm.trans
      (by rw [List.take_take, Nat.min_eq_left (Nat.le_of_lt h)])⟩
  rw [Position.lt_def, countedPosition, countedPosition, hbetween, List.count_append]
  rcases Nat.eq_zero_or_pos (between.count '\n') with hnone | hsome
  · -- Both are on one line.
    have hother : ∀ c ∈ between.reverse, decide (c ≠ '\n') = true := by
      simpa [List.count_eq_zero, ← List.forall_mem_ne'] using List.count_eq_zero.1 hnone
    have hstart : source.lineStart b = source.lineStart a := by
      rw [lineStart, lineStart, hbetween, List.reverse_append,
        List.dropWhile_append_of_pos hother]
    have hle := lineStart_le source a
    exact .inr ⟨by simp only; omega, by simp only; omega⟩
  · exact .inl (by simp only; omega)

/-- A span by counting has its end behind its start, so that it is a location. -/
theorem exists_between?_countedPosition (h : a ≤ b) : ∃ location,
    Location.between? (source.countedPosition a) (source.countedPosition b) = .ok location := by
  have hle : source.countedPosition a ≤ source.countedPosition b := by
    rcases Nat.eq_or_lt_of_le h with rfl | hlt
    · exact Position.le_refl _
    · exact Position.le_of_lt (countedPosition_lt hlt)
  exact ⟨_, dif_pos hle⟩

/-! ## Lines -/

/-- A text ends where a piece may start: it is empty, or a separator is the last
of it. -/
def EndsPiece (sep : Char) (t : Text) : Prop :=
  t = [] ∨ ∃ front, t = front ++ [sep]

/-- **A text is a piece of another**, with what stands before it and behind: it
holds no separator, and there is one at either side, or nothing. -/
structure IsPiece (sep : Char) (before piece behind : Text) : Prop where
  before : EndsPiece sep before
  piece : sep ∉ piece
  behind : behind = [] ∨ ∃ rest, behind = sep :: rest

variable {sep c : Char} {t before piece behind : Text}

theorem EndsPiece.cons (h : EndsPiece sep t) (hne : t ≠ []) : EndsPiece sep (c :: t) := by
  obtain rfl | ⟨front, rfl⟩ := h
  · exact absurd rfl hne
  · exact .inr ⟨c :: front, rfl⟩

theorem EndsPiece.cons_sep (h : EndsPiece sep t) : EndsPiece sep (sep :: t) := by
  obtain rfl | ⟨front, rfl⟩ := h
  · exact .inr ⟨[], rfl⟩
  · exact .inr ⟨sep :: front, rfl⟩

/-- Where no separator is, a piece starts at the start only. -/
theorem EndsPiece.eq_nil (h : EndsPiece sep t) (hcount : t.count sep = 0) : t = [] := by
  obtain rfl | ⟨front, rfl⟩ := h
  · rfl
  · simp at hcount

theorem length_splitAt (sep : Char) (t : Text) : (splitAt sep t).length = t.count sep + 1 := by
  induction t with
  | nil => rfl
  | cons c t ih =>
    obtain ⟨piece, pieces, ht⟩ := List.exists_cons_of_ne_nil (splitAt_ne_nil sep t)
    by_cases h : c = sep
    · rw [splitAt, if_pos h, List.length_cons, ih, h, List.count_cons_self]
    · rw [splitAt_cons_of_ne h ht, List.count_cons_of_ne h, ← ih, ht, List.length_cons,
        List.length_cons]

/-- Behind the separators before it, a piece is found. -/
theorem IsPiece.getElem?_splitAt (h : IsPiece sep before piece behind) :
    (splitAt sep (before ++ (piece ++ behind)))[before.count sep]? = some piece := by
  have hfirst : (splitAt sep (piece ++ behind))[0]? = some piece := by
    obtain rfl | ⟨rest, rfl⟩ := h.behind
    · rw [List.append_nil, splitAt_of_notMem h.piece]
      rfl
    · rw [splitAt_append, splitAt_of_notMem h.piece]
      rfl
  obtain rfl | ⟨front, rfl⟩ := h.before
  · exact hfirst
  · have hcount : (front ++ [sep]).count sep = (splitAt sep front).length := by
      simp [length_splitAt]
    rw [List.append_assoc, List.singleton_append, splitAt_append, hcount,
      List.getElem?_append_right (Nat.le_refl _), Nat.sub_self, hfirst]

/-- Each piece that is found stands in the text, behind as many separators as there
are pieces before it. -/
theorem exists_isPiece {i : Nat} (h : (splitAt sep t)[i]? = some piece) :
    ∃ before behind, t = before ++ (piece ++ behind) ∧ before.count sep = i ∧
      IsPiece sep before piece behind := by
  induction t generalizing i piece with
  | nil =>
    obtain ⟨rfl, rfl⟩ : i = 0 ∧ [] = piece := by
      cases i <;> simp_all [splitAt]
    exact ⟨[], [], rfl, rfl, .inl rfl, List.not_mem_nil, .inl rfl⟩
  | cons c t ih =>
    obtain ⟨first, pieces, ht⟩ := List.exists_cons_of_ne_nil (splitAt_ne_nil sep t)
    by_cases hc : c = sep
    · subst hc
      rw [splitAt, if_pos rfl] at h
      cases i with
      | zero =>
        cases h
        exact ⟨[], c :: t, rfl, rfl, .inl rfl, List.not_mem_nil, .inr ⟨t, rfl⟩⟩
      | succ i =>
        obtain ⟨before, behind, rfl, rfl, hpiece⟩ := ih h
        exact ⟨c :: before, behind, rfl, List.count_cons_self,
          hpiece.before.cons_sep, hpiece.piece, hpiece.behind⟩
    · rw [splitAt_cons_of_ne hc ht] at h
      rw [ht] at ih
      cases i with
      | zero =>
        cases h
        obtain ⟨before, behind, rfl, hcount, hpiece⟩ := ih (i := 0) rfl
        obtain rfl := hpiece.before.eq_nil hcount
        exact ⟨[], behind, rfl, rfl, .inl rfl,
          List.not_mem_cons_of_ne_of_not_mem (Ne.symm hc) hpiece.piece, hpiece.behind⟩
      | succ i =>
        obtain ⟨before, behind, rfl, hcount, hpiece⟩ := ih (i := i + 1) h
        have hne : before ≠ [] := by
          rintro rfl
          cases hcount
        exact ⟨c :: before, behind, rfl, by rw [List.count_cons_of_ne hc, hcount],
          hpiece.before.cons hne, hpiece.piece, hpiece.behind⟩

/-- Behind a line end, a text without one is read on one line. -/
theorem lastPosition_append (hbefore : EndsPiece '\n' before) (hpiece : '\n' ∉ piece) :
    lastPosition (before ++ piece) = ⟨before.count '\n' + 1, piece.length⟩ := by
  have htaken : ∀ c ∈ piece.reverse, decide (c ≠ '\n') = true := by
    intro c hc
    refine decide_eq_true fun hnewline => hpiece ?_
    rw [← hnewline]
    exact List.mem_reverse.1 hc
  have hnone : before.reverse.takeWhile (fun c => decide (c ≠ '\n')) = [] := by
    obtain rfl | ⟨front, rfl⟩ := hbefore
    · rfl
    · simp
  rw [lastPosition, List.count_append, List.count_eq_zero.2 hpiece, List.reverse_append,
    List.takeWhile_append_of_pos htaken, hnone, List.append_nil, List.length_reverse,
    Nat.add_zero]

/-- Every text ends with a line, which may be empty. -/
theorem exists_endsPiece (sep : Char) (t : Text) :
    ∃ before piece, t = before ++ piece ∧ EndsPiece sep before ∧ sep ∉ piece := by
  induction t using List.reverseRecOn with
  | nil => exact ⟨[], [], rfl, .inl rfl, List.not_mem_nil⟩
  | append_singleton t c ih =>
    by_cases hc : c = sep
    · exact ⟨t ++ [c], [], (List.append_nil _).symm, .inr ⟨t, by rw [hc]⟩, List.not_mem_nil⟩
    · obtain ⟨before, piece, rfl, hbefore, hpiece⟩ := ih
      exact ⟨before, piece ++ [c], List.append_assoc .., hbefore, by simp [hpiece, Ne.symm hc]⟩

/-- And starts with one. -/
theorem exists_startsBehind (sep : Char) (t : Text) :
    ∃ piece behind, t = piece ++ behind ∧ sep ∉ piece ∧
      (behind = [] ∨ ∃ rest, behind = sep :: rest) := by
  induction t with
  | nil => exact ⟨[], [], rfl, List.not_mem_nil, .inl rfl⟩
  | cons c t ih =>
    by_cases hc : c = sep
    · exact ⟨[], c :: t, rfl, List.not_mem_nil, .inr ⟨t, by rw [hc]⟩⟩
    · obtain ⟨piece, behind, rfl, hpiece, hbehind⟩ := ih
      exact ⟨c :: piece, behind, rfl,
        List.not_mem_cons_of_ne_of_not_mem (Ne.symm hc) hpiece, hbehind⟩

/-- **The positions of a source** are the columns of its lines, each up to its
end. -/
theorem exists_positionAt_iff {p : Position} :
    (∃ offset ≤ source.length, source.positionAt offset = p) ↔
      1 ≤ p.line ∧ ∃ line, (source.splitAt '\n')[p.line - 1]? = some line ∧
        p.column ≤ line.length := by
  constructor
  · rintro ⟨offset, -, rfl⟩
    obtain ⟨before, first, htake, hbefore, hfirst⟩ := exists_endsPiece '\n' (source.take offset)
    obtain ⟨second, behind, hdrop, hsecond, hbehind⟩ :=
      exists_startsBehind '\n' (source.drop offset)
    have hline : IsPiece '\n' before (first ++ second) behind :=
      ⟨hbefore, by simp [hfirst, hsecond], hbehind⟩
    have hsource : source = before ++ ((first ++ second) ++ behind) := by
      rw [← List.take_append_drop offset source, htake, hdrop, List.append_assoc,
        List.append_assoc]
    rw [positionAt_eq_lastPosition, htake, lastPosition_append hbefore hfirst]
    refine ⟨Nat.succ_pos _, first ++ second, ?_, ?_⟩
    · rw [Nat.add_sub_cancel]
      conv_lhs => rw [hsource]
      exact hline.getElem?_splitAt
    · rw [List.length_append]
      exact Nat.le_add_right _ _
  · rintro ⟨hline, line, hget, hcolumn⟩
    obtain ⟨before, behind, rfl, hcount, hpiece⟩ := exists_isPiece hget
    have htake : (before ++ (line ++ behind)).take (before.length + p.column) =
        before ++ line.take p.column := by
      rw [List.take_length_add_append, List.take_append_of_le_length hcolumn]
    have hpart : '\n' ∉ line.take p.column := fun hmem => hpiece.piece (List.mem_of_mem_take hmem)
    refine ⟨before.length + p.column, ?_, ?_⟩
    · simp only [List.length_append]
      omega
    · rw [positionAt_eq_lastPosition, htake, lastPosition_append hpiece.before hpart,
        List.length_take, Nat.min_eq_left hcolumn, hcount, Nat.sub_add_cancel hline]

end Text

/-! ## Where blank lines are reported -/

/-- A range of newlines lies in the source. -/
theorem Newlines.stop_le_of_mem_excess {source : Text} {range : Nat × Nat}
    (h : range ∈ excess source) : range.2 ≤ source.length := by
  obtain ⟨runs, hranges, hruns⟩ := exists_runs_excess source
  rw [hranges] at h
  obtain ⟨⟨offset, count⟩, hrun, rfl⟩ := List.mem_map.1 h
  obtain ⟨before, behind, rfl, rfl, -⟩ := ((hruns.mem offset count).1 hrun).1
  simp only [List.length_append, length_newlines]
  omega

/-- **The rule about blank lines counts as reading does**: each of its offenses lies
between the positions of the two offsets that it notes. -/
theorem Newlines.exists_offsets_of_mem_blankLinesOffenses {source : Text} {o : Offense}
    (h : o ∈ blankLinesOffenses source) :
    ∃ start stop : Nat, start < stop ∧ stop ≤ source.length ∧
      o.note = some [("start_offset", .int start), ("end_offset", .int stop)] ∧
      o.location.start = source.countedPosition start ∧
      o.location.stop = source.countedPosition stop := by
  obtain ⟨⟨start, stop⟩, hrange, rfl⟩ := List.mem_map.1 h
  have hlt : start < stop := lt_of_mem_excess hrange
  have hle : stop ≤ source.length := stop_le_of_mem_excess hrange
  refine ⟨start, stop, hlt, hle, rfl, ?_, ?_⟩
  · rw [Text.countedPosition_eq (Nat.le_trans (Nat.le_of_lt hlt) hle)]
    rfl
  · rw [Text.countedPosition_eq hle, ← Text.stop_span (Nat.le_of_lt hlt)]
    rfl

namespace Text

/-- **Offsets and positions correspond.** A later offset has a later position, so that
no two have one. The positions are the columns of the lines of the source, each up to
the end of the line, and the last of them is where the source ends. Counting newlines
comes to the same positions, and this is where the rule about blank lines reports.
A span by counting from an offset to a later one is always a location, and inside the
source it is the span of what stands there. -/
theorem offsets_correspond (source : Text) :
    (∀ a b, a < b → b ≤ source.length → source.positionAt a < source.positionAt b) ∧
    (∀ a b, a ≤ source.length → b ≤ source.length →
      source.positionAt a = source.positionAt b → a = b) ∧
    (∀ p, (∃ offset ≤ source.length, source.positionAt offset = p) ↔
      1 ≤ p.line ∧ ∃ line, (source.splitAt '\n')[p.line - 1]? = some line ∧
        p.column ≤ line.length) ∧
    (source.endLocation.start = source.positionAt source.length ∧
      source.endLocation.stop = source.positionAt source.length) ∧
    (∀ offset ≤ source.length, source.countedPosition offset = source.positionAt offset) ∧
    (∀ context offenses, Newlines.blankLines.check (.text source) context = .ok offenses →
      ∀ o ∈ offenses, ∃ start stop : Nat, start < stop ∧ stop ≤ source.length ∧
        o.note = some [("start_offset", .int start), ("end_offset", .int stop)] ∧
        o.location.start = source.countedPosition start ∧
        o.location.stop = source.countedPosition stop) ∧
    (∀ a b, a ≤ b → ∃ location,
      Location.between? (source.countedPosition a) (source.countedPosition b) = .ok location ∧
        (b ≤ source.length → location = source.span a b)) := by
  refine ⟨fun a b hlt hb => ?_, fun a b => positionAt_inj, fun p => exists_positionAt_iff, ?_,
    fun offset => countedPosition_eq, fun context offenses hcheck o ho => ?_, fun a b hle => ?_⟩
  · exact Position.lt_iff_not_le.2 (not_positionAt_le hlt hb)
  · have hend : source.lastPosition = source.positionAt source.length := by
      rw [positionAt_eq_lastPosition, List.take_length]
    exact ⟨hend, hend⟩
  · cases hcheck
    exact Newlines.exists_offsets_of_mem_blankLinesOffenses ho
  · obtain ⟨location, hlocation⟩ : ∃ location, Location.between? (source.countedPosition a)
        (source.countedPosition b) = .ok location := exists_between?_countedPosition hle
    refine ⟨location, hlocation, fun hb => ?_⟩
    have hspan := between?_positionAt source hle
    rw [countedPosition_eq (Nat.le_trans hle hb), countedPosition_eq hb, hspan] at hlocation
    exact (Except.ok.inj hlocation).symm

end Text

end TemplateLint
