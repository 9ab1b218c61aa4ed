import TemplateLint.Proofs.Fixing
import TemplateLint.Proofs.Offsets
/-!
# Blank lines — what is reported, and what the fixer makes of it

The rule about blank lines reports each maximal run of more newlines than are
allowed, once, with the offsets of what is too much. On the text that was
checked, its fixer shortens each of these runs to what is allowed
(`Newlines.blankLines_normalizes`).

On any other text the offsets are stale. The fixer then looks at nothing but the
characters between them: it gives up if one of these is no newline, and cuts them
out if all are. That spares the runs of the other text if enough newlines stand
around the cut, and only then (`Newlines.fixBlankLines_stale`): a single newline
between two lines may go (`Newlines.fixBlankLines_joinsLines`).
-/

namespace TemplateLint

namespace Newlines

open Text

/-! ## Runs in place -/

/-- **A maximal run.** So many newlines stand at an offset, with none before them
and none behind. -/
def RunAt (t : Text) (offset count : Nat) : Prop :=
  ∃ before behind, t = before ++ newlines count ++ behind ∧ before.length = offset ∧ 0 < count ∧
    before.getLast? ≠ some '\n' ∧ behind.head? ≠ some '\n'

theorem newlines_append_inj {a b : Nat} {s t : Text} (hs : s.head? ≠ some '\n')
    (ht : t.head? ≠ some '\n') (h : newlines a ++ s = newlines b ++ t) : a = b ∧ s = t := by
  have hclass : ∀ n, ∀ c ∈ newlines n, decide (c = '\n') = true := fun n c hc =>
    decide_eq_true (eq_newline_of_mem_newlines hc)
  have hhead : ∀ {u : Text}, u.head? ≠ some '\n' → ∀ c ∈ u.head?, decide (c = '\n') = false := by
    rintro u hu c hc
    refine decide_eq_false fun hnewline => hu ?_
    rw [← hnewline]
    exact hc
  obtain ⟨hruns, hrest⟩ := append_inj_of_class (hclass a) (hclass b) (hhead hs) (hhead ht) h
  exact ⟨by simpa using congrArg List.length hruns, hrest⟩

theorem head?_newlines_append {count : Nat} (h : 0 < count) (t : Text) :
    (newlines count ++ t).head? = some '\n' := by
  obtain ⟨rest, rfl⟩ : ∃ rest, count = rest + 1 := ⟨count - 1, by omega⟩
  rfl

/-- Behind another character, a run is where it is without that. -/
theorem runAt_cons_iff {c : Char} (hc : c ≠ '\n') {t : Text} {offset count : Nat} :
    RunAt (c :: t) offset count ↔ ∃ k, offset = 1 + k ∧ RunAt t k count := by
  constructor
  · rintro ⟨before, behind, ht, rfl, hcount, hbefore, hbehind⟩
    rcases before with _ | ⟨d, before⟩
    · have hhead := congrArg List.head? ht
      rw [List.nil_append, head?_newlines_append hcount] at hhead
      exact absurd (Option.some.inj hhead) hc
    · rw [List.cons_append, List.cons_append, List.cons.injEq] at ht
      refine ⟨before.length, Nat.add_comm _ _, before, behind, ht.2, rfl, hcount,
        fun hlast => hbefore ?_, hbehind⟩
      rw [List.getLast?_cons, hlast]
      rfl
  · rintro ⟨k, rfl, before, behind, rfl, rfl, hcount, hbefore, hbehind⟩
    refine ⟨c :: before, behind, rfl, Nat.add_comm _ _, hcount, fun hlast => ?_, hbehind⟩
    rcases hrest : before.getLast? with _ | d
    · rw [List.getLast?_cons, hrest] at hlast
      exact hc (Option.some.inj hlast)
    · rw [List.getLast?_cons, hrest] at hlast
      exact hbefore (hrest.trans hlast)

/-- Newlines in front of a text are its first run. -/
theorem runAt_newlines_iff {length : Nat} {t : Text} (ht : t.head? ≠ some '\n')
    {offset count : Nat} :
    RunAt (newlines (length + 1) ++ t) offset count ↔
      (offset = 0 ∧ count = length + 1) ∨ ∃ k, offset = length + 1 + k ∧ RunAt t k count := by
  constructor
  · rintro ⟨before, behind, hall, rfl, hcount, hbefore, hbehind⟩
    rw [List.append_assoc] at hall
    rcases List.append_eq_append_iff.1 hall with ⟨z, rfl, hz⟩ | ⟨z, hz, hrest⟩
    · -- The run stands behind the newlines in front.
      rcases z with _ | ⟨d, z⟩
      · rw [List.nil_append] at hz
        rw [hz] at ht
        exact absurd (head?_newlines_append hcount behind) ht
      · refine .inr ⟨(d :: z).length, by simp, d :: z, behind, ?_, rfl, hcount, ?_, hbehind⟩
        · rw [hz, List.append_assoc]
        · rwa [List.getLast?_append_of_ne_nil _ (List.cons_ne_nil d z)] at hbefore
    · -- It starts among them, and so with them.
      rcases List.eq_nil_or_concat before with rfl | ⟨front, d, rfl⟩
      · rw [List.nil_append] at hz
        rw [← hz] at hrest
        exact .inl ⟨rfl, (newlines_append_inj hbehind ht hrest).1⟩
      · have hd : d ∈ newlines (length + 1) := by rw [hz]; simp
        rw [eq_newline_of_mem_newlines hd] at hbefore
        exact absurd (by simp) hbefore
  · rintro (⟨rfl, rfl⟩ | ⟨k, rfl, before, behind, rfl, rfl, hcount, hbefore, hbehind⟩)
    · exact ⟨[], t, rfl, rfl, Nat.succ_pos _, nofun, ht⟩
    · refine ⟨newlines (length + 1) ++ before, behind, ?_, ?_, hcount, ?_, hbehind⟩
      · simp only [List.append_assoc]
      · rw [List.length_append, length_newlines]
      · rcases eq_or_ne before [] with rfl | hne
        · rw [List.nil_append] at ht
          exact absurd (head?_newlines_append hcount behind) ht
        · rwa [List.getLast?_append_of_ne_nil _ hne]

theorem not_runAt_nil {offset count : Nat} : ¬ RunAt [] offset count := by
  rintro ⟨before, behind, hnil, -, hcount, -⟩
  have hlength := congrArg List.length hnil
  simp only [List.length_nil, List.length_append, length_newlines] at hlength
  omega

/-- A run at the start is what the text starts with. -/
theorem pos_of_runAt {t : Text} (ht : t.head? ≠ some '\n') {offset count : Nat}
    (h : RunAt t offset count) : 0 < offset := by
  obtain ⟨before, behind, rfl, rfl, hcount, -⟩ := h
  rcases before with _ | ⟨c, before⟩
  · rw [List.nil_append] at ht
    exact absurd (head?_newlines_append hcount behind) ht
  · exact Nat.succ_pos _

/-- Runs, the same number of characters further down. -/
def shifted (length : Nat) (runs : List (Nat × Nat)) : List (Nat × Nat) :=
  runs.map fun run => (length + run.1, run.2)

theorem mem_shifted {length start count : Nat} {runs : List (Nat × Nat)} :
    (start, count) ∈ shifted length runs ↔ ∃ k, start = length + k ∧ (k, count) ∈ runs := by
  rw [shifted, List.mem_map]
  constructor
  · rintro ⟨⟨k, n⟩, hrun, heq⟩
    cases heq
    exact ⟨k, rfl, hrun⟩
  · rintro ⟨k, rfl, hrun⟩
    exact ⟨(k, count), hrun, rfl⟩

/-- What a run has behind the newlines that are allowed. -/
def overhang (offset : Nat) (run : Nat × Nat) : Nat × Nat :=
  (offset + run.1 + allowed, offset + run.1 + run.2)

theorem map_overhang_shifted (offset length : Nat) (runs : List (Nat × Nat)) :
    (shifted length runs).map (overhang offset) = runs.map (overhang (offset + length)) := by
  rw [shifted, List.map_map]
  refine List.map_congr_left fun run _ => ?_
  simp only [Function.comp_apply, overhang, Nat.add_assoc]

/-- **The runs that are too long**, in order, with something between any two. -/
structure LongRuns (t : Text) (runs : List (Nat × Nat)) : Prop where
  mem : ∀ start count, (start, count) ∈ runs ↔ RunAt t start count ∧ allowed < count
  apart : runs.Pairwise fun a b => a.1 + a.2 < b.1

namespace LongRuns

variable {t : Text} {runs : List (Nat × Nat)}

theorem nil : LongRuns [] [] :=
  ⟨fun start count => by simp [not_runAt_nil], .nil⟩

theorem pairwise_shifted (h : LongRuns t runs) (length : Nat) :
    (shifted length runs).Pairwise fun a b => a.1 + a.2 < b.1 := by
  refine List.pairwise_map.2 (h.apart.imp fun {a b} hlt => ?_)
  simp only
  omega

theorem cons (h : LongRuns t runs) {c : Char} (hc : c ≠ '\n') :
    LongRuns (c :: t) (shifted 1 runs) := by
  refine ⟨fun start count => ?_, h.pairwise_shifted 1⟩
  rw [mem_shifted, runAt_cons_iff hc, ← exists_and_right]
  refine exists_congr fun k => ?_
  rw [h.mem, and_assoc]

theorem newlines_append (h : LongRuns t runs) (ht : t.head? ≠ some '\n') (length : Nat) :
    LongRuns (newlines (length + 1) ++ t)
      ((if allowed < length + 1 then [(0, length + 1)] else []) ++ shifted (length + 1) runs) := by
  constructor
  · intro start count
    rw [runAt_newlines_iff ht, List.mem_append, mem_shifted, or_and_right, ← exists_and_right]
    refine or_congr ⟨fun hfirst => ?_, fun hfirst => ?_⟩ (exists_congr fun k => ?_)
    · split at hfirst
      · rename_i hlong
        cases List.mem_singleton.1 hfirst
        exact ⟨⟨rfl, rfl⟩, hlong⟩
      · cases hfirst
    · obtain ⟨⟨rfl, rfl⟩, hlong⟩ := hfirst
      rw [if_pos hlong]
      exact List.mem_singleton_self _
    · rw [h.mem, and_assoc]
  · -- The next run is behind another character.
    refine List.pairwise_append.2 ⟨?_, h.pairwise_shifted (length + 1), fun a ha b hb => ?_⟩
    · split
      · exact List.pairwise_singleton _ _
      · exact .nil
    · obtain ⟨k, hk, hrun⟩ := mem_shifted.1 (show (b.1, b.2) ∈ _ from hb)
      have hpos := pos_of_runAt ht ((h.mem k b.2).1 hrun).1
      split at ha
      · cases List.mem_singleton.1 ha
        simp only
        omega
      · cases ha

end LongRuns

/-- **The ranges are those of the long runs.** -/
theorem exists_longRuns (offset : Nat) (t : Text) :
    ∃ runs, excessAt offset t = runs.map (overhang offset) ∧ LongRuns t runs := by
  induction t using newlines_induction generalizing offset with
  | nil => exact ⟨[], rfl, .nil⟩
  | char c t hc ih =>
    obtain ⟨runs, hranges, hruns⟩ := ih (offset + 1)
    refine ⟨_, ?_, hruns.cons hc⟩
    rw [excessAt_cons hc, hranges, map_overhang_shifted]
  | run length t ht ih =>
    obtain ⟨runs, hranges, hruns⟩ := ih (offset + (length + 1))
    refine ⟨_, ?_, hruns.newlines_append ht length⟩
    rw [excessAt_newlines offset length ht, hranges, List.map_append, map_overhang_shifted]
    congr 1
    split
    · rfl
    · rfl

/-- The long runs of a text, each with its range. -/
theorem exists_runs_excess (t : Text) :
    ∃ runs, excess t = (runs.map fun run => (run.1 + allowed, run.1 + run.2)) ∧
      LongRuns t runs := by
  obtain ⟨runs, hranges, hruns⟩ := exists_longRuns 0 t
  refine ⟨runs, ?_, hruns⟩
  rw [excess, ← excessAt, hranges]
  refine List.map_congr_left fun run _ => ?_
  simp only [overhang, Nat.zero_add]

/-- A range is not empty. -/
theorem lt_of_mem_excess {t : Text} {range : Nat × Nat} (h : range ∈ excess t) :
    range.1 < range.2 := by
  obtain ⟨runs, hranges, hruns⟩ := exists_runs_excess t
  rw [hranges] at h
  obtain ⟨⟨offset, count⟩, hrun, rfl⟩ := List.mem_map.1 h
  exact Nat.add_lt_add_left ((hruns.mem offset count).1 hrun).2 offset

/-! ## Texts with other runs -/

/-- One text is another with each maximal run of newlines made as long as a relation
allows. -/
inductive Respaced (allows : Nat → Nat → Prop) : Text → Text → Prop
  | nil : Respaced allows [] []
  /-- Any other character stays. -/
  | char {c : Char} {s t : Text} (hc : c ≠ '\n') (rest : Respaced allows s t) :
    Respaced allows (c :: s) (c :: t)
  /-- A run may be made shorter, or longer. -/
  | run {count kept : Nat} {s t : Text} (hcount : 0 < count) (hs : s.head? ≠ some '\n')
    (hkept : allows count kept) (rest : Respaced allows s t) :
    Respaced allows (newlines count ++ s) (newlines kept ++ t)

namespace Respaced

variable {allows : Nat → Nat → Prop} {s t : Text}

theorem refl (hrefl : ∀ n, allows n n) (t : Text) : Respaced allows t t := by
  induction t using newlines_induction with
  | nil => exact .nil
  | char c t hc ih => exact .char hc ih
  | run count t ht ih => exact .run (Nat.succ_pos _) ht (hrefl _) ih

/-- What starts with no newline keeps its first character. -/
theorem head?_eq (h : Respaced allows s t) (hs : s.head? ≠ some '\n') : t.head? = s.head? := by
  cases h with
  | nil => rfl
  | char => rfl
  | run hcount => exact absurd (head?_newlines_append hcount _) hs

theorem cons_iff {c : Char} (hc : c ≠ '\n') :
    Respaced allows (c :: s) (c :: t) ↔ Respaced allows s t := by
  refine ⟨fun h => ?_, .char hc⟩
  generalize hleft : c :: s = left at h
  generalize hright : c :: t = right at h
  cases h with
  | nil => cases hleft
  | char _ rest =>
    cases hleft
    cases hright
    exact rest
  | run hcount =>
    have hhead := congrArg List.head? hleft
    rw [head?_newlines_append hcount] at hhead
    exact absurd (Option.some.inj hhead) hc

theorem newlines_iff {count kept : Nat} (hcount : 0 < count) (hs : s.head? ≠ some '\n')
    (ht : t.head? ≠ some '\n') :
    Respaced allows (newlines count ++ s) (newlines kept ++ t) ↔
      allows count kept ∧ Respaced allows s t := by
  refine ⟨fun h => ?_, fun h => .run hcount hs h.1 h.2⟩
  generalize hleft : newlines count ++ s = left at h
  generalize hright : newlines kept ++ t = right at h
  cases h with
  | nil =>
    have hhead := head?_newlines_append hcount s
    rw [hleft] at hhead
    cases hhead
  | char hc =>
    have hhead := head?_newlines_append hcount s
    rw [hleft] at hhead
    exact absurd (Option.some.inj hhead) hc
  | run _ hs' hkept rest =>
    obtain ⟨rfl, rfl⟩ := newlines_append_inj hs hs' hleft
    obtain ⟨rfl, rfl⟩ := newlines_append_inj ht (rest.head?_eq hs ▸ hs) hright
    exact ⟨hkept, rest⟩

/-- **What comes before a run does not matter**, if it is the same in both texts. -/
theorem append_iff (hrefl : ∀ n, allows n n) {front : Text}
    (hfront : front.getLast? ≠ some '\n') :
    Respaced allows (front ++ s) (front ++ t) ↔ Respaced allows s t := by
  induction front using newlines_induction with
  | nil => rfl
  | char c rest hc ih =>
    rw [List.cons_append, List.cons_append, cons_iff hc]
    refine ih fun hlast => hfront ?_
    rw [List.getLast?_cons, hlast]
    rfl
  | run count rest hrest ih =>
    rcases eq_or_ne rest [] with rfl | hne
    · rw [List.append_nil] at hfront
      exact absurd (by rw [newlines, List.getLast?_replicate, if_neg (Nat.succ_ne_zero _)]) hfront
    · rw [List.getLast?_append_of_ne_nil _ hne] at hfront
      have hhead : ∀ u : Text, (rest ++ u).head? ≠ some '\n' := fun u => by
        rwa [List.head?_append_of_ne_nil _ hne]
      rw [List.append_assoc, List.append_assoc,
        newlines_iff (Nat.succ_pos _) (hhead s) (hhead t), ih hfront]
      exact and_iff_right (hrefl _)

/-- A run that stays a run keeps the shape. -/
theorem shape_eq (hstays : ∀ count kept, 0 < count → allows count kept → 0 < kept)
    (h : Respaced allows s t) : shape t = shape s := by
  have hne : ∀ {n : Nat}, 0 < n → newlines n ≠ [] := fun hn hnil => by
    rw [newlines, List.replicate_eq_nil_iff] at hnil
    omega
  induction h with
  | nil => rfl
  | char hc _ ih => rw [shape_cons, shape_cons, ih]
  | run hcount _ hkept _ ih =>
    rw [shape_append, shape_append, ih,
      foldr_joinLine_newlines (hne (hstays _ _ hcount hkept)) fun _ => eq_newline_of_mem_newlines,
      foldr_joinLine_newlines (hne hcount) fun _ => eq_newline_of_mem_newlines]

end Respaced

/-- **Squeezing shortens every run to what is allowed.** -/
theorem respaced_squeeze (t : Text) :
    Respaced (fun count kept => kept = min count allowed) t (squeeze t) := by
  induction t using newlines_induction with
  | nil => exact .nil
  | char c t hc ih =>
    rw [squeeze_cons hc]
    exact .char hc ih
  | run count t ht ih =>
    rw [squeeze_newlines count ht]
    exact .run (Nat.succ_pos _) ht (Nat.min_comm _ _) ih

/-- Two runs that are too long, one of them at the end, and one that is not. -/
example : squeeze "a\n\n\n\n\nb\n\n\nc\n\n\n\n".toList = "a\n\n\nb\n\n\nc\n\n\n".toList := by
  decide

/-! ## The text that was checked -/

/-- **An offense marks a run**: what the run has behind the newlines that are
allowed, up to its end. The note holds the two offsets, and the location their
positions. -/
structure Marks (source : Text) (run : Nat × Nat) (o : Offense) : Prop where
  note : o.note = some [("start_offset", .int (run.1 + allowed : Nat)),
    ("end_offset", .int (run.1 + run.2 : Nat))]
  start : o.location.start = source.positionAt (run.1 + allowed)
  stop : o.location.stop = source.positionAt (run.1 + run.2)

theorem marks_blankLinesOffense (source : Text) {offset count : Nat} (h : allowed ≤ count) :
    Marks source (offset, count)
      (blankLinesOffense source (offset + allowed) (offset + count)) :=
  ⟨rfl, rfl, stop_span (Nat.add_le_add_left h offset)⟩

/-- The text that the fixer gives back for an offense, if it gives back one. -/
def fixedText? (context : Context) (t : Text) (o : Offense) : Option Text :=
  (fixBlankLines o (.text t) context).toOption.bind Linter.takeText

/-- What the fixer gives back depends on the range alone. -/
theorem fixedText?_eq (source t : Text) (start stop : Nat) (context : Context) :
    fixedText? context t (blankLinesOffense source start stop) =
      removeNewlines? t (some (start : Int)) (some (stop : Int)) := by
  have hfixer : fixBlankLines (blankLinesOffense source start stop) (.text t) context =
      .ok ((removeNewlines? t (some (start : Int)) (some (stop : Int))).elim .nothing .text) :=
    rfl
  rw [fixedText?, hfixer]
  rcases removeNewlines? t (some (start : Int)) (some (stop : Int)) with _ | fixed <;> rfl

/-- The offenses are handed over from the end. -/
theorem bottomUp_blankLinesOffenses (source : Text) :
    Linter.bottomUp (blankLinesOffenses source) = (blankLinesOffenses source).reverse := by
  refine Linter.bottomUp_eq_reverse (List.pairwise_map.2 ?_)
  refine (pairwise_line_excess source).imp fun hlt => ?_
  rw [line_blankLinesOffense, line_blankLinesOffense]
  exact Nat.succ_lt_succ hlt

/-- **The fixer squeezes the text that was checked**, offense by offense. -/
theorem foldlM_fixedText? (source : Text) (context : Context) :
    (Linter.bottomUp (blankLinesOffenses source)).foldlM (fixedText? context) source =
      some (squeeze source) := by
  have hcuts := squeezes_of_cuts (fun (fixed : Option Text) t => fixed = some t)
    (fun range fixed => fixed.bind fun t =>
      fixedText? context t (blankLinesOffense source range.1 range.2))
    (fun a count b fixed hfixed => by
      rw [hfixed, Option.bind_some, fixedText?_eq]
      exact removeNewlines?_newlines a b count)
    [] source [] (some source) (by rw [List.nil_append, List.append_nil])
  rw [List.nil_append, List.append_nil] at hcuts
  rw [bottomUp_blankLinesOffenses, List.foldlM_reverse, blankLinesOffenses,
    List.foldrM_eq_foldr, List.foldr_map]
  exact hcuts

/-- **The rule and its fixer bring about the normal form.** There is exactly one
offense for each maximal run of more newlines than are allowed, in order. It marks
what the run has too much, and the marked ranges do not meet. The fixer, handed
the offenses from the last one on, takes each of them, and comes to the text in
which every run is as long as it was, or as long as is allowed if that is less.
There the rule reports nothing. -/
theorem blankLines_normalizes (source : Text) (context : Context) :
    ∃ (runs : List (Nat × Nat)) (offenses : List Offense) (fixed : Text),
      (∀ offset count, (offset, count) ∈ runs ↔
        RunAt source offset count ∧ allowed < count) ∧
      runs.Pairwise (fun a b => a.1 + a.2 < b.1) ∧
      blankLines.check (.text source) context = .ok offenses ∧
      List.Forall₂ (Marks source) runs offenses ∧
      (Linter.bottomUp offenses).foldlM (fixedText? context) source = some fixed ∧
      Respaced (fun count kept => kept = min count allowed) source fixed ∧
      blankLines.check (.text fixed) context = .ok [] := by
  obtain ⟨runs, hranges, hmem, hapart⟩ := exists_runs_excess source
  refine ⟨runs, blankLinesOffenses source, squeeze source, hmem, hapart, rfl, ?_,
    foldlM_fixedText? source context, respaced_squeeze source, ?_⟩
  · rw [blankLinesOffenses, hranges, List.map_map, List.forall₂_map_right_iff,
      List.forall₂_same]
    rintro ⟨offset, count⟩ hrun
    exact marks_blankLinesOffense source (Nat.le_of_lt ((hmem offset count).1 hrun).2)
  · have hnone : blankLinesOffenses (squeeze source) = [] :=
      congrArg (List.map _) (excessAt_squeeze 0 source)
    exact congrArg Except.ok hnone

/-! ## Another text -/

/-- The number of newlines that a text starts with. -/
def leading (t : Text) : Nat :=
  (t.takeWhile (· = '\n')).length

/-- The number of newlines that a text ends with. -/
def trailing (t : Text) : Nat :=
  (t.reverse.takeWhile (· = '\n')).length

/-- A run is spared if it stays as it is, or keeps what is allowed. -/
def Spares (count kept : Nat) : Prop :=
  kept = count ∨ allowed ≤ kept ∧ kept ≤ count

theorem takeWhile_newline (t : Text) :
    t.takeWhile (· = '\n') = newlines (t.takeWhile (· = '\n')).length :=
  List.eq_replicate_iff.2 ⟨rfl, fun c hc => by simpa using List.mem_takeWhile_imp hc⟩

theorem exists_leading (t : Text) :
    ∃ rest : Text, t = newlines (leading t) ++ rest ∧ rest.head? ≠ some '\n' := by
  refine ⟨t.dropWhile (· = '\n'), ?_, fun hhead => ?_⟩
  · rw [leading, ← takeWhile_newline, List.takeWhile_append_dropWhile]
  · exact of_decide_eq_false (head?_dropWhile '\n' hhead) rfl

theorem exists_trailing (t : Text) :
    ∃ front : Text, t = front ++ newlines (trailing t) ∧ front.getLast? ≠ some '\n' := by
  obtain ⟨rest, hreverse, hhead⟩ := exists_leading t.reverse
  refine ⟨rest.reverse, ?_, by rwa [List.getLast?_reverse]⟩
  have ht := congrArg List.reverse hreverse
  rwa [List.reverse_reverse, List.reverse_append, newlines, List.reverse_replicate] at ht

/-- **When a cut spares the runs.** Newlines that are cut out are part of a run: what
stands around the cut has to be as much as is allowed, unless nothing is cut. -/
theorem respaced_spares_iff (a b : Text) (count : Nat) :
    Respaced Spares (a ++ newlines count ++ b) (a ++ b) ↔
      count = 0 ∨ allowed ≤ trailing a + leading b := by
  obtain ⟨front, ha, hfront⟩ := exists_trailing a
  obtain ⟨rest, hb, hrest⟩ := exists_leading b
  generalize trailing a = i at ha ⊢
  generalize leading b = j at hb ⊢
  have hrefl : ∀ n, Spares n n := fun n => .inl rfl
  have hbefore : a ++ newlines count ++ b = front ++ (newlines (i + count + j) ++ rest) := by
    rw [ha, hb, newlines_add, newlines_add]
    simp only [List.append_assoc]
  have hafter : a ++ b = front ++ (newlines (i + j) ++ rest) := by
    rw [ha, hb, newlines_add]
    simp only [List.append_assoc]
  rw [hbefore, hafter, Respaced.append_iff hrefl hfront]
  rcases Nat.eq_zero_or_pos (i + count + j) with hnone | hsome
  · obtain ⟨rfl, rfl, rfl⟩ : i = 0 ∧ count = 0 ∧ j = 0 := by omega
    exact iff_of_true (.refl hrefl _) (.inl rfl)
  · rw [Respaced.newlines_iff hsome hrest hrest, Spares,
      and_iff_left (Respaced.refl hrefl rest)]
    omega

/-- Where the runs are spared, no two lines are joined, and none is lost. -/
theorem Respaced.filledLines_eq {s t : Text} (h : Respaced Spares s t) :
    filledLines t = filledLines s := by
  have hshape : shape t = shape s := h.shape_eq fun count kept hcount hkept => by
    rw [Spares, allowed] at hkept
    omega
  rw [← filledLines_shape, hshape, filledLines_shape]

/-- A text is what stands around two offsets, with what stands between them. -/
theorem eq_around (t : Text) {start stop : Nat} (h : start ≤ stop) :
    t = t.take start ++ (t.drop start).take (stop - start) ++ t.drop stop := by
  have hdrop : t.drop stop = (t.drop start).drop (stop - start) := by
    rw [List.drop_drop, Nat.add_sub_cancel' h]
  rw [hdrop, List.append_assoc, List.take_append_drop, List.take_append_drop]

/-- The fixer of a range gives up where something else stands in it, and cuts it out
where nothing else does. -/
theorem fixBlankLines_eq (source t : Text) (start stop : Nat) (context : Context) :
    fixBlankLines (blankLinesOffense source start stop) (.text t) context =
      .ok (if ((t.drop start).take (stop - start)).all (· = '\n')
        then .text (t.take start ++ t.drop stop) else .nothing) := by
  have hfixer : fixBlankLines (blankLinesOffense source start stop) (.text t) context =
      .ok (Option.elim (if ((t.drop start).take (stop - start)).all (· = '\n')
        then some (t.take start ++ t.drop stop) else none) .nothing .text) := rfl
  rw [hfixer]
  split
  · rfl
  · rfl

/-- **What the fixer makes of another text** than the one that was checked. Each
offense notes two offsets. If anything but newlines stands between them in the
other text, the fixer gives up. If not, it cuts them out, and loses nothing but
newlines. But only if as many newlines as are allowed stand around the cut, or if
the text ends before it, does it take them from a run that is too long, and leave
that as long as is allowed. Then the lines with something on them are as they
were. -/
theorem fixBlankLines_stale {source : Text} {context : Context} {offenses : List Offense}
    (hcheck : blankLines.check (.text source) context = .ok offenses) {o : Offense}
    (ho : o ∈ offenses) (other : Text) (context' : Context) :
    ∃ start stop : Nat, start < stop ∧
      o.note = some [("start_offset", .int start), ("end_offset", .int stop)] ∧
      ((∃ c ∈ (other.drop start).take (stop - start), c ≠ '\n') →
        fixBlankLines o (.text other) context' = .ok .nothing) ∧
      ((∀ c ∈ (other.drop start).take (stop - start), c = '\n') →
        let fixed := other.take start ++ other.drop stop
        fixBlankLines o (.text other) context' = .ok (.text fixed) ∧
        fixed.filter (· ≠ '\n') = other.filter (· ≠ '\n') ∧
        (Respaced Spares other fixed ↔ other.length ≤ start ∨
          allowed ≤ trailing (other.take start) + leading (other.drop stop)) ∧
        (Respaced Spares other fixed → filledLines fixed = filledLines other)) := by
  cases hcheck
  obtain ⟨⟨start, stop⟩, hrange, rfl⟩ := List.mem_map.1 ho
  have hlt : start < stop := lt_of_mem_excess hrange
  refine ⟨start, stop, hlt, rfl, fun ⟨c, hc, hne⟩ => ?_, fun hall => ?_⟩
  · have hother : ¬ ((other.drop start).take (stop - start)).all (· = '\n') := fun hall =>
      hne (of_decide_eq_true (List.all_eq_true.1 hall c hc))
    rw [fixBlankLines_eq, if_neg hother]
  intro fixed
  -- The other text is what stands around the cut, with newlines between.
  obtain ⟨count, hcut⟩ : ∃ count, (other.drop start).take (stop - start) = newlines count :=
    ⟨_, List.eq_replicate_iff.2 ⟨rfl, hall⟩⟩
  have hother := eq_around other (Nat.le_of_lt hlt)
  have hnone : count = 0 ↔ other.length ≤ start := by
    have hlength := congrArg List.length hcut
    rw [List.length_take, List.length_drop, length_newlines] at hlength
    omega
  rw [hcut] at hother
  have hnewlines : ((other.drop start).take (stop - start)).all (· = '\n') :=
    List.all_eq_true.2 fun c hc => decide_eq_true (hall c hc)
  refine ⟨by rw [fixBlankLines_eq, if_pos hnewlines], ?_, ?_, Respaced.filledLines_eq⟩
  · have hgone : (newlines count).filter (· ≠ '\n') = [] :=
      List.filter_eq_nil_iff.2 fun c hc => by simp [eq_newline_of_mem_newlines hc]
    conv_rhs => rw [hother]
    rw [List.filter_append, List.filter_append, List.filter_append, hgone, List.append_nil]
  · conv_lhs => rw [hother]
    rw [respaced_spares_iff, hnone]

/-- In a longer run, stale offsets do no harm: what is cut out of six newlines leaves
five. -/
theorem fixBlankLines_stale_longerRun :
    ∃ offenses, blankLines.check (.text "a\n\n\n\nb".toList) {} = .ok offenses ∧
      ∃ o ∈ offenses, fixBlankLines o (.text "cc\n\n\n\n\n\nd".toList) {} =
          .ok (.text "cc\n\n\n\n\nd".toList) ∧
        Respaced Spares "cc\n\n\n\n\n\nd".toList "cc\n\n\n\n\nd".toList := by
  have hcheck : blankLines.check (.text "a\n\n\n\nb".toList) {} =
      .ok [blankLinesOffense "a\n\n\n\nb".toList 4 5] := by rfl
  obtain ⟨start, stop, -, hnote, -, hcut⟩ := fixBlankLines_stale hcheck (List.mem_singleton_self _)
    "cc\n\n\n\n\n\nd".toList {}
  have hoffsets : (start : Int) = 4 ∧ (stop : Int) = 5 := by
    simpa [blankLinesOffense, eq_comm] using hnote
  obtain ⟨rfl, rfl⟩ : start = 4 ∧ stop = 5 := by omega
  have hrange : ("cc\n\n\n\n\n\nd".toList.drop 4).take (5 - 4) = ['\n'] := by decide
  rw [hrange] at hcut
  obtain ⟨hfixed, -, hspares, -⟩ := hcut (List.forall_mem_singleton.2 rfl)
  exact ⟨_, hcheck, _, List.mem_singleton_self _, hfixed, hspares.2 (.inr (by decide))⟩

/-- **A single newline may go.** The offsets of a run in one text are those of the only
newline in another, and the fixer joins the two lines there. -/
theorem fixBlankLines_joinsLines :
    ∃ offenses, blankLines.check (.text "a\n\n\n\nb".toList) {} = .ok offenses ∧
      ∃ o ∈ offenses, fixBlankLines o (.text "abcd\nef".toList) {} =
          .ok (.text "abcdef".toList) ∧
        ¬ Respaced Spares "abcd\nef".toList "abcdef".toList ∧
        filledLines "abcd\nef".toList = ["abcd".toList, "ef".toList] ∧
        filledLines "abcdef".toList = ["abcdef".toList] := by
  have hlines : filledLines "abcd\nef".toList = ["abcd".toList, "ef".toList] := by decide
  have hjoined : filledLines "abcdef".toList = ["abcdef".toList] := by decide
  refine ⟨_, rfl, blankLinesOffense "a\n\n\n\nb".toList 4 5, List.mem_singleton_self _, rfl,
    fun hspared => ?_, hlines, hjoined⟩
  have hsame := hspared.filledLines_eq
  rw [hlines, hjoined] at hsame
  exact absurd hsame (by decide)

end Newlines

end TemplateLint
