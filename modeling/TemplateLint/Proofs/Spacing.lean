import Mathlib.Data.List.TakeWhile
import TemplateLint.Directive.Basic
import TemplateLint.Proofs.Grammar
import TemplateLint.Proofs.Text
/-!
# Spacing — texts up to the number of their newlines

Two texts have one shape if they differ only in how many newlines stand
together, and in the newlines at the end (`Text.shape`). Inside a text,
where the end does not count, a run of newlines is collapsed to one
(`Text.collapse`). Reading a directive does not see the difference
(`Directive.map_ruleNames_collapse`), nor do the lines with something on
them (`Text.filledLines_shape`).
-/

namespace TemplateLint

namespace Text

/-- The number of characters that are no newlines. -/
def ink (t : Text) : Nat :=
  t.countP (· ≠ '\n')

/-- A character before a text. A newline does not count before another one,
or before nothing. -/
def joinLine (c : Char) (t : Text) : Text :=
  if c = '\n' ∧ (t = [] ∨ t.head? = some '\n') then t else c :: t

/-- The text with every run of newlines made one, and those at the end
dropped. -/
def shape (t : Text) : Text :=
  t.foldr joinLine []

/-- The text with every run of newlines made one. -/
def collapse : Text → Text
  | [] => []
  | c :: t => if c = '\n' ∧ t.head? = some '\n' then collapse t else c :: collapse t

/-- What changes newlines only, and puts nothing else in their place. -/
structure KeepsInk (f : Text → Text) : Prop where
  nil : f [] = []
  cons : ∀ {c : Char} (t : Text), c ≠ '\n' → f (c :: t) = c :: f t
  newline : ∀ (t : Text), ∀ c ∈ (f ('\n' :: t)).head?, c = '\n'

/-! ## Ink -/

@[simp] theorem ink_nil : ink [] = 0 := rfl

@[simp] theorem ink_append (s t : Text) : ink (s ++ t) = ink s + ink t :=
  List.countP_append

@[simp] theorem ink_newline (t : Text) : ink ('\n' :: t) = ink t := by
  simp [ink]

theorem ink_cons {c : Char} (h : c ≠ '\n') (t : Text) : ink (c :: t) = ink t + 1 := by
  simp [ink, h]

/-- Ink says where a text is cut before a character that is no newline. -/
theorem append_inj_of_ink {a a' b b' : Text} (hb : b.head? ≠ some '\n')
    (hb' : b'.head? ≠ some '\n') (hne : b ≠ []) (hne' : b' ≠ []) (hink : ink a = ink a')
    (h : a ++ b = a' ++ b') : a = a' ∧ b = b' := by
  have inkless : ∀ {u x y : Text}, x ≠ [] → x.head? ≠ some '\n' → x = u ++ y → ink u = 0 →
      u = [] := by
    rintro (_ | ⟨c, u⟩) x y hx hhead rfl hu
    · rfl
    · have hc : c ≠ '\n' := by simpa using hhead
      rw [ink_cons hc] at hu
      cases hu
  -- One of the two parts is the longer one; what it has more is without ink.
  rcases List.append_eq_append_iff.1 h with ⟨u, rfl, hu⟩ | ⟨u, rfl, hu⟩
  · have hnil := inkless hne hb hu (by rw [ink_append] at hink; omega)
    simp_all
  · have hnil := inkless hne' hb' hu (by rw [ink_append] at hink; omega)
    simp_all

/-! ## Shape -/

@[simp] theorem shape_nil : shape [] = [] := rfl

theorem shape_cons (c : Char) (t : Text) : shape (c :: t) = joinLine c (shape t) := rfl

theorem shape_append (s t : Text) : shape (s ++ t) = s.foldr joinLine (shape t) :=
  List.foldr_append

theorem joinLine_of_ne {c : Char} (h : c ≠ '\n') (t : Text) : joinLine c t = c :: t := by
  simp [joinLine, h]

theorem head?_joinLine_newline (t : Text) : ∀ c ∈ (joinLine '\n' t).head?, c = '\n' := by
  intro c hc
  unfold joinLine at hc
  split at hc
  · rename_i h
    rcases h.2 with rfl | hhead
    · cases hc
    · rw [hhead] at hc
      exact (Option.some.inj hc).symm
  · exact (Option.some.inj hc).symm

@[simp] theorem joinLine_joinLine (t : Text) :
    joinLine '\n' (joinLine '\n' t) = joinLine '\n' t := by
  by_cases h : t = [] ∨ t.head? = some '\n' <;> simp [joinLine, h]

theorem keepsInk_shape : KeepsInk shape where
  nil := rfl
  cons t h := joinLine_of_ne h (shape t)
  newline t := head?_joinLine_newline (shape t)

/-- Newlines in front of a shape count once. -/
theorem foldr_joinLine_newlines {run : Text} (hne : run ≠ []) (hrun : ∀ c ∈ run, c = '\n')
    (t : Text) : run.foldr joinLine t = joinLine '\n' t := by
  induction run with
  | nil => exact absurd rfl hne
  | cons c run ih =>
    cases hrun c (.head _)
    rcases eq_or_ne run [] with rfl | hne'
    · rfl
    · rw [List.foldr_cons, ih hne' fun c hc => hrun c (.tail _ hc), joinLine_joinLine]

theorem shape_newlines {run : Text} (hrun : ∀ c ∈ run, c = '\n') : shape run = [] := by
  rcases eq_or_ne run [] with rfl | hne
  · rfl
  · rw [shape, foldr_joinLine_newlines hne hrun]
    rfl

theorem mem_of_mem_shape {t : Text} {c : Char} (h : c ∈ shape t) : c ∈ t := by
  induction t with
  | nil => exact h
  | cons d t ih =>
    rw [shape_cons, joinLine] at h
    split at h
    · exact .tail _ (ih h)
    · rcases List.mem_cons.1 h with rfl | h
      · exact .head _
      · exact .tail _ (ih h)

theorem joinLine_eq_or (c : Char) (t : Text) : joinLine c t = t ∨ joinLine c t = c :: t := by
  unfold joinLine
  split
  · exact .inl rfl
  · exact .inr rfl

@[simp] theorem ink_joinLine (c : Char) (t : Text) : ink (joinLine c t) = ink (c :: t) := by
  unfold joinLine
  split
  · rename_i h
    rw [h.1, ink_newline]
  · rfl

@[simp] theorem ink_shape (t : Text) : ink (shape t) = ink t := by
  induction t with
  | nil => rfl
  | cons c t ih => rw [shape_cons, ink_joinLine, ink, ink, List.countP_cons, List.countP_cons,
      ← ink, ← ink, ih]

/-! ## Collapsing -/

theorem exists_collapse_cons (c : Char) (t : Text) : ∃ rest, collapse (c :: t) = c :: rest := by
  induction t generalizing c with
  | nil => exact ⟨[], by simp [collapse]⟩
  | cons d t ih =>
    rw [collapse]
    split
    · rename_i h
      cases h.1
      cases Option.some.inj h.2
      exact ih '\n'
    · exact ⟨_, rfl⟩

theorem head?_collapse (t : Text) : (collapse t).head? = t.head? := by
  cases t with
  | nil => rfl
  | cons c t =>
    obtain ⟨rest, hrest⟩ := exists_collapse_cons c t
    rw [hrest]
    rfl

theorem keepsInk_collapse : KeepsInk collapse where
  nil := rfl
  cons t h := by simp [collapse, h]
  newline t := by
    intro c hc
    rw [head?_collapse] at hc
    exact (Option.some.inj hc).symm

theorem collapse_eq_nil_iff {t : Text} : collapse t = [] ↔ t = [] := by
  rw [← List.head?_eq_none_iff, head?_collapse, List.head?_eq_none_iff]

theorem mem_of_mem_collapse {t : Text} {c : Char} (h : c ∈ collapse t) : c ∈ t := by
  induction t with
  | nil => exact h
  | cons d t ih =>
    rw [collapse] at h
    split at h
    · exact .tail _ (ih h)
    · rcases List.mem_cons.1 h with rfl | h
      · exact .head _
      · exact .tail _ (ih h)

theorem count_collapse {c : Char} (h : c ≠ '\n') (t : Text) :
    (collapse t).count c = t.count c := by
  induction t with
  | nil => rfl
  | cons d t ih =>
    rw [collapse]
    split
    · rename_i hd
      rw [ih, hd.1, List.count_cons_of_ne (Ne.symm h)]
    · rw [List.count_cons, List.count_cons, ih]

@[simp] theorem ink_collapse (t : Text) : ink (collapse t) = ink t := by
  induction t with
  | nil => rfl
  | cons d t ih =>
    rw [collapse]
    split
    · rename_i hd
      rw [ih, hd.1, ink_newline]
    · rw [ink, ink, List.countP_cons, List.countP_cons, ← ink, ← ink, ih]

theorem collapse_eq_self {t : Text} (h : '\n' ∉ t) : collapse t = t := by
  induction t with
  | nil => rfl
  | cons c t ih =>
    have hc : c ≠ '\n' := fun hc => h (hc ▸ .head _)
    rw [keepsInk_collapse.cons t hc, ih fun ht => h (.tail _ ht)]

/-- Texts are collapsed apart unless a run of newlines goes over from one to
the other. -/
theorem collapse_append {a b : Text} (h : a.getLast? ≠ some '\n' ∨ b.head? ≠ some '\n') :
    collapse (a ++ b) = collapse a ++ collapse b := by
  induction a with
  | nil => rfl
  | cons c a ih =>
    rcases eq_or_ne a [] with rfl | hne
    · have hkeep : ¬ (c = '\n' ∧ b.head? = some '\n') := by
        rintro ⟨rfl, hb⟩
        simp [hb] at h
      simp [collapse, hkeep]
    · have hrest := ih (by rwa [List.getLast?_cons_of_ne_nil hne] at h)
      rw [List.cons_append, collapse, collapse, List.head?_append_of_ne_nil _ hne, hrest]
      split <;> rfl

theorem getLast?_collapse (t : Text) : (collapse t).getLast? = t.getLast? := by
  induction t with
  | nil => rfl
  | cons c t ih =>
    rcases eq_or_ne t [] with rfl | hne
    · simp [collapse]
    · rw [List.getLast?_cons_of_ne_nil hne, collapse]
      split
      · exact ih
      · rw [List.getLast?_cons_of_ne_nil (mt collapse_eq_nil_iff.1 hne), ih]

/-- In front of ink, a shape is collapsed. -/
theorem shape_append_cons {c : Char} (h : c ≠ '\n') (a b : Text) :
    shape (a ++ c :: b) = collapse a ++ c :: shape b := by
  induction a with
  | nil => exact joinLine_of_ne h (shape b)
  | cons d a ih =>
    rw [List.cons_append, shape_cons, ih, collapse, joinLine]
    have hhead : (collapse a ++ c :: shape b).head? = some '\n' ↔ a.head? = some '\n' := by
      rw [List.head?_append, head?_collapse]
      cases a <;> simp [h]
    have hne : collapse a ++ c :: shape b ≠ [] := by simp
    simp only [hne, hhead, false_or]
    split <;> rfl

/-- Where a text goes on with ink, a newline before it joins the newlines it
starts with. -/
theorem joinLine_collapse_append {w : Char} (hw : w ≠ '\n') (c : Char) (a b : Text) :
    joinLine c (collapse a ++ w :: shape b) = collapse (c :: a) ++ w :: shape b := by
  rw [← shape_append_cons hw, ← shape_append_cons hw]
  rfl

/-! ## What is found in a text -/

theorem after?_of_keepsInk {f : Text → Text} (hf : KeepsInk f) {word : Text} (hword : '\n' ∉ word)
    (t : Text) : after? word (f t) = (after? word t).map f := by
  induction word generalizing t with
  | nil => rfl
  | cons w word ih =>
    have hw : w ≠ '\n' := fun hw => hword (hw ▸ .head _)
    cases t with
    | nil => rw [hf.nil]; rfl
    | cons c t =>
      rcases eq_or_ne c '\n' with rfl | hc
      · rw [after?, if_neg hw]
        rcases hnewline : f ('\n' :: t) with _ | ⟨d, rest⟩
        · rfl
        · cases hf.newline t d (by rw [hnewline]; rfl)
          rw [after?, if_neg hw]
          rfl
      · rw [hf.cons t hc, after?, after?, ih fun hmem => hword (.tail _ hmem)]
        split <;> rfl

theorem blank_collapse {t : Text} (h : Blank t) : Blank (collapse t) :=
  fun c hc => h c (mem_of_mem_collapse hc)

theorem trim_collapse (t : Text) : trim (collapse t) = collapse (trim t) := by
  obtain ⟨htrimmed, lead, tail, hlead, htail, ht⟩ := trim_eq_iff.1 (rfl : trim t = trim t)
  rcases eq_or_ne (trim t) [] with hnil | hne
  · rw [hnil] at ht ⊢
    have hblank : Blank (collapse t) := blank_collapse (ht ▸ hlead.append htail)
    refine trim_eq_iff.2 ⟨⟨by simp [collapse], by simp [collapse]⟩, collapse t, [], hblank, ?_, ?_⟩
    · exact fun c hc => by cases hc
    · simp [collapse]
  -- No run of newlines goes over an end of what is trimmed, since that is no blank.
  · have hhead : (trim t ++ tail).head? ≠ some '\n' := by
      rw [List.head?_append_of_ne_nil _ hne]
      exact fun h => absurd (htrimmed.head _ h) (by decide)
    have hlast : (trim t).getLast? ≠ some '\n' :=
      fun h => absurd (htrimmed.last _ h) (by decide)
    refine trim_eq_iff.2 ⟨⟨?_, ?_⟩, collapse lead, collapse tail, blank_collapse hlead,
      blank_collapse htail, ?_⟩
    · rw [head?_collapse]
      exact htrimmed.head
    · rw [getLast?_collapse]
      exact htrimmed.last
    · conv_lhs => rw [ht]
      rw [collapse_append (.inr hhead), collapse_append (.inl hlast)]

/-! ## Lines -/

/-- The lines of a text that something stands on. -/
def filledLines (t : Text) : List Text :=
  (splitAt '\n' t).filter (· ≠ [])

/-- A shape has the first line of the text, and the filled lines that come
after it. -/
theorem exists_splitAt_shape (t : Text) :
    ∃ line lines lines', splitAt '\n' (shape t) = line :: lines ∧
      splitAt '\n' t = line :: lines' ∧ lines.filter (· ≠ []) = lines'.filter (· ≠ []) := by
  induction t with
  | nil => exact ⟨[], [], [], rfl, rfl, rfl⟩
  | cons c t ih =>
    obtain ⟨line, lines, lines', hshape, ht, hfilled⟩ := ih
    rcases eq_or_ne c '\n' with rfl | hc
    · have hsplit : splitAt '\n' ('\n' :: t) = [] :: line :: lines' := by
        rw [splitAt, if_pos rfl, ht]
      rw [shape_cons, joinLine]
      split
      · -- The shape starts with a line end itself, or is empty: its first line is blank.
        rename_i h
        have hline : line = [] := by
          rcases h.2 with hnil | hhead
          · rw [hnil] at hshape
            exact (List.cons.inj hshape).1.symm
          · obtain ⟨rest, hrest⟩ := List.head?_eq_some_iff.1 hhead
            rw [hrest, splitAt, if_pos rfl] at hshape
            exact (List.cons.inj hshape).1.symm
        subst hline
        exact ⟨[], lines, [] :: lines', hshape, hsplit, by simpa using hfilled⟩
      · refine ⟨[], line :: lines, line :: lines', by rw [splitAt, if_pos rfl, hshape], hsplit, ?_⟩
        rw [List.filter_cons, List.filter_cons, hfilled]
    · rw [keepsInk_shape.cons t hc]
      exact ⟨c :: line, lines, lines', by rw [splitAt, if_neg hc, hshape],
        by rw [splitAt, if_neg hc, ht], hfilled⟩

/-- **A shape has the filled lines of the text.** -/
theorem filledLines_shape (t : Text) : filledLines (shape t) = filledLines t := by
  obtain ⟨line, lines, lines', hshape, ht, hfilled⟩ := exists_splitAt_shape t
  rw [filledLines, filledLines, hshape, ht, List.filter_cons, List.filter_cons, hfilled]

end Text

/-! ## Directives -/

namespace Directive

theorem body?_collapse (content : Text) :
    body? content.collapse = (body? content).map Text.collapse := by
  rw [body?, body?, Text.trim_collapse,
    Text.after?_of_keepsInk Text.keepsInk_collapse (by decide)]
  rcases Text.after? keyword content.trim with _ | _ | ⟨c, rest⟩
  · rfl
  · rfl
  · obtain ⟨rest', hrest'⟩ := Text.exists_collapse_cons c rest
    simp only [Option.map_some, hrest']
    split
    · rw [Option.map_some, hrest']
    · rfl

/-- The pieces with the runs of newlines inside each made one. -/
def collapsed (pieces : List (Bool × Text)) : List (Bool × Text) :=
  pieces.map fun piece => (piece.1, piece.2.collapse)

theorem newline_notMem_of_isNameChar {t : Text} (h : ∀ c ∈ t, isNameChar c = true) : '\n' ∉ t :=
  fun hmem => absurd (h _ hmem) (by decide)

variable {pieces : List (Bool × Text)}

theorem areRuns_collapsed (h : Text.AreRuns isNameChar pieces) :
    Text.AreRuns isNameChar (collapsed pieces) where
  pure := by
    intro piece hpiece
    obtain ⟨piece, hmem, rfl⟩ := List.mem_map.1 hpiece
    obtain ⟨hne, hclass⟩ := h.pure piece hmem
    exact ⟨mt Text.collapse_eq_nil_iff.1 hne, fun c hc => hclass c (Text.mem_of_mem_collapse hc)⟩
  alternate := by
    rw [collapsed, List.isChain_map]
    exact h.alternate

/-- No run of newlines goes over from one piece to the next: one of the two
is a name. -/
theorem collapse_flatMap (h : Text.AreRuns isNameChar pieces) :
    Text.collapse (pieces.flatMap (·.2)) = (collapsed pieces).flatMap (·.2) := by
  induction pieces with
  | nil => rfl
  | cons piece pieces ih =>
    have hchain := List.isChain_cons.1 h.alternate
    have hrest := ih ⟨fun piece hpiece => h.pure _ (.tail _ hpiece), hchain.2⟩
    rw [collapsed, List.map_cons, List.flatMap_cons, List.flatMap_cons, ← collapsed, ← hrest]
    refine Text.collapse_append ?_
    obtain ⟨isName, run⟩ := piece
    cases isName with
    | true =>
      have hnames := newline_notMem_of_isNameChar (h.pure _ (.head _)).2
      exact .inl fun hlast => hnames (List.mem_of_getLast? hlast)
    | false =>
      refine .inr ?_
      rcases pieces with _ | ⟨⟨isName, run'⟩, pieces⟩
      · exact nofun
      · obtain ⟨hne, hclass⟩ := h.pure (isName, run') (.tail _ (.head _))
        have hname : isName = true := by simpa using hchain.1 _ rfl
        rw [List.flatMap_cons, List.head?_append_of_ne_nil _ hne]
        exact fun hhead => newline_notMem_of_isNameChar (hname ▸ hclass) (List.mem_of_head? hhead)

theorem runs_collapse (t : Text) :
    Text.runs isNameChar t.collapse = collapsed (Text.runs isNameChar t) := by
  have h := Text.areRuns_runs (p := isNameChar) t
  rw [← Text.runs_flatMap (areRuns_collapsed h), ← collapse_flatMap h, Text.flatMap_runs]

theorem isList_collapsed : isList (collapsed pieces) = isList pieces := by
  fun_induction isList pieces with
  | case1 => rfl
  | case2 => rfl
  | case3 isName run isSeparator separator rest ih =>
    have hcount := Text.count_collapse (c := ',') (by decide) separator
    simp only [collapsed, List.map_cons] at ih ⊢
    rw [isList, ih, separates, separates, hcount]

/-- A name holds no newline, so that all of it stays. -/
theorem map_name_namesFrom_collapsed (h : Text.AreRuns isNameChar pieces) (offset offset' : Nat) :
    (namesFrom offset (collapsed pieces)).map (·.name) =
      (namesFrom offset' pieces).map (·.name) := by
  induction pieces generalizing offset offset' with
  | nil => rfl
  | cons piece pieces ih =>
    have hrest := ih ⟨fun piece hpiece => h.pure _ (.tail _ hpiece),
      (List.isChain_cons.1 h.alternate).2⟩
    obtain ⟨isName, run⟩ := piece
    rw [collapsed, List.map_cons, ← collapsed, namesFrom, namesFrom, List.map_append,
      List.map_append, hrest]
    cases isName with
    | true =>
      have hnames := newline_notMem_of_isNameChar (h.pure _ (.head _)).2
      rw [Text.collapse_eq_self hnames]
      rfl
    | false => rfl

/-- **A directive names the same rules**, however many newlines stand
together in it. -/
theorem map_ruleNames_collapse (content : Text) :
    (parse? content.collapse).map ruleNames = (parse? content).map ruleNames := by
  have hbody' := body?_collapse content
  rcases hbody : body? content with _ | body
  · rw [hbody] at hbody'
    rw [parse?, parse?, hbody, hbody']
    rfl
  · rw [hbody, Option.map_some] at hbody'
    have hlist' : isList (Text.runs isNameChar body.collapse.trim) =
        isList (Text.runs isNameChar body.trim) := by
      rw [Text.trim_collapse, runs_collapse, isList_collapsed]
    rcases hlist : isList (Text.runs isNameChar body.trim) with _ | _
    · rw [parse?_eq_none_of_isList hbody hlist,
        parse?_eq_none_of_isList hbody' (hlist'.trans hlist)]
    · obtain ⟨offset, hparse⟩ := exists_parse?_of_isList hbody hlist
      obtain ⟨offset', hparse'⟩ := exists_parse?_of_isList hbody' (hlist'.trans hlist)
      rw [hparse, hparse', Text.trim_collapse, runs_collapse]
      exact congrArg some (map_name_namesFrom_collapsed (Text.areRuns_runs _) _ _)

end Directive

end TemplateLint
