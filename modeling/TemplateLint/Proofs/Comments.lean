import TemplateLint.Proofs.Lexemes
import TemplateLint.Proofs.Spacing
import TemplateLint.Proofs.Suppression
/-!
# Comments — where they stand in a source

The comments that suppress rules are read off the cut of a source
(`Text.HasComment`), and they are all that suppression sees of the parsed
document (`Document.suppresses_parse_iff`). Cutting does not see how many
newlines stand together (`Lexeme.starting?_shape`), so sources of one
shape have the same comments, with the same ink before each
(`Text.HasComment.of_shape`).
-/

namespace TemplateLint

namespace Text

/-! ## Searching in a shape -/

/-- The first occurrence of a word without newlines stays the first. -/
theorem cutAt?_shape {w : Char} {word : Text} (hword : '\n' ∉ w :: word) (t : Text) :
    cutAt? (w :: word) (shape t) =
      (cutAt? (w :: word) t).map fun sides => (collapse sides.1, shape sides.2) := by
  have hw : w ≠ '\n' := fun h => hword (h ▸ .head _)
  induction t with
  | nil => rfl
  | cons c t ih =>
    rcases eq_or_ne c '\n' with rfl | hc
    -- The newline is dropped from the shape where it is dropped from what is before the word.
    · rw [cutAt?, after?, if_neg hw, Option.map_map, shape_cons]
      rcases hcut : cutAt? (w :: word) t with _ | ⟨before, behind⟩
      · rw [hcut] at ih
        rcases joinLine_eq_or '\n' (shape t) with hjoin | hjoin
        · rw [hjoin, ih]
          rfl
        · rw [hjoin, cutAt?, after?, if_neg hw, ih]
          rfl
      · rw [hcut] at ih
        have hshape : shape t = collapse before ++ w :: shape (word ++ behind) := by
          rw [eq_of_cutAt? hcut, List.cons_append, shape_append_cons hw]
        have hnext := joinLine_collapse_append hw '\n' before (word ++ behind)
        rw [← hshape] at hnext
        rcases joinLine_eq_or '\n' (shape t) with hjoin | hjoin
        · rw [hjoin, hshape] at hnext
          rw [hjoin, ih, Option.map_some, Option.map_some, Function.comp_apply,
            List.append_cancel_right hnext]
        · rw [hjoin, hshape, ← List.cons_append] at hnext
          rw [hjoin, cutAt?, after?, if_neg hw, ih, Option.map_some, Option.map_some,
            Option.map_some, Function.comp_apply, ← List.append_cancel_right hnext]
    · rw [keepsInk_shape.cons t hc, cutAt?, cutAt?, ← keepsInk_shape.cons t hc,
        after?_of_keepsInk keepsInk_shape hword]
      rcases after? (w :: word) (c :: t) with _ | rest
      · simp [ih, Function.comp_def, keepsInk_collapse.cons _ hc]
      · rfl

/-- A newline ends what is taken of a class that it is not in, so that the
shape has as much of the class in front. -/
theorem span_shape {p : Char → Bool} (hp : p '\n' = false) (t : Text) :
    (shape t).takeWhile p = t.takeWhile p ∧ (shape t).dropWhile p = shape (t.dropWhile p) := by
  induction t with
  | nil => exact ⟨rfl, rfl⟩
  | cons c t ih =>
    rcases eq_or_ne c '\n' with rfl | hc
    · have hhead : ∀ c ∈ (shape ('\n' :: t)).head?, p c = false := by
        intro c hmem
        rw [keepsInk_shape.newline t c hmem, hp]
      rw [List.takeWhile_cons_of_neg (by simp [hp]), List.dropWhile_cons_of_neg (by simp [hp]),
        dropWhile_eq_self hhead]
      refine ⟨?_, rfl⟩
      rcases hshape : shape ('\n' :: t) with _ | ⟨c, rest⟩
      · rfl
      · rw [hshape] at hhead
        exact List.takeWhile_cons_of_neg (by simp [hhead c rfl])
    · rw [keepsInk_shape.cons t hc]
      by_cases hpc : p c
      · simp [hpc, ih]
      · simp [hpc, keepsInk_shape.cons t hc]

/-- What is taken of a class that newlines are in is collapsed, if it ends
before the text does. -/
theorem span_shape_cons {p : Char → Bool} (hp : p '\n') {t rest : Text} {c : Char}
    (h : t.dropWhile p = c :: rest) :
    (shape t).takeWhile p = collapse (t.takeWhile p) ∧ (shape t).dropWhile p = c :: shape rest := by
  have hc : p c = false := head?_dropWhile c (by rw [h]; rfl)
  have hne : c ≠ '\n' := fun hnewline => by rw [hnewline, hp] at hc; cases hc
  have ht : t = t.takeWhile p ++ c :: rest := by rw [← h, List.takeWhile_append_dropWhile]
  have htaken : ∀ d ∈ collapse (t.takeWhile p), p d :=
    fun d hd => List.mem_takeWhile_imp (mem_of_mem_collapse hd)
  have hshape : shape t = collapse (t.takeWhile p) ++ c :: shape rest := by
    conv_lhs => rw [ht]
    exact shape_append_cons hne _ _
  rw [hshape, List.takeWhile_append_of_pos htaken, List.dropWhile_append_of_pos htaken,
    List.takeWhile_cons_of_neg (by simp [hc]), List.dropWhile_cons_of_neg (by simp [hc]),
    List.append_nil]
  exact ⟨rfl, rfl⟩

theorem dropWhile_shape_eq_nil {p : Char → Bool} {t : Text} (h : t.dropWhile p = []) :
    (shape t).dropWhile p = [] := by
  rw [List.dropWhile_eq_nil_iff] at h ⊢
  exact fun c hc => h c (mem_of_mem_shape hc)

end Text

namespace Lexeme

open Text

/-! ## Cutting a shape -/

/-- The lexeme with its runs of newlines made one. -/
def spaced : Lexeme → Lexeme
  | .text content => .text content.shape
  | .erb opening content => .erb opening content.collapse
  | .tag closing name rest => .tag closing name rest.collapse
  | .dangling lead rest => .dangling lead.collapse rest.shape

/-- The mark of an ERB tag, by the words it may be. -/
theorem erbMark_eq (t : Text) :
    erbMark t =
      match after? ['#'] t, after? ['=', '='] t, after? ['='] t, after? ['-'] t with
      | some rest, _, _, _ => (['#'], rest)
      | none, some rest, _, _ => (['=', '='], rest)
      | none, none, some rest, _ => (['='], rest)
      | none, none, none, some rest => (['-'], rest)
      | none, none, none, none => ([], t) := by
  have lacks : ∀ {c : Char} {word t : Text}, (∀ rest, t = c :: rest → False) →
      after? (c :: word) t = none := fun h => after?_eq_none_iff.2 fun rest => h (_ ++ rest)
  fun_cases erbMark t with
  | case1 | case2 | case4 => simp [after?]
  | case3 t h => simp [after?, lacks h]
  | case5 t h₁ _ h₂ h₃ => rw [lacks h₁, lacks h₂, lacks h₂, lacks h₃]

theorem erbMark_shape (t : Text) : erbMark t.shape = ((erbMark t).1, (erbMark t).2.shape) := by
  -- No mark holds a newline, so that each is found in the shape where it is in the text.
  have hash := after?_of_keepsInk keepsInk_shape (show '\n' ∉ ['#'] by decide) t
  have equals := after?_of_keepsInk keepsInk_shape (show '\n' ∉ ['=', '='] by decide) t
  have equal := after?_of_keepsInk keepsInk_shape (show '\n' ∉ ['='] by decide) t
  have dash := after?_of_keepsInk keepsInk_shape (show '\n' ∉ ['-'] by decide) t
  rw [erbMark_eq, erbMark_eq, hash, equals, equal, dash]
  cases after? ['#'] t <;> cases after? ['=', '='] t <;> cases after? ['='] t <;>
    cases after? ['-'] t <;> rfl

theorem tagNamed?_shape (closing : Bool) (t : Text) :
    tagNamed? closing t.shape = (tagNamed? closing t).map spaced := by
  cases t with
  | nil => rfl
  | cons c t =>
    rcases eq_or_ne c '\n' with rfl | hc
    · have hnewline := keepsInk_shape.newline t
      rcases hshape : shape ('\n' :: t) with _ | ⟨d, rest⟩
      · rfl
      · rw [hshape] at hnewline
        cases hnewline d rfl
        rfl
    · have hp : isTagChar '\n' = false := by decide +kernel
      obtain ⟨hname, hrest⟩ := span_shape hp t
      rw [keepsInk_shape.cons t hc]
      simp only [tagNamed?, List.span_eq_takeWhile_dropWhile, hname, hrest]
      split
      · rcases hdrop : (t.dropWhile isTagChar).dropWhile fun c => c ≠ '<' && c ≠ '>' with
          _ | ⟨d, behind⟩
        · rw [dropWhile_shape_eq_nil hdrop]
          rfl
        · obtain ⟨htake, hbehind⟩ := span_shape_cons (by decide) hdrop
          rw [htake, hbehind]
          by_cases hd : d = '>'
          · subst hd
            rfl
          · simp [hd]
      · rfl

/-- What starts a text with `<`, by what follows. -/
theorem starting?_eq (t : Text) :
    starting? ('<' :: t) =
      match after? ['%'] t, after? ['/'] t with
      | some rest, _ =>
        match cutAt? erbClosing (erbMark rest).2 with
        | some (content, _) => some (.erb ('<' :: '%' :: (erbMark rest).1) content)
        | none => some (.dangling [] ('<' :: '%' :: rest))
      | none, some rest => tagNamed? true rest
      | none, none => tagNamed? false t := by
  rcases t with _ | ⟨c, t⟩
  · rfl
  · by_cases hpercent : c = '%'
    · subst hpercent
      rfl
    · by_cases hslash : c = '/'
      · subst hslash
        rfl
      · simp [starting?, after?, hpercent, hslash, eq_comm]

/-- **What starts a shape starts the text.** -/
theorem starting?_shape (t : Text) :
    starting? ('<' :: t.shape) = (starting? ('<' :: t)).map spaced := by
  have percent := after?_of_keepsInk keepsInk_shape (show '\n' ∉ ['%'] by decide) t
  have slash := after?_of_keepsInk keepsInk_shape (show '\n' ∉ ['/'] by decide) t
  rw [starting?_eq, starting?_eq, percent, slash]
  rcases after? ['%'] t with _ | rest
  · rcases after? ['/'] t with _ | rest
    · exact tagNamed?_shape false t
    · exact tagNamed?_shape true rest
  · simp only [Option.map_some, erbMark_shape, erbClosing]
    rw [cutAt?_shape (by decide)]
    rcases cutAt? ['%', '>'] (erbMark rest).2 with _ | ⟨content, behind⟩
    · have hopen : shape ('<' :: '%' :: rest) = '<' :: '%' :: shape rest := rfl
      simp only [Option.map_none, Option.map_some, spaced, hopen]
      rfl
    · rfl

/-- Between an opening without newlines and ink, a shape is collapsed. -/
theorem shape_enclosed {opening : Text} (hopening : '\n' ∉ opening) {c : Char} (hc : c ≠ '\n')
    (content behind : Text) :
    shape (opening ++ content ++ c :: behind) = opening ++ collapse content ++ c :: shape behind := by
  have hlast : opening.getLast? ≠ some '\n' := fun h => hopening (List.mem_of_getLast? h)
  rw [shape_append_cons hc, collapse_append (.inl hlast), collapse_eq_self hopening]

theorem shape_erb {mark : Text} (hmark : '\n' ∉ mark) (content behind : Text) :
    shape (written (.erb ('<' :: '%' :: mark) content) ++ behind) =
      written (spaced (.erb ('<' :: '%' :: mark) content)) ++ shape behind := by
  have hopening : '\n' ∉ '<' :: '%' :: mark := by simpa using hmark
  calc
    shape (written (.erb ('<' :: '%' :: mark) content) ++ behind) =
        shape ('<' :: '%' :: mark ++ content ++ '%' :: '>' :: behind) := by
      simp [written, erbClosing]
    _ = '<' :: '%' :: mark ++ collapse content ++ '%' :: '>' :: shape behind := by
      rw [shape_enclosed hopening (by decide), keepsInk_shape.cons behind (by decide)]
    _ = _ := by simp [written, spaced, erbClosing]

theorem shape_tag (closing : Bool) {name : Text} (hname : '\n' ∉ name) (rest behind : Text) :
    shape (written (.tag closing name rest) ++ behind) =
      written (spaced (.tag closing name rest)) ++ shape behind := by
  have hopening : '\n' ∉ tagOpening closing ++ name := by
    cases closing <;> simpa [tagOpening] using hname
  calc
    shape (written (.tag closing name rest) ++ behind) =
        shape (tagOpening closing ++ name ++ rest ++ '>' :: behind) := by
      simp [written]
    _ = tagOpening closing ++ name ++ collapse rest ++ '>' :: shape behind :=
      shape_enclosed hopening (by decide) rest behind
    _ = _ := by simp [written, spaced]

/-- **A shape is written by the spaced lexemes of the text.** -/
theorem shape_written {lexeme : Lexeme} {behind : Text}
    (h : starting? (lexeme.written ++ behind) = some lexeme) :
    shape (lexeme.written ++ behind) = lexeme.spaced.written ++ shape behind := by
  obtain ⟨mark, content, behind', rfl, -, hmark⟩ | ⟨closing, name, rest, behind', rfl, -, hname⟩ |
    ⟨rest, rfl, hall⟩ := starting?_cases h
  · exact shape_erb hmark content behind
  · exact shape_tag closing hname rest behind
  · have hbehind : behind = [] := by simpa [written] using hall
    subst hbehind
    simp [written, spaced, collapse]

/-- A lexeme that starts a text starts its shape too. -/
theorem starting?_spaced {lexeme : Lexeme} {behind : Text}
    (h : starting? (lexeme.written ++ behind) = some lexeme) :
    starting? (lexeme.spaced.written ++ shape behind) = some lexeme.spaced := by
  obtain ⟨t, ht⟩ : ∃ t, lexeme.written ++ behind = '<' :: t := by
    obtain ⟨mark, content, _, rfl, -⟩ | ⟨closing, name, rest, _, rfl, -⟩ | ⟨rest, rfl, -⟩ :=
      starting?_cases h
    · exact ⟨_, rfl⟩
    · cases closing <;> exact ⟨_, rfl⟩
    · exact ⟨_, rfl⟩
  rw [← shape_written h, ht, keepsInk_shape.cons t (by decide), starting?_shape, ← ht, h]
  rfl

/-! ## Comments among lexemes -/

/-- The directive of a lexeme, if it is a comment that can be read as one. -/
def directive? : Lexeme → Option Directive
  | .erb opening content =>
    if opening = Directive.commentOpening then Directive.parse? content else none
  | _ => none

/-- The comments among some lexemes: for each, how much ink is before it,
and the names of its rules. `before` is the ink in front of the first
lexeme. -/
def marksFrom (before : Nat) : List Lexeme → List (Nat × List String)
  | [] => []
  | lexeme :: lexemes =>
    ((lexeme.directive?.map Directive.ruleNames).map fun names => (before, names)).toList
      ++ marksFrom (before + lexeme.written.ink) lexemes

theorem map_ruleNames_spaced (lexeme : Lexeme) :
    lexeme.spaced.directive?.map Directive.ruleNames =
      lexeme.directive?.map Directive.ruleNames := by
  cases lexeme with
  | erb opening content =>
    simp only [spaced, directive?]
    split
    · exact Directive.map_ruleNames_collapse content
    · rfl
  | _ => rfl

theorem ink_written_spaced (lexeme : Lexeme) : lexeme.spaced.written.ink = lexeme.written.ink := by
  cases lexeme <;> simp [spaced, written]

/-- A character in front is no part of a comment. -/
theorem marksFrom_consText (before : Nat) (c : Char) (lexemes : List Lexeme) :
    marksFrom before (consText c lexemes) = marksFrom (before + ink [c]) lexemes := by
  have hcons : ∀ t, before + ink (c :: t) = before + ink [c] + ink t := by
    intro t
    rw [Nat.add_assoc, ← ink_append, List.singleton_append]
  unfold consText
  split
  · rename_i content lexemes
    rw [marksFrom, marksFrom, written, written, hcons]
    rfl
  · rename_i lead rest lexemes
    rw [marksFrom, marksFrom, written, written, List.cons_append, hcons]
    rfl
  · rw [marksFrom, written]
    rfl

/-- **A shape has the comments of the text.** -/
theorem marksFrom_cut_shape (before : Nat) (t : Text) :
    marksFrom before (cut (shape t)) = marksFrom before (cut t) := by
  -- Along the cut, a lexeme is spaced as a whole, and its ink does not change.
  induction t using cut_induction generalizing before with
  | nil => rfl
  | lexeme lexeme behind h ih =>
    rw [shape_written h, cut_written (starting?_spaced h), marksFrom, marksFrom,
      map_ruleNames_spaced, ink_written_spaced, ih]
  | char c t h ih =>
    -- A newline that the shape drops belongs to text, and counts for no ink.
    rcases eq_or_ne c '\n' with rfl | hc
    · have hink : ink ['\n'] = 0 := rfl
      rw [marksFrom_consText, hink, Nat.add_zero, ← ih, shape_cons]
      rcases joinLine_eq_or '\n' (shape t) with hjoin | hjoin
      · rw [hjoin]
      · rw [hjoin, cut_cons rfl, marksFrom_consText, hink, Nat.add_zero]
    · have hnone : starting? (c :: shape t) = none := by
        by_cases hopen : c = '<'
        · subst hopen
          rw [starting?_shape, h]
          rfl
        · unfold starting?
          split <;> simp_all
      rw [keepsInk_shape.cons t hc, cut_cons hnone, marksFrom_consText, marksFrom_consText, ih]

/-- A mark tells of a comment, and of nothing else. -/
theorem mem_marksFrom {before : Nat} {lexemes : List Lexeme} {mark : Nat × List String} :
    mark ∈ marksFrom before lexemes ↔
      ∃ earlier lexeme later directive, lexemes = earlier ++ lexeme :: later ∧
        lexeme.directive? = some directive ∧
        mark = (before + ink (earlier.flatMap written), directive.ruleNames) := by
  induction lexemes generalizing before with
  | nil => simp [marksFrom]
  | cons lexeme lexemes ih =>
    rw [marksFrom, List.mem_append, ih]
    constructor
    · rintro (hmark | ⟨earlier, lexeme', later, directive, rfl, hdirective, rfl⟩)
      · simp only [Option.map_map, Option.mem_toList, Option.map_eq_some_iff] at hmark
        obtain ⟨directive, hdirective, rfl⟩ := hmark
        exact ⟨[], lexeme, lexemes, directive, rfl, hdirective, rfl⟩
      · refine ⟨lexeme :: earlier, lexeme', later, directive, rfl, hdirective, ?_⟩
        rw [List.flatMap_cons, ink_append, Nat.add_assoc]
    · rintro ⟨earlier, lexeme', later, directive, hlexemes, hdirective, rfl⟩
      rcases List.cons_eq_append_iff.1 hlexemes with ⟨rfl, hsame⟩ | ⟨earlier, rfl, rfl⟩
      · cases hsame
        exact .inl (by simp [hdirective])
      · refine .inr ⟨earlier, lexeme', later, directive, rfl, hdirective, ?_⟩
        rw [List.flatMap_cons, ink_append, Nat.add_assoc]

/-- A lexeme with a directive is a comment. -/
theorem eq_of_directive? {lexeme : Lexeme} {directive : Directive}
    (h : lexeme.directive? = some directive) :
    ∃ content, lexeme = .erb Directive.commentOpening content ∧
      Directive.parse? content = some directive := by
  cases lexeme with
  | erb opening content =>
    rw [directive?] at h
    split at h
    · rename_i hopening
      exact ⟨content, by rw [hopening], h⟩
    · cases h
  | _ => cases h

end Lexeme

/-! ## Comments of a source -/

namespace Text

/-- **A comment stands in a source**, behind some text, and can be read as a
directive. -/
def HasComment (source before : Text) (directive : Directive) : Prop :=
  ∃ earlier lexeme later, Lexeme.cut source = earlier ++ lexeme :: later ∧
    lexeme.directive? = some directive ∧ earlier.flatMap Lexeme.written = before

variable {s t before : Text} {directive : Directive}

/-- A comment starts with its mark. -/
theorem HasComment.exists_append (h : s.HasComment before directive) :
    ∃ after, s = before ++ '<' :: after := by
  obtain ⟨earlier, lexeme, later, hcut, hdirective, rfl⟩ := h
  obtain ⟨content, rfl, -⟩ := Lexeme.eq_of_directive? hdirective
  have hs := Lexeme.flatMap_written_cut s
  rw [hcut, List.flatMap_append, List.flatMap_cons] at hs
  exact ⟨_, hs.symm⟩

/-- **Sources of one shape have the same comments**, with the same ink in
front of each. -/
theorem HasComment.of_shape (h : s.HasComment before directive) (hshape : shape s = shape t) :
    ∃ before' directive', t.HasComment before' directive' ∧ ink before' = ink before ∧
      directive'.ruleNames = directive.ruleNames := by
  obtain ⟨earlier, lexeme, later, hcut, hdirective, rfl⟩ := h
  have hmark : (ink (earlier.flatMap Lexeme.written), directive.ruleNames) ∈
      Lexeme.marksFrom 0 (Lexeme.cut t) := by
    rw [← Lexeme.marksFrom_cut_shape, ← hshape, Lexeme.marksFrom_cut_shape]
    exact Lexeme.mem_marksFrom.2 ⟨earlier, lexeme, later, directive, hcut, hdirective, by simp⟩
  obtain ⟨earlier', lexeme', later', directive', hcut', hdirective', hsame⟩ :=
    Lexeme.mem_marksFrom.1 hmark
  obtain ⟨hink, hnames⟩ := Prod.mk.inj hsame
  exact ⟨_, directive', ⟨earlier', lexeme', later', hcut', hdirective', rfl⟩,
    by rw [hink, Nat.zero_add], hnames.symm⟩

/-- A comment stays where it is if the newlines in front of it change, and
those behind it. -/
theorem HasComment.of_append {after before' after' : Text}
    (h : (before ++ '<' :: after).HasComment before directive)
    (hshape : shape (before ++ '<' :: after) = shape (before' ++ '<' :: after'))
    (hink : ink before' = ink before) :
    ∃ directive', (before' ++ '<' :: after').HasComment before' directive' ∧
      directive'.ruleNames = directive.ruleNames := by
  obtain ⟨found, directive', hfound, hsame, hnames⟩ := h.of_shape hshape
  obtain ⟨rest, hrest⟩ := hfound.exists_append
  -- The comment that is found has as much ink in front of it, and so stands there.
  have hplace := append_inj_of_ink (by simp) (by simp) (by simp) (by simp)
    (hsame.trans hink.symm) hrest.symm
  exact ⟨directive', hplace.1 ▸ hfound, hnames⟩

end Text

/-! ## Comments of a parsed document -/

namespace Document

open Position

theorem preorders_nodesFrom (p : Position) (lexemes : List Lexeme) :
    Node.preorders (nodesFrom p lexemes) = nodesFrom p lexemes := by
  induction lexemes generalizing p with
  | nil => rfl
  | cons lexeme lexemes ih =>
    have hnode : (nodeAt p lexeme).preorder = [nodeAt p lexeme] := by
      cases lexeme with
      | tag closing name rest => cases closing <;> rfl
      | _ => rfl
    rw [nodesFrom, Node.preorders, hnode, ih]
    rfl

theorem mem_nodesFrom {p : Position} {lexemes : List Lexeme} {node : Node} :
    node ∈ nodesFrom p lexemes ↔
      ∃ earlier lexeme later, lexemes = earlier ++ lexeme :: later ∧
        node = nodeAt (p.advance (earlier.flatMap Lexeme.written)) lexeme := by
  induction lexemes generalizing p with
  | nil => simp [nodesFrom]
  | cons lexeme lexemes ih =>
    rw [nodesFrom, List.mem_cons, ih]
    constructor
    · rintro (rfl | ⟨earlier, lexeme', later, rfl, rfl⟩)
      · exact ⟨[], lexeme, lexemes, rfl, rfl⟩
      · refine ⟨lexeme :: earlier, lexeme', later, rfl, ?_⟩
        rw [List.flatMap_cons, advance_append]
    · rintro ⟨earlier, lexeme', later, hlexemes, rfl⟩
      rcases List.cons_eq_append_iff.1 hlexemes with ⟨rfl, hsame⟩ | ⟨earlier, rfl, rfl⟩
      · cases hsame
        exact .inl rfl
      · refine .inr ⟨earlier, lexeme', later, rfl, ?_⟩
        rw [List.flatMap_cons, advance_append]

theorem start_nodeAt (p : Position) (lexeme : Lexeme) : (nodeAt p lexeme).location.start = p := by
  cases lexeme with
  | tag closing name rest => cases closing <;> rfl
  | _ => rfl

/-- A node holds the directive of its lexeme. -/
theorem holds_nodeAt {p : Position} {lexeme : Lexeme} {directive : Directive} :
    (nodeAt p lexeme).Holds directive ↔ lexeme.directive? = some directive := by
  constructor
  · rintro ⟨opening, content, closing, location, errors, hnode, hopening, hdirective⟩
    cases lexeme with
    | erb opening' content' =>
      cases hnode
      rw [Lexeme.directive?, if_pos hopening]
      exact hdirective
    | tag closing name rest => cases closing <;> cases hnode
    | _ => cases hnode
  · intro h
    obtain ⟨content, rfl, hdirective⟩ := Lexeme.eq_of_directive? h
    exact ⟨_, _, _, _, _, rfl, rfl, hdirective⟩

/-- The nodes of a parsed document: the root, and one for each lexeme. -/
theorem nodes_parse (source : Text) :
    (parse source).nodes =
      .branch .document (.reading .origin source) [] (nodesFrom .origin (Lexeme.cut source)) ::
        nodesFrom .origin (Lexeme.cut source) := by
  simp [nodes, parse, Node.preorder, preorders_nodesFrom]

/-- **A node of the parsed document holds a directive where a comment stands
in the source.** -/
theorem exists_holds_parse_iff {source : Text} {directive : Directive} {p : Position} :
    (∃ node ∈ (parse source).nodes, node.Holds directive ∧ node.location.start = p) ↔
      ∃ before, source.HasComment before directive ∧ origin.advance before = p := by
  rw [nodes_parse]
  constructor
  · rintro ⟨node, hnode, hholds, rfl⟩
    rcases List.mem_cons.1 hnode with rfl | hnode
    · obtain ⟨opening, content, closing, location, errors, hroot, -⟩ := hholds
      cases hroot
    · obtain ⟨earlier, lexeme, later, hcut, rfl⟩ := mem_nodesFrom.1 hnode
      exact ⟨_, ⟨earlier, lexeme, later, hcut, holds_nodeAt.1 hholds, rfl⟩,
        (start_nodeAt _ _).symm⟩
  · rintro ⟨before, ⟨earlier, lexeme, later, hcut, hdirective, rfl⟩, rfl⟩
    exact ⟨_, .tail _ (mem_nodesFrom.2 ⟨earlier, lexeme, later, hcut, rfl⟩),
      holds_nodeAt.2 hdirective, start_nodeAt _ _⟩

/-- **What suppresses an offense is a comment of the source.** -/
theorem suppresses_parse_iff {scope : DisableScope} {source : Text} {o : Offense} :
    (parse source).Suppresses scope o ↔
      ¬ DisableComments.namePrefix.toList <+: o.rule.toList ∧
        ∃ before directive, source.HasComment before directive ∧ directive.Names o.rule ∧
          scope.Reaches (before.count '\n' + 1) o.location.start.line := by
  refine and_congr_right fun _ => ?_
  constructor
  · rintro ⟨node, hnode, directive, hholds, hnames, hreaches⟩
    obtain ⟨before, hcomment, hstart⟩ := exists_holds_parse_iff.1 ⟨node, hnode, hholds, rfl⟩
    rw [← hstart, Text.line_origin_advance] at hreaches
    exact ⟨before, directive, hcomment, hnames, hreaches⟩
  · rintro ⟨before, directive, hcomment, hnames, hreaches⟩
    obtain ⟨node, hnode, hholds, hstart⟩ := exists_holds_parse_iff.2 ⟨before, hcomment, rfl⟩
    refine ⟨node, hnode, directive, hholds, hnames, ?_⟩
    rw [hstart, Text.line_origin_advance]
    exact hreaches

/-- In text that is not parsed, nothing is suppressed. -/
theorem not_suppresses_ofText {scope : DisableScope} {source : Text} {o : Offense} :
    ¬ (ofText source).Suppresses scope o := by
  rintro ⟨-, node, hnode, -⟩
  cases hnode

end Document

end TemplateLint
