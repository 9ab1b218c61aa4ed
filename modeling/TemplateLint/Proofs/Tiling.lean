import TemplateLint.Template.Parser
import TemplateLint.Proofs.Lexemes
import TemplateLint.Proofs.Offsets
/-!
# Tiling — where the nodes of a parsed source lie

The children of a parsed document stand for consecutive parts of the
source, from its start to its end, and every location is the span of the
part it belongs to (`Document.parse_tiles`). Below this lies the order that
lexemes come in (`Lexeme.InOrder`): no two texts side by side, no `<%` in a
text, and behind one that is never closed nothing more.
-/

namespace TemplateLint

namespace Text

/-! ## Parts of a source -/

/-- The part of a source between two offsets, with its location. -/
def token (source : Text) (a b : Nat) : Token :=
  ⟨source.extract a b, source.span a b⟩

/-- At an offset stands a `<%` that no `%>` closes: none starts two or more
characters behind it. -/
def Unclosed (source : Text) (k : Nat) : Prop :=
  ['<', '%'] <+: source.drop k ∧ ¬ Lexeme.erbClosing <:+: source.drop (k + 2)

/-- **A span from an offset to a later one has its end behind its start**, so
that it is a location. -/
theorem between?_positionAt (source : Text) {a b : Nat} (h : a ≤ b) :
    Location.between? (source.positionAt a) (source.positionAt b) = .ok (source.span a b) := by
  have hstop : source.positionAt b =
      (source.positionAt a).advance ((source.drop a).take (b - a)) := positionAt_eq_advance h
  rw [Location.between?, dif_pos (hstop ▸ Position.le_advance _ _)]
  simp only [span, Location.reading, hstop]

/-- The part of a source that is behind what stands before it. -/
theorem token_eq {source before piece behind : Text} {a b : Nat}
    (h : source = before ++ (piece ++ behind)) (ha : a = before.length)
    (hb : b = a + piece.length) :
    source.token a b = ⟨piece, .reading (Position.origin.advance before) piece⟩ := by
  subst h ha hb
  have hstart : (before ++ (piece ++ behind)).positionAt before.length =
      Position.origin.advance before := by rw [positionAt_eq, List.take_left]
  have hpiece : ((before ++ (piece ++ behind)).drop before.length).take
      (before.length + piece.length - before.length) = piece := by
    rw [List.drop_left, Nat.add_sub_cancel_left, List.take_left]
  rw [token, List.extract_eq_take_drop, span, hstart, hpiece]

end Text

namespace Lexeme

/-! ## The order of lexemes -/

/-- No `<%` starts in a text that stands before another. -/
def Unmarked (content behind : Text) : Prop :=
  ∀ before after, content ++ behind = before ++ '<' :: '%' :: after →
    content.length ≤ before.length

/-- The lexeme is a tag. -/
def IsTag : Lexeme → Prop
  | .erb .. | .tag .. => True
  | .text _ | .dangling .. => False

/-- **Lexemes in the order of a cut.** A text holds no `<%`, and behind it
comes a tag, if anything. An ERB tag ends at the first mark that closes it.
What is never closed comes last. -/
inductive InOrder : List Lexeme → Prop
  | nil : InOrder []
  | text {content : Text} {later : List Lexeme} (nonempty : content ≠ [])
      (unmarked : Unmarked content (later.flatMap written)) (apart : ∀ l ∈ later.head?, l.IsTag)
      (rest : InOrder later) : InOrder (.text content :: later)
  | erb {mark content : Text} {later : List Lexeme} (first : ¬ erbClosing <:+: content)
      (rest : InOrder later) : InOrder (.erb ('<' :: '%' :: mark) content :: later)
  | tag {closing : Bool} {c : Char} {name tail : Text} {later : List Lexeme}
      (start : isTagStart c) (rest : InOrder later) :
      InOrder (.tag closing (c :: name) tail :: later)
  | dangling {lead tail : Text} (unmarked : Unmarked lead ('<' :: '%' :: tail))
      (unclosed : ¬ erbClosing <:+: tail) : InOrder [.dangling lead ('<' :: '%' :: tail)]

theorem Unmarked.nil (behind : Text) : Unmarked [] behind :=
  fun _ _ _ => Nat.zero_le _

/-- A character that starts no mark goes before what holds none. -/
theorem Unmarked.cons {content behind : Text} {c : Char} (h : Unmarked content behind)
    (hc : ∀ t, c :: (content ++ behind) ≠ '<' :: '%' :: t) : Unmarked (c :: content) behind := by
  intro before after heq
  rcases before with _ | ⟨b, before⟩
  · exact absurd heq (hc after)
  · obtain ⟨-, heq⟩ := List.cons.inj heq
    exact Nat.succ_le_succ (h before after heq)

/-- The mark of an ERB tag holds no closing one, so that closing it starts
behind the mark. -/
theorem infix_of_infix_erbMark {t : Text} (h : erbClosing <:+: t) :
    erbClosing <:+: (erbMark t).2 := by
  unfold erbMark
  split
  · simpa [erbClosing, List.infix_cons_iff] using h
  · simpa [erbClosing, List.infix_cons_iff] using h
  · simpa [erbClosing, List.infix_cons_iff] using h
  · simpa [erbClosing, List.infix_cons_iff] using h
  · exact h

/-- A `<%` starts a lexeme in any case. -/
theorem starting?_ne_none (t : Text) : starting? ('<' :: '%' :: t) ≠ none := by
  simp only [starting?]
  split <;> exact Option.some_ne_none _

/-- The name of a tag starts with a letter. -/
theorem exists_of_tagNamed? {closing : Bool} {t : Text} {lexeme : Lexeme}
    (h : tagNamed? closing t = some lexeme) :
    ∃ c name tail, lexeme = .tag closing (c :: name) tail ∧ isTagStart c := by
  cases t with
  | nil => cases h
  | cons c t =>
    simp only [tagNamed?] at h
    split at h
    · rename_i hstart
      split at h
      · cases h
        exact ⟨c, _, _, rfl, hstart⟩
      · cases h
    · cases h

/-- Behind a lexeme that starts a text, what is in order stays in order. -/
theorem InOrder.cons_of_starting? {lexeme : Lexeme} {behind : Text} {later : List Lexeme}
    (h : starting? (lexeme.written ++ behind) = some lexeme) (hbehind : behind = [] → later = [])
    (hlater : InOrder later) : InOrder (lexeme :: later) := by
  generalize ht : lexeme.written ++ behind = t at h
  obtain ⟨t, content, rest, -, hcut, rfl⟩ | ⟨closing, t, -, htag⟩ | ⟨t, rfl, hcut, rfl⟩ :=
    exists_of_starting? h
  · exact .erb (Text.not_infix_of_cutAt? (List.cons_ne_nil _ _) hcut) hlater
  · obtain ⟨c, name, tail, rfl, hstart⟩ := exists_of_tagNamed? htag
    exact .tag hstart hlater
  · -- What is never closed takes all there is.
    obtain rfl : behind = [] := by simpa [written] using ht
    rw [hbehind rfl]
    exact .dangling (.nil _) fun hclosed =>
      Text.cutAt?_eq_none_iff.1 hcut (infix_of_infix_erbMark hclosed)

/-- A character that starts no lexeme joins the text that comes first. -/
theorem InOrder.consText {c : Char} {later : List Lexeme} (h : InOrder later)
    (hc : ∀ t, c :: later.flatMap written ≠ '<' :: '%' :: t) :
    InOrder (Lexeme.consText c later) := by
  cases h with
  | nil => exact .text (List.cons_ne_nil _ _) ((Unmarked.nil _).cons hc) nofun .nil
  | text nonempty unmarked apart rest =>
    exact .text (List.cons_ne_nil _ _) (unmarked.cons hc) apart rest
  | erb first rest =>
    exact .text (List.cons_ne_nil _ _) ((Unmarked.nil _).cons hc) (by simp [IsTag])
      (.erb first rest)
  | tag start rest =>
    exact .text (List.cons_ne_nil _ _) ((Unmarked.nil _).cons hc) (by simp [IsTag])
      (.tag start rest)
  | dangling unmarked unclosed =>
    exact .dangling (unmarked.cons (by simpa [written] using hc)) unclosed

/-- **The cut of a text is in order.** -/
theorem inOrder_cut (t : Text) : InOrder (cut t) := by
  induction t using cut_induction with
  | nil => exact .nil
  | lexeme found behind hstart ih =>
    refine ih.cons_of_starting? hstart fun hnil => ?_
    rw [hnil]
    rfl
  | char c t hstart ih =>
    refine ih.consText fun t' heq => ?_
    rw [flatMap_written_cut] at heq
    exact starting?_ne_none t' (heq ▸ hstart)

theorem InOrder.tail {l : Lexeme} {later : List Lexeme} (h : InOrder (l :: later)) :
    InOrder later := by
  cases h with
  | text _ _ _ rest | erb _ rest | tag _ rest => exact rest
  | dangling => exact .nil

theorem InOrder.drop {lexemes : List Lexeme} (h : InOrder lexemes) (i : Nat) :
    InOrder (lexemes.drop i) := by
  induction i generalizing lexemes with
  | zero => exact h
  | succ i ih =>
    cases lexemes with
    | nil => exact h
    | cons l later => exact ih h.tail

theorem InOrder.written_ne_nil {l : Lexeme} {later : List Lexeme} (h : InOrder (l :: later)) :
    l.written ≠ [] := by
  cases h with
  | text nonempty => exact nonempty
  | erb | tag | dangling => simp [written]

/-- The length of the first lexemes. -/
def offset (lexemes : List Lexeme) (i : Nat) : Nat :=
  ((lexemes.take i).flatMap written).length

/-- **Where a `<%` is never closed.** In a text that is cut, it is the one that
what is left dangling starts with, or stands behind that. -/
theorem InOrder.exists_dangling {lexeme : Lexeme} {later : List Lexeme}
    {source before : Text} (h : InOrder (lexeme :: later))
    (hsource : source = before ++ (lexeme.written ++ later.flatMap written)) {j : Nat}
    (hj : j = 0 ∨ ¬ lexeme.IsTag ∧ j < lexeme.written.length)
    (hunclosed : source.Unclosed (before.length + j)) :
    ∃ lead tail, lexeme = .dangling lead tail ∧ lead.length ≤ j := by
  obtain ⟨⟨after, hafter⟩, hopen⟩ := hunclosed
  rw [hsource, List.drop_length_add_append] at hafter
  have hsplit : lexeme.written ++ later.flatMap written =
      (lexeme.written ++ later.flatMap written).take j ++ '<' :: '%' :: after := by
    conv_lhs => rw [← List.take_append_drop j (lexeme.written ++ _), ← hafter]
    rfl
  have htake : ((lexeme.written ++ later.flatMap written).take j).length ≤ j :=
    List.length_take_le _ _
  cases h with
  | text nonempty unmarked =>
    have hbound := unmarked _ _ hsplit
    have hpos := List.length_pos_iff.2 nonempty
    rcases hj with rfl | ⟨-, hj⟩
    · simp only [written, List.take_zero, List.length_nil] at hbound
      omega
    · simp only [written] at hbound hj htake
      omega
  | @erb mark content =>
    -- It is closed by its own mark.
    obtain rfl : j = 0 := hj.elim id fun h => absurd trivial h.1
    refine absurd ⟨mark ++ content, later.flatMap written, ?_⟩ hopen
    rw [hsource, Nat.add_zero, List.drop_length_add_append]
    simp [written]
  | @tag closing c name tail _ start =>
    obtain rfl : j = 0 := hj.elim id fun h => absurd trivial h.1
    cases closing with
    | true => simp [written, tagOpening] at hsplit
    | false =>
      simp only [written, tagOpening, List.take_zero, List.nil_append, List.cons_append,
        Bool.false_eq_true, if_false, List.cons.injEq] at hsplit
      exact absurd start (hsplit.2.1 ▸ by decide)
  | dangling unmarked => exact ⟨_, _, rfl, (unmarked _ _ (by simpa [written] using hsplit)).trans
      (by simpa [written] using htake)⟩

end Lexeme

/-! ## The nodes of lexemes -/

/-- **A node covers a part of a source.** The part is where it lies, and it holds
what stands there: a text all of it, an ERB tag three pieces of it one after
the other, and an HTML tag its name. -/
inductive Node.Covers (source : Text) (a b : Nat) : Node → Prop
  | text : Covers source a b (.leaf (.text (source.extract a b)) (source.span a b) [])
  | erb {m n : Nat} (opening : a ≤ m ∧ ['<', '%'] <+: source.extract a m)
      (content : m ≤ n ∧ ¬ Lexeme.erbClosing <:+: source.extract m n)
      (closing : n ≤ b ∧ source.extract n b = Lexeme.erbClosing) :
      Covers source a b (.leaf
        (.erb (some (source.token a m)) (some (source.token m n)) (some (source.token n b)))
        (source.span a b) [])
  | openTag {m n : Nat} (name : a < m ∧ m < n ∧ n < b) :
      Covers source a b (.branch (.openTag (some (source.token m n))) (source.span a b) [] [])
  | closeTag {m n : Nat} (name : a < m ∧ m < n ∧ n < b) :
      Covers source a b (.leaf (.closeTag (some (source.token m n))) (source.span a b) [])

namespace Document

open Position

theorem length_nodesFrom (p : Position) (lexemes : List Lexeme) :
    (nodesFrom p lexemes).length = lexemes.length := by
  induction lexemes generalizing p with
  | nil => rfl
  | cons lexeme lexemes ih => rw [nodesFrom, List.length_cons, List.length_cons, ih]

theorem getElem?_nodesFrom (p : Position) (lexemes : List Lexeme) (i : Nat) :
    (nodesFrom p lexemes)[i]? =
      lexemes[i]?.map (nodeAt (p.advance ((lexemes.take i).flatMap Lexeme.written))) := by
  induction lexemes generalizing p i with
  | nil => rfl
  | cons lexeme lexemes ih =>
    cases i with
    | zero => rfl
    | succ i =>
      rw [nodesFrom, List.getElem?_cons_succ, ih, List.getElem?_cons_succ, List.take_succ_cons,
        List.flatMap_cons, advance_append]

/-- **The node of a lexeme covers the part that it was read from.** -/
theorem covers_nodeAt {lexeme : Lexeme} {later : List Lexeme} {source before behind : Text}
    (h : Lexeme.InOrder (lexeme :: later)) (hsource : source = before ++ (lexeme.written ++ behind))
    {a b : Nat} (ha : a = before.length) (hb : b = a + lexeme.written.length) :
    (nodeAt (origin.advance before) lexeme).Covers source a b := by
  have hall := Text.token_eq hsource ha hb
  have hvalue : source.extract a b = lexeme.written := congrArg Token.value hall
  have hspan : source.span a b = .reading (origin.advance before) lexeme.written :=
    congrArg Token.location hall
  cases h with
  | text | dangling =>
    have hcovers : Node.Covers source a b _ := .text
    rw [hvalue, hspan] at hcovers
    exact hcovers
  | @erb mark content _ first =>
    -- The three tokens stand one behind the other.
    obtain ⟨m, hm⟩ : ∃ m, m = a + ('<' :: '%' :: mark).length := ⟨_, rfl⟩
    obtain ⟨n, hn⟩ : ∃ n, n = m + content.length := ⟨_, rfl⟩
    have hfirst : source = before ++
        ('<' :: '%' :: mark ++ (content ++ (Lexeme.erbClosing ++ behind))) := by
      simp [hsource, Lexeme.written]
    have hsecond : source = before ++ '<' :: '%' :: mark ++
        (content ++ (Lexeme.erbClosing ++ behind)) := by rw [hfirst, List.append_assoc]
    have hthird : source = before ++ '<' :: '%' :: mark ++ content ++
        (Lexeme.erbClosing ++ behind) := by rw [hsecond, List.append_assoc _ content]
    have hopening : source.token a m = ⟨'<' :: '%' :: mark, _⟩ := Text.token_eq hfirst ha hm
    have hcontent : source.token m n = ⟨content, _⟩ :=
      Text.token_eq hsecond (by rw [hm, ha, List.length_append]) hn
    have hclosing : source.token n b = ⟨Lexeme.erbClosing, _⟩ :=
      Text.token_eq hthird (by simp [hn, hm, ha]; omega)
        (by simp [hb, hn, hm, Lexeme.written, Lexeme.erbClosing]; omega)
    have hcovers : Node.Covers source a b _ := .erb (m := m) (n := n)
      ⟨by omega, by rw [show source.extract a m = _ from congrArg Token.value hopening]; simp⟩
      ⟨by omega, by rwa [show source.extract m n = _ from congrArg Token.value hcontent]⟩
      ⟨by simp [hb, hn, hm, Lexeme.written]; omega, congrArg Token.value hclosing⟩
    rw [hopening, hcontent, hclosing, hspan, advance_append, advance_append, advance_append]
      at hcovers
    exact hcovers
  | @tag closing c name tail _ start =>
    obtain ⟨m, hm⟩ : ∃ m, m = a + (Lexeme.tagOpening closing).length := ⟨_, rfl⟩
    obtain ⟨n, hn⟩ : ∃ n, n = m + (c :: name).length := ⟨_, rfl⟩
    have hsplit : source = before ++ Lexeme.tagOpening closing ++
        (c :: name ++ (tail ++ '>' :: behind)) := by simp [hsource, Lexeme.written]
    have hname : source.token m n = ⟨c :: name, _⟩ :=
      Text.token_eq hsplit (by rw [hm, ha, List.length_append]) hn
    have horder : a < m ∧ m < n ∧ n < b := by
      have hlength : 0 < (Lexeme.tagOpening closing).length := by cases closing <;> decide
      simp [hb, hn, hm, Lexeme.written]
      omega
    rw [nodeAt]
    cases closing with
    | true =>
      have hcovers : Node.Covers source a b _ := .closeTag horder
      rw [hname, hspan, advance_append] at hcovers
      exact hcovers
    | false =>
      have hcovers : Node.Covers source a b _ := .openTag horder
      rw [hname, hspan, advance_append] at hcovers
      exact hcovers

theorem kind_nodeAt_eq_text_iff {p : Position} {lexeme : Lexeme} :
    (nodeAt p lexeme).kind = .text ↔ ¬ lexeme.IsTag := by
  cases lexeme with
  | tag closing name rest => cases closing <;> simp [nodeAt, Node.kind, Lexeme.IsTag]
  | _ => simp [nodeAt, erbNode, Node.kind, Lexeme.IsTag]

end Document

/-! ## Tilings -/

/-- **Nodes that tile a source**: they cover consecutive parts of it, none of
which is empty, from its start to its end, and no two texts are side by side.
The number of nodes is that of the parts. -/
structure Text.Tiling (source : Text) (children : List Node) where
  /-- Where a node starts, and the one before ends. -/
  cut : Nat → Nat
  first : cut 0 = 0
  last : cut children.length = source.length
  covers : ∀ i node, children[i]? = some node →
    cut i < cut (i + 1) ∧ node.Covers source (cut i) (cut (i + 1))
  apart : ∀ i node node', children[i]? = some node → children[i + 1]? = some node' →
    ¬ (node.kind = .text ∧ node'.kind = .text)

/-- Reading comes by an offset: a node starts there, or it lies in a text. -/
def Text.Tiling.Reaches {source : Text} {children : List Node} (tiling : source.Tiling children)
    (k : Nat) : Prop :=
  ∃ i node, children[i]? = some node ∧
    (k = tiling.cut i ∨
      node.kind = .text ∧ tiling.cut i ≤ k ∧ k < tiling.cut (i + 1))

namespace Document

open Position

/-- A lexeme of a source, with the text on both sides. -/
theorem source_eq_of_getElem? {source : Text} {i : Nat} {lexeme : Lexeme}
    (h : (Lexeme.cut source)[i]? = some lexeme) :
    Lexeme.InOrder (lexeme :: (Lexeme.cut source).drop (i + 1)) ∧
      source = ((Lexeme.cut source).take i).flatMap Lexeme.written ++
        (lexeme.written ++ ((Lexeme.cut source).drop (i + 1)).flatMap Lexeme.written) ∧
      Lexeme.offset (Lexeme.cut source) (i + 1) =
        Lexeme.offset (Lexeme.cut source) i + lexeme.written.length := by
  obtain ⟨hi, hget⟩ := List.getElem?_eq_some_iff.1 h
  have hdrop : (Lexeme.cut source).drop i = lexeme :: (Lexeme.cut source).drop (i + 1) := by
    rw [List.drop_eq_getElem_cons hi, hget]
  refine ⟨hdrop ▸ (Lexeme.inOrder_cut source).drop i, ?_, ?_⟩
  · rw [← List.flatMap_cons, ← hdrop, ← List.flatMap_append, List.take_append_drop,
      Lexeme.flatMap_written_cut]
  · rw [Lexeme.offset, Lexeme.offset, ← List.take_concat_get' _ _ hi, List.flatMap_append, hget]
    simp

/-- **The nodes of a source tile it.** -/
def tiling (source : Text) : source.Tiling (nodesFrom .origin (Lexeme.cut source)) where
  cut := Lexeme.offset (Lexeme.cut source)
  first := rfl
  last := by
    have hall : (nodesFrom .origin (Lexeme.cut source)).length = (Lexeme.cut source).length :=
      length_nodesFrom _ _
    rw [hall, Lexeme.offset, List.take_length, Lexeme.flatMap_written_cut]
  covers i node h := by
    rw [getElem?_nodesFrom] at h
    obtain ⟨lexeme, hlexeme, rfl⟩ := Option.map_eq_some_iff.1 h
    obtain ⟨horder, hsource, hnext⟩ := source_eq_of_getElem? hlexeme
    refine ⟨?_, covers_nodeAt horder hsource rfl hnext⟩
    rw [hnext]
    exact Nat.lt_add_of_pos_right (List.length_pos_iff.2 horder.written_ne_nil)
  apart i node node' h h' := by
    rw [getElem?_nodesFrom] at h h'
    obtain ⟨lexeme, hlexeme, rfl⟩ := Option.map_eq_some_iff.1 h
    obtain ⟨lexeme', hlexeme', rfl⟩ := Option.map_eq_some_iff.1 h'
    rw [kind_nodeAt_eq_text_iff, kind_nodeAt_eq_text_iff]
    rintro ⟨htext, htext'⟩
    -- Behind a text comes a tag, and behind what is left dangling nothing.
    have hnext : ((Lexeme.cut source).drop (i + 1)).head? = some lexeme' := by
      rw [List.head?_drop, hlexeme']
    have horder := (source_eq_of_getElem? hlexeme).1
    generalize (Lexeme.cut source).drop (i + 1) = later at horder hnext
    cases horder with
    | text _ _ apart => exact htext' (apart lexeme' hnext)
    | erb | tag => exact htext trivial
    | dangling => cases hnext

/-- An error is reported for what is left dangling, and for nothing else. -/
theorem errorsFrom_eq {lexemes : List Lexeme} (h : Lexeme.InOrder lexemes) (p : Position) :
    ((∀ lead tail, .dangling lead tail ∉ lexemes) ∧ errorsFrom p lexemes = []) ∨
      ∃ earlier lead tail, lexemes = earlier ++ [.dangling lead ('<' :: '%' :: tail)] ∧
        ¬ Lexeme.erbClosing <:+: tail ∧
        errorsFrom p lexemes = [⟨unclosedKind, "ERB tag is missing its closing `%>`",
          .reading (p.advance (earlier.flatMap Lexeme.written ++ lead)) ['<', '%']⟩] := by
  induction h generalizing p with
  | nil => exact .inl ⟨nofun, rfl⟩
  | @dangling lead tail _ unclosed => exact .inr ⟨[], lead, tail, rfl, unclosed, rfl⟩
  | text _ _ _ _ ih | erb _ _ ih | tag _ _ ih =>
    rcases ih (p.advance (Lexeme.written _)) with ⟨hclosed, hnone⟩ |
      ⟨earlier, lead, tail, rfl, hopen, herrors⟩
    · exact .inl ⟨fun lead tail hmem => hclosed lead tail (by simpa using hmem), hnone⟩
    · refine .inr ⟨_ :: earlier, lead, tail, rfl, hopen, ?_⟩
      rw [List.flatMap_cons, List.append_assoc, advance_append]
      exact herrors

theorem span_length (source : Text) : source.span 0 source.length = .reading .origin source := by
  rw [Text.span, Text.positionAt_eq]
  simp

/-- Reading comes by a `<%` that is never closed only in what is left dangling,
which is the last lexeme. -/
theorem exists_dangling_of_reaches {source : Text} {k : Nat} (hreaches : (tiling source).Reaches k)
    (hunclosed : source.Unclosed k) :
    ∃ i lead tail, (Lexeme.cut source)[i]? = some (.dangling lead tail) ∧
      i + 1 = (Lexeme.cut source).length ∧
      Lexeme.offset (Lexeme.cut source) i + lead.length ≤ k := by
  obtain ⟨i, node, hnode, hk⟩ := hreaches
  rw [getElem?_nodesFrom] at hnode
  obtain ⟨lexeme, hlexeme, rfl⟩ := Option.map_eq_some_iff.1 hnode
  obtain ⟨horder, hsource, hnext⟩ := source_eq_of_getElem? hlexeme
  change k = Lexeme.offset _ i ∨ _ ∧ Lexeme.offset _ i ≤ k ∧ k < Lexeme.offset _ (i + 1) at hk
  rw [kind_nodeAt_eq_text_iff, hnext] at hk
  obtain ⟨j, rfl⟩ : ∃ j, k = Lexeme.offset (Lexeme.cut source) i + j :=
    Nat.exists_eq_add_of_le (by omega)
  have hj : j = 0 ∨ ¬ lexeme.IsTag ∧ j < lexeme.written.length :=
    hk.imp (by omega) fun h => ⟨h.1, by omega⟩
  obtain ⟨lead, tail, rfl, hlead⟩ := horder.exists_dangling hsource hj hunclosed
  refine ⟨i, lead, tail, hlexeme, ?_, Nat.add_le_add_left hlead _⟩
  have hlater : (Lexeme.cut source).drop (i + 1) = [] := by
    generalize (Lexeme.cut source).drop (i + 1) = later at horder
    cases horder
    rfl
  have hlength := (List.getElem?_eq_some_iff.1 hlexeme).1
  rw [List.drop_eq_nil_iff] at hlater
  omega

/-- What is left dangling has its mark where reading comes by, and nothing
closes that. -/
theorem reaches_dangling {source : Text} {earlier : List Lexeme} {lead tail : Text}
    (hcut : Lexeme.cut source = earlier ++ [.dangling lead ('<' :: '%' :: tail)])
    (hopen : ¬ Lexeme.erbClosing <:+: tail) {k : Nat}
    (hk : k = (earlier.flatMap Lexeme.written ++ lead).length) :
    (tiling source).Reaches k ∧ source.Unclosed k ∧
      (tiling source).cut earlier.length + lead.length = k ∧
      .reading (origin.advance (earlier.flatMap Lexeme.written ++ lead)) ['<', '%'] =
        source.span k (k + 2) := by
  have hsource : source = earlier.flatMap Lexeme.written ++ lead ++ (['<', '%'] ++ tail) := by
    conv_lhs => rw [← Lexeme.flatMap_written_cut source, hcut]
    simp [Lexeme.written]
  have hget : (Lexeme.cut source)[earlier.length]? =
      some (.dangling lead ('<' :: '%' :: tail)) := by
    rw [hcut, List.getElem?_concat_length]
  have hstart : (tiling source).cut earlier.length + lead.length = k := by
    change Lexeme.offset (Lexeme.cut source) earlier.length + lead.length = k
    rw [Lexeme.offset, hcut, List.take_left, hk, List.length_append]
  refine ⟨⟨earlier.length, _, by rw [getElem?_nodesFrom, hget]; rfl, .inr ⟨rfl, ?_, ?_⟩⟩,
    ⟨?_, ?_⟩, hstart, ?_⟩
  · omega
  · have hnext := (source_eq_of_getElem? hget).2.2
    change k < Lexeme.offset (Lexeme.cut source) (earlier.length + 1)
    change Lexeme.offset (Lexeme.cut source) earlier.length + lead.length = k at hstart
    rw [hnext, Lexeme.written, List.length_append, List.length_cons]
    omega
  · rw [hk, hsource, List.drop_left]
    exact List.prefix_append _ _
  · rw [hk, hsource, List.drop_length_add_append]
    exact hopen
  · exact (congrArg Token.location (Text.token_eq hsource hk rfl)).symm

/-- **Parsing loses nothing, and every location is exact.** The children of a
parsed document tile its source, so that each location is the span of the part
it belongs to, and every such span is a location. A missing closing mark is
reported, at most once, if reading comes by a `<%` that no `%>` closes. It is
reported at the first such place, and all from the last cut before it is one
text. -/
theorem parse_tiles (source : Text) :
    ∃ (children : List Node) (tiling : source.Tiling children),
      (parse source).root =
        some (.branch .document (source.span 0 source.length) [] children) ∧
      (children = [] ↔ source = []) ∧
      (∀ a b, a ≤ b → Location.between? (source.positionAt a) (source.positionAt b) =
        .ok (source.span a b)) ∧
      ((parse source).errors ≠ [] ↔ ∃ k, tiling.Reaches k ∧ source.Unclosed k) ∧
      (parse source).errors.length ≤ 1 ∧
      ∀ e ∈ (parse source).errors, ∃ i node k, i + 1 = children.length ∧
        children[i]? = some node ∧ node.kind = .text ∧ tiling.cut i ≤ k ∧
        (∀ k', tiling.Reaches k' ∧ source.Unclosed k' → k ≤ k') ∧
        tiling.Reaches k ∧ source.Unclosed k ∧
        e = ⟨unclosedKind, "ERB tag is missing its closing `%>`", source.span k (k + 2)⟩ := by
  refine ⟨_, tiling source, by rw [span_length]; rfl, ?_,
    fun a b h => Text.between?_positionAt source h, ?_⟩
  · rw [← List.length_eq_zero_iff, length_nodesFrom, List.length_eq_zero_iff]
    refine ⟨fun hnil => ?_, fun hnil => hnil ▸ rfl⟩
    rw [← Lexeme.flatMap_written_cut source, hnil, List.flatMap_nil]
  · have herrors : (parse source).errors = errorsFrom .origin (Lexeme.cut source) := rfl
    rw [herrors]
    rcases errorsFrom_eq (Lexeme.inOrder_cut source) .origin with
      ⟨hclosed, hnone⟩ | ⟨earlier, lead, tail, hcut, hopen, herror⟩
    · rw [hnone]
      refine ⟨⟨absurd rfl, ?_⟩, Nat.zero_le _, nofun⟩
      rintro ⟨k, hreaches, hunclosed⟩
      obtain ⟨i, lead, tail, hget, -⟩ := exists_dangling_of_reaches hreaches hunclosed
      exact absurd (List.mem_of_getElem? hget) (hclosed lead tail)
    · obtain ⟨hreaches, hunclosed, hstart, hspan⟩ := reaches_dangling hcut hopen rfl
      have hlength : (Lexeme.cut source).length = earlier.length + 1 := by
        rw [hcut, List.length_append, List.length_singleton]
      have hnode : (nodesFrom origin (Lexeme.cut source))[earlier.length]? =
          some (nodeAt (origin.advance (earlier.flatMap Lexeme.written))
            (.dangling lead ('<' :: '%' :: tail))) := by
        rw [getElem?_nodesFrom, hcut, List.getElem?_concat_length, List.take_left]
        rfl
      rw [herror, hspan]
      refine ⟨iff_of_true (List.cons_ne_nil _ _) ⟨_, hreaches, hunclosed⟩, Nat.le_refl _,
        fun e he => ⟨earlier.length, _, _, ?_, hnode, rfl, Nat.le.intro hstart, ?_, hreaches,
          hunclosed, List.mem_singleton.1 he⟩⟩
      · rw [length_nodesFrom, hlength]
      · -- Only the last lexeme is left dangling.
        rintro k' ⟨hreaches', hunclosed'⟩
        obtain ⟨i, lead', tail', hget, hlast, hle⟩ :=
          exists_dangling_of_reaches hreaches' hunclosed'
        obtain rfl : i = earlier.length := by omega
        rw [hcut, List.getElem?_concat_length] at hget
        cases hget
        exact hstart ▸ hle

end Document

end TemplateLint
