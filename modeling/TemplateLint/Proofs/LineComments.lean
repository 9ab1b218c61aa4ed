import TemplateLint.Proofs.Names
/-!
# Line comments — what is found without a tree

The directive of a line is looked for in the bare line: from the first mark that
opens a comment to the first one behind it that closes a tag. The tree of the line
has its ERB tags instead. A mark that opens a comment can only stand in an ERB tag,
or in one that is never closed, and what it starts is closed where the tag is
(`Directive.lineMark?_eq_head?`, by induction along the cut). So both agree on what
is read, but the line finder reads what stands in the first tag that has such a mark,
and this tag need not be a comment (`Directive.parseLine?_agrees`).
-/

namespace TemplateLint

/-! ## The tag at the start of a text -/

namespace Lexeme

/-- The mark of a comment is the only one with a number sign. -/
theorem erbMark_cases (t : Text) :
    (erbMark t).1 = ['#'] ∨ '<' ∉ (erbMark t).1 ∧ t.head? ≠ some '#' := by
  unfold erbMark
  split
  · exact .inl rfl
  · exact .inr ⟨by simp, by simp⟩
  · exact .inr ⟨by simp, by simp⟩
  · exact .inr ⟨by simp, by simp⟩
  · refine .inr ⟨List.not_mem_nil, ?_⟩
    cases t with
    | nil => simp
    | cons c t => simp_all

/-- An ERB tag ends at the first mark that closes one. -/
theorem eq_of_starting?_erb {t opening content : Text}
    (h : starting? t = some (.erb opening content)) :
    ∃ mark, opening = '<' :: '%' :: mark ∧ ¬ erbClosing <:+: content ∧
      (mark = ['#'] ∨ '<' ∉ mark ∧ (mark ++ content).head? ≠ some '#') := by
  obtain ⟨t, _, behind, -, hcut, hlexeme⟩ | ⟨_, _, -, htag⟩ | ⟨_, -, -, hlexeme⟩ :=
    exists_of_starting? h
  · cases hlexeme
    have ht : t = (erbMark t).1 ++ content ++ (erbClosing ++ behind) := by
      rw [List.append_assoc, ← Text.eq_of_cutAt? hcut, erbMark_append]
    refine ⟨(erbMark t).1, rfl, Text.not_infix_of_cutAt? (by decide) hcut, ?_⟩
    refine (erbMark_cases t).imp_right fun ⟨hmark, hhead⟩ => ⟨hmark, fun hsign => hhead ?_⟩
    rw [ht, List.head?_append, hsign, Option.some_or]
  · obtain ⟨name, rest, behind, hlexeme, -⟩ := eq_of_tagNamed? htag
    cases hlexeme
  · cases hlexeme

/-- No ERB tag starts where an HTML tag does, or in it. -/
theorem eq_of_starting?_tag {t name rest : Text} {closing : Bool}
    (h : starting? t = some (.tag closing name rest)) :
    ∃ c front, written (.tag closing name rest) = '<' :: c :: front ∧ c ≠ '%' ∧
      '<' ∉ c :: front := by
  have hchar : ∀ c, isTagStart c ∨ isTagChar c → c ≠ '%' ∧ c ≠ '<' := by
    rintro c hc
    constructor <;> rintro rfl <;> exact absurd hc (by decide +kernel)
  obtain ⟨_, _, _, -, -, hlexeme⟩ | ⟨_, _, -, htag⟩ | ⟨_, -, -, hlexeme⟩ := exists_of_starting? h
  · cases hlexeme
  · obtain ⟨_, _, _, hlexeme, -, hchars, hne, hrest⟩ := eq_of_tagNamed? htag
    cases hlexeme
    obtain ⟨c, front, rfl⟩ := List.exists_cons_of_ne_nil hne
    have hname : '<' ∉ c :: front := fun hmem => (hchar _ (hchars _ hmem)).2 rfl
    have htail : '<' ∉ c :: (front ++ rest ++ ['>']) := by
      rw [← List.cons_append, ← List.cons_append, List.mem_append, List.mem_append, not_or, not_or]
      exact ⟨⟨hname, hrest⟩, by decide⟩
    cases closing with
    | false => exact ⟨c, _, rfl, (hchar c (hchars c (.head _))).1, htail⟩
    | true =>
      refine ⟨'/', _, rfl, by decide, ?_⟩
      rw [List.mem_cons, not_or]
      exact ⟨by decide, htail⟩
  · cases hlexeme

/-- A tag that is never closed has no mark that would close it. -/
theorem eq_of_starting?_dangling {t lead rest : Text}
    (h : starting? t = some (.dangling lead rest)) :
    ∃ t', t = '<' :: '%' :: t' ∧ written (.dangling lead rest) = t ∧
      ¬ erbClosing <:+: (erbMark t').2 := by
  obtain ⟨_, _, _, -, -, hlexeme⟩ | ⟨_, _, -, htag⟩ | ⟨t', ht, hcut, hlexeme⟩ :=
    exists_of_starting? h
  · cases hlexeme
  · obtain ⟨name, rest, behind, hlexeme, -⟩ := eq_of_tagNamed? htag
    cases hlexeme
  · cases hlexeme
    exact ⟨t', ht, rfl, Text.cutAt?_eq_none_iff.1 hcut⟩

end Lexeme

/-! ## The mark that opens a comment -/

namespace Directive

/-- A comment starts with its mark. -/
theorem cutAt?_opening_comment (t : Text) :
    Text.cutAt? commentOpening (commentOpening ++ t) = some ([], t) :=
  Text.cutAt?_append List.not_mem_nil t

/-- The search passes over what no mark starts in. -/
theorem cutAt?_opening_append {front : Text} (hfront : '<' ∉ front) (t : Text) :
    Text.cutAt? commentOpening (front ++ t) =
      (Text.cutAt? commentOpening t).map fun sides => (front ++ sides.1, sides.2) := by
  refine Text.cutAt?_append_of_forall fun last hne hlast ⟨rest, hrest⟩ => ?_
  obtain ⟨c, last, rfl⟩ := List.exists_cons_of_ne_nil hne
  have hc : '<' = c := congrArg (·.headI) hrest
  exact hfront (hc ▸ hlast.subset (.head _))

/-- And over a sign that starts none. -/
theorem cutAt?_opening_cons {front t : Text} (hfront : '<' ∉ front)
    (h : ∀ rest, front ++ t ≠ '%' :: '#' :: rest) :
    Text.cutAt? commentOpening ('<' :: front ++ t) =
      (Text.cutAt? commentOpening t).map fun sides => ('<' :: front ++ sides.1, sides.2) := by
  have hnone : Text.after? commentOpening ('<' :: (front ++ t)) = none := by
    refine Text.after?_eq_none_iff.2 fun rest hrest => h rest ?_
    injection hrest
  rw [List.cons_append, Text.cutAt?, hnone, cutAt?_opening_append hfront, Option.map_map]
  rfl

/-- And over the mark of a tag that is no comment. -/
theorem cutAt?_opening_erb {mark : Text} (hmark : '<' ∉ mark) {t : Text}
    (hhead : (mark ++ t).head? ≠ some '#') :
    Text.cutAt? commentOpening ('<' :: '%' :: mark ++ t) =
      (Text.cutAt? commentOpening t).map fun sides => ('<' :: '%' :: mark ++ sides.1, sides.2) := by
  refine cutAt?_opening_cons (by simpa using hmark) fun rest hrest => hhead ?_
  have hsign : mark ++ t = '#' :: rest := (List.cons.inj hrest).2
  rw [hsign]
  rfl

/-- A closing mark ends the search for one. -/
theorem cutAt?_closing {content : Text} (h : ¬ commentClosing <:+: content) (behind : Text) :
    Text.cutAt? commentClosing (content ++ (commentClosing ++ behind)) =
      some (content, behind) := by
  have hpass : ∀ last, last ≠ [] → last <:+ content →
      ¬ commentClosing <+: last ++ (commentClosing ++ behind) := by
    rintro last hne hlast ⟨rest, hrest⟩
    match last with
    | [] => exact hne rfl
    | [_] => simp [commentClosing] at hrest
    | a :: b :: last =>
      injection hrest with ha hrest
      injection hrest with hb hrest
      refine h (List.IsInfix.trans ?_ hlast.isInfix)
      rw [← ha, ← hb]
      exact ⟨[], last, rfl⟩
  have hhere : Text.cutAt? commentClosing (commentClosing ++ behind) = some ([], behind) :=
    Text.cutAt?_append List.not_mem_nil behind
  rw [Text.cutAt?_append_of_forall hpass, hhere, Option.map_some, List.append_nil]

/-- No mark of a comment starts in what a tag has, or in the mark behind it. -/
theorem cutAt?_opening_content {content : Text} (h : ¬ commentOpening <:+: content) (t : Text) :
    Text.cutAt? commentOpening (content ++ commentClosing ++ t) =
      (Text.cutAt? commentOpening t).map fun sides =>
        (content ++ commentClosing ++ sides.1, sides.2) := by
  refine Text.cutAt?_append_of_forall fun last hne hlast hprefix => ?_
  have hends : last <:+ content ++ ['%'] ++ ['>'] := by
    rwa [List.append_assoc]
  obtain ⟨last, rfl, hpercent⟩ := (List.suffix_concat_iff.1 hends).resolve_left hne
  rcases List.suffix_concat_iff.1 hpercent with rfl | ⟨last, rfl, hinside⟩
  · exact absurd hprefix (by simp [commentOpening])
  obtain ⟨rest, hrest⟩ := hprefix
  -- A mark that starts in the last two characters of the content would run into the closing one.
  match last with
  | [] | [_] | [_, _] => simp [commentOpening] at hrest
  | a :: b :: c :: last =>
    injection hrest with ha hrest
    injection hrest with hb hrest
    injection hrest with hc hrest
    refine h (List.IsInfix.trans ?_ hinside.isInfix)
    rw [← ha, ← hb, ← hc]
    exact ⟨[], last, rfl⟩

/-! ## What the line finder reads -/

/-- The text between the first mark of a line that opens a comment and the first
behind it that closes a tag, with its offset. -/
def lineMark? (line : Text) : Option (Nat × Text) :=
  (Text.cutAt? commentOpening line).bind fun sides =>
    (Text.cutAt? commentClosing sides.2).map fun inner =>
      (sides.1.length + commentOpening.length, inner.1)

theorem parseLine?_eq (line : Text) :
    parseLine? line = (lineMark? line).bind fun m => (parse? m.2).map (·.shift m.1) := by
  rw [parseLine?, lineMark?, Option.bind_assoc]
  refine Option.bind_congr fun sides _ => ?_
  cases hclosing : Text.cutAt? commentClosing sides.2 with
  | none => simp [hclosing]
  | some inner => cases hparse : parse? inner.1 <;> simp [hclosing, hparse]

/-- What is read behind something that the search passes over. -/
theorem lineMark?_of_cutAt? {front line t : Text}
    (h : Text.cutAt? commentOpening line =
      (Text.cutAt? commentOpening t).map fun sides => (front ++ sides.1, sides.2)) :
    lineMark? line = (lineMark? t).map fun m => (front.length + m.1, m.2) := by
  rw [lineMark?, h, lineMark?]
  cases Text.cutAt? commentOpening t with
  | none => rfl
  | some sides =>
    cases hclosing : Text.cutAt? commentClosing sides.2 <;> simp [hclosing, Nat.add_assoc]

/-- A comment that the text in front opens is closed by the next mark. -/
theorem lineMark?_closed {t before content : Text}
    (h : Text.cutAt? commentOpening t = some (before, content))
    (hclosed : ¬ commentClosing <:+: content) (behind : Text) :
    lineMark? (t ++ (commentClosing ++ behind)) =
      some (before.length + commentOpening.length, content) := by
  rw [lineMark?, Text.cutAt?_append_of_some h, Option.bind_some, cutAt?_closing hclosed]
  rfl

/-- What stands behind the mark of a comment in an ERB tag is a part of its content. -/
theorem infix_of_cutAt?_opening {mark content before inner : Text}
    (hmark : mark = ['#'] ∨ '<' ∉ mark ∧ (mark ++ content).head? ≠ some '#')
    (h : Text.cutAt? commentOpening ('<' :: '%' :: mark ++ content) = some (before, inner)) :
    inner <:+: content := by
  rcases hmark with rfl | ⟨hmark, hhead⟩
  · obtain ⟨-, rfl⟩ := Prod.mk.inj (Option.some.inj ((cutAt?_opening_comment content).symm.trans h))
    exact List.infix_rfl
  · rw [cutAt?_opening_erb hmark hhead] at h
    obtain ⟨sides, hsides, hsame⟩ := Option.map_eq_some_iff.1 h
    cases hsame
    exact ⟨sides.1 ++ commentOpening, [], by simp [Text.eq_of_cutAt? hsides]⟩

end Directive

/-! ## Lexemes, as the line finder meets them -/

namespace Lexeme

open Directive

variable {behind : Text}

/-- In an ERB tag with a mark, it reads what stands behind the mark. -/
theorem lineMark?_marked {opening content before inner : Text}
    (h : starting? (written (.erb opening content) ++ behind) = some (.erb opening content))
    (hmark : Text.cutAt? commentOpening (opening ++ content) = some (before, inner)) :
    lineMark? (written (.erb opening content) ++ behind) =
      some (before.length + commentOpening.length, inner) := by
  obtain ⟨mark, rfl, hclosed, hkind⟩ := eq_of_starting?_erb h
  have hinner : ¬ commentClosing <:+: inner :=
    fun hpart => hclosed (hpart.trans (infix_of_cutAt?_opening hkind hmark))
  rw [written, List.append_assoc]
  exact lineMark?_closed hmark hinner behind

/-- It passes over an ERB tag without one. -/
theorem lineMark?_unmarked {opening content : Text}
    (h : starting? (written (.erb opening content) ++ behind) = some (.erb opening content))
    (hmark : Text.cutAt? commentOpening (opening ++ content) = none) :
    lineMark? (written (.erb opening content) ++ behind) =
      (lineMark? behind).map fun m => ((written (.erb opening content)).length + m.1, m.2) := by
  obtain ⟨mark, rfl, -, ⟨rfl⟩ | ⟨hsign, hhead⟩⟩ := eq_of_starting?_erb h
  · cases (cutAt?_opening_comment content).symm.trans hmark
  have hnone : ¬ commentOpening <:+: content := by
    rw [cutAt?_opening_erb hsign hhead, Option.map_eq_none_iff] at hmark
    exact Text.cutAt?_eq_none_iff.1 hmark
  have hhead' : (mark ++ (content ++ commentClosing ++ behind)).head? ≠ some '#' := by
    rw [List.append_assoc, ← List.append_assoc, List.head?_append]
    cases hsome : (mark ++ content).head? with
    | none => simp [commentClosing]
    | some c => rwa [Option.some_or, ← hsome]
  refine lineMark?_of_cutAt? ?_
  calc Text.cutAt? commentOpening (written (.erb ('<' :: '%' :: mark) content) ++ behind)
    _ = Text.cutAt? commentOpening
          ('<' :: '%' :: mark ++ (content ++ commentClosing ++ behind)) := by
      simp [written, commentClosing, erbClosing]
    _ = _ := by
      rw [cutAt?_opening_erb hsign hhead', cutAt?_opening_content hnone, Option.map_map]
      simp [Function.comp_def, written, commentClosing, erbClosing]

/-- It passes over an HTML tag. -/
theorem lineMark?_tag {closing : Bool} {name rest : Text}
    (h : starting? (written (.tag closing name rest) ++ behind) = some (.tag closing name rest)) :
    lineMark? (written (.tag closing name rest) ++ behind) =
      (lineMark? behind).map fun m => ((written (.tag closing name rest)).length + m.1, m.2) := by
  obtain ⟨c, front, hwritten, hc, hfront⟩ := eq_of_starting?_tag h
  rw [hwritten]
  exact lineMark?_of_cutAt?
    (cutAt?_opening_cons hfront fun rest hrest => hc (List.cons.inj hrest).1)

/-- It finds nothing in a tag that is never closed. -/
theorem lineMark?_dangling {t lead rest : Text} (h : starting? t = some (.dangling lead rest)) :
    lineMark? t = none := by
  obtain ⟨t, rfl, -, hclosed⟩ := eq_of_starting?_dangling h
  have hkind : (erbMark t).1 = ['#'] ∨
      '<' ∉ (erbMark t).1 ∧ ((erbMark t).1 ++ (erbMark t).2).head? ≠ some '#' := by
    rw [erbMark_append]
    exact erbMark_cases t
  rw [← erbMark_append t, lineMark?, Option.bind_eq_none_iff]
  intro sides hsides
  have hinner : ¬ commentClosing <:+: sides.2 :=
    fun hpart => hclosed (hpart.trans (infix_of_cutAt?_opening hkind hsides))
  rw [Text.cutAt?_eq_none_iff.2 hinner]
  rfl

end Lexeme

/-! ## The tree -/

/-- What stands in an ERB tag behind the first mark of a comment in it, with the column
it starts at if the tag is on one line. -/
def Node.marked? : Node → Option (Nat × Text)
  | .leaf (.erb (some opening) (some content) _) location _ =>
    (Text.cutAt? Directive.commentOpening (opening.value ++ content.value)).map fun sides =>
      (location.start.column + (sides.1.length + Directive.commentOpening.length), sides.2)
  | _ => none

namespace Document

open Directive Lexeme

/-- A character in front of some lexemes marks nothing. -/
theorem filterMap_marked?_consText (p : Position) (c : Char) (lexemes : List Lexeme) :
    (nodesFrom p (consText c lexemes)).filterMap Node.marked? =
      (nodesFrom (p.step c) lexemes).filterMap Node.marked? := by
  unfold consText
  split <;> rfl

/-- What is read behind a lexeme that marks nothing. -/
theorem head?_filterMap_marked?_cons {p : Position} {lexeme : Lexeme} {behind : Text}
    {lexemes : List Lexeme} (hline : '\n' ∉ lexeme.written)
    (hnone : (nodeAt p lexeme).marked? = none)
    (hpass : lineMark? (lexeme.written ++ behind) =
      (lineMark? behind).map fun m => (lexeme.written.length + m.1, m.2))
    (ih : ∀ p : Position, (lineMark? behind).map (fun m => (p.column + m.1, m.2)) =
      ((nodesFrom p lexemes).filterMap Node.marked?).head?) :
    (lineMark? (lexeme.written ++ behind)).map (fun m => (p.column + m.1, m.2)) =
      ((nodesFrom p (lexeme :: lexemes)).filterMap Node.marked?).head? := by
  rw [nodesFrom, List.filterMap_cons_none hnone, ← ih, hpass, Option.map_map,
    Position.advance_of_newline_notMem hline]
  simp [Function.comp_def, Position.right, Nat.add_assoc]

/-- **The line finder reads what the first marked tag of the tree has.** -/
theorem lineMark?_eq_head? {line : Text} (h : '\n' ∉ line) (p : Position) :
    (lineMark? line).map (fun m => (p.column + m.1, m.2)) =
      ((nodesFrom p (cut line)).filterMap Node.marked?).head? := by
  induction line using cut_induction generalizing p with
  | nil => rfl
  | lexeme lexeme behind hstart ih =>
    rw [List.mem_append, not_or] at h
    cases lexeme with
    | text content =>
      obtain ⟨_, _, _, hlexeme, -⟩ | ⟨_, _, _, _, hlexeme, -⟩ | ⟨_, hlexeme, -⟩ :=
        starting?_cases hstart <;> cases hlexeme
    | tag closing name rest =>
      have hnone : (nodeAt p (.tag closing name rest)).marked? = none := by cases closing <;> rfl
      exact head?_filterMap_marked?_cons h.1 hnone (lineMark?_tag hstart) (ih h.2)
    | erb opening content =>
      cases hmark : Text.cutAt? commentOpening (opening ++ content) with
      | none =>
        have hnone : (nodeAt p (.erb opening content)).marked? = none :=
          Option.map_eq_none_iff.2 hmark
        exact head?_filterMap_marked?_cons h.1 hnone (lineMark?_unmarked hstart hmark) (ih h.2)
      | some sides =>
        have hsome : (nodeAt p (.erb opening content)).marked? =
            some (p.column + (sides.1.length + commentOpening.length), sides.2) :=
          Option.map_eq_some_iff.2 ⟨sides, hmark, rfl⟩
        rw [lineMark?_marked hstart hmark, nodesFrom, List.filterMap_cons_some hsome]
        rfl
    | dangling lead rest =>
      -- Nothing is behind it.
      obtain ⟨t, -, hwritten, -⟩ := eq_of_starting?_dangling hstart
      obtain rfl : behind = [] := List.self_eq_append_right.1 hwritten
      rw [lineMark?_dangling hstart]
      rfl
  | char c t hstart ih =>
    rw [List.mem_cons, not_or] at h
    have hnone : Text.after? commentOpening (c :: t) = none := by
      refine Text.after?_eq_none_iff.2 fun rest hrest => ?_
      rw [hrest] at hstart
      exact starting?_ne_none ('#' :: rest) hstart
    have hpass : lineMark? (c :: t) = (lineMark? t).map fun m => ([c].length + m.1, m.2) :=
      lineMark?_of_cutAt? (by rw [Text.cutAt?, hnone]; rfl)
    rw [filterMap_marked?_consText, ← ih h.2, hpass, Option.map_map, Position.step,
      if_neg (Ne.symm h.1)]
    simp [Function.comp_def, Nat.add_assoc]

/-- The line finder reads the directive that the first marked tag of the tree has. -/
theorem parseLine?_eq_bind_head? {line : Text} (h : '\n' ∉ line) :
    parseLine? line = ((parse line).nodes.filterMap Node.marked?).head?.bind fun m =>
      (parse? m.2).map (·.shift m.1) := by
  have hmark : lineMark? line = ((nodesFrom .origin (cut line)).filterMap Node.marked?).head? := by
    simpa [Position.origin] using lineMark?_eq_head? h .origin
  rw [parseLine?_eq, hmark, nodes_parse, List.filterMap_cons_none rfl]

/-- What is marked in a comment is its content. -/
theorem marked?_of_comment? {source : Text} {node : Node} (hnode : node ∈ (parse source).nodes)
    {c : Comment} (hc : node.comment? = some c) :
    node.marked? = some (c.content.location.start.column, c.content.value) := by
  obtain ⟨content, hcontent, rfl⟩ := Option.map_eq_some_iff.1 hc
  rw [nodes_parse] at hnode
  rcases List.mem_cons.1 hnode with rfl | hnode
  · cases hcontent
  obtain ⟨earlier, lexeme, later, -, rfl⟩ := mem_nodesFrom.1 hnode
  generalize Position.origin.advance (earlier.flatMap written) = p at hcontent ⊢
  cases lexeme with
  | text | dangling => cases hcontent
  | tag closing name rest => cases closing <;> cases hcontent
  | erb opening inner =>
    obtain ⟨rfl, hsome⟩ : opening = commentOpening ∧ _ = some content :=
      Option.ite_none_right_eq_some.1 hcontent
    cases hsome
    have hcolumn : (p.advance commentOpening).column = p.column + commentOpening.length := by
      rw [Position.advance_of_newline_notMem (by decide)]
      rfl
    have hmarked : (nodeAt p (.erb commentOpening inner)).marked? =
        (Text.cutAt? commentOpening (commentOpening ++ inner)).map fun sides =>
          (p.column + (sides.1.length + commentOpening.length), sides.2) := rfl
    rw [hmarked, cutAt?_opening_comment, Option.map_some, List.length_nil, Nat.zero_add, ← hcolumn]
    rfl

/-- A marked tag with the mark of a comment is a comment. -/
theorem isSome_comment?_of_marked? {node : Node} (hmarked : node.marked? ≠ none)
    (hcomment : node.isComment) : node.comment?.isSome := by
  unfold Node.marked? at hmarked
  split at hmarked
  · rename_i opening content closing location errors
    have hopening : opening.value = commentOpening := beq_iff_eq.1 hcomment
    simp [Node.comment?, Node.commentToken?, hopening]
  · exact absurd rfl hmarked

/-- Where only comments are marked, the marked tags are the comments. -/
theorem filterMap_marked?_eq {source : Text}
    (h : ∀ node ∈ (parse source).nodes, node.marked? ≠ none → node.isComment) :
    (parse source).nodes.filterMap Node.marked? =
      ((parse source).nodes.filterMap Node.comment?).map fun c =>
        (c.content.location.start.column, c.content.value) := by
  rw [List.map_filterMap]
  refine List.filterMap_congr fun node hnode => ?_
  cases hc : node.comment? with
  | some c => exact marked?_of_comment? hnode hc
  | none =>
    by_contra hmarked
    have hsome := isSome_comment?_of_marked? hmarked (h node hnode hmarked)
    rw [hc] at hsome
    cases hsome

theorem disableComments_eq_filterMap (d : Document) :
    d.disableComments = (d.nodes.filterMap Node.comment?).filterMap Comment.disabling? := by
  cases hroot : d.root with
  | none => simp [disableComments, nodes, hroot]
  | some root =>
    simp only [disableComments, nodes, hroot, Option.elim_some, Node.disableComments_eq_filterMap,
      Node.comments_eq_filterMap]

end Document

namespace Directive

/-- **The line finder and the tree.** What is marked in an ERB tag is the text behind
its first mark of a comment; in a comment it is the content. The line finder returns
the directive that the first marked text of a line is, with its names moved to where
the text starts, and nothing if no marked text is a directive. So if only comments are
marked, it returns the first comment that suppresses rules, if it is the first comment,
and nothing if there is none. -/
theorem parseLine?_agrees {line : Text} (h : '\n' ∉ line) :
    let d := Document.parse line
    let marked := d.nodes.filterMap Node.marked?
    (∀ column content directive, marked.head? = some (column, content) →
      parse? content = some directive → parseLine? line = some (directive.shift column)) ∧
    ((∀ m ∈ marked, parse? m.2 = none) → parseLine? line = none) ∧
    (∀ node ∈ d.nodes, ∀ c, node.comment? = some c →
      node.marked? = some (c.content.location.start.column, c.content.value)) ∧
    ((∀ node ∈ d.nodes, node.marked? ≠ none → node.isComment) →
      (∀ c, d.disableComments.head? = some c →
        (d.nodes.filterMap Node.comment?).head? = some c.toComment →
        parseLine? line = some (c.directive.shift c.content.location.start.column)) ∧
      (d.disableComments = [] → parseLine? line = none)) ∧
    ∀ (directive : Directive) column, (directive.shift column).ruleNames = directive.ruleNames ∧
      (directive.shift column).rulesText = directive.rulesText ∧
      (directive.shift column).names = directive.names.map (·.shift column) := by
  intro d marked
  have hline : parseLine? line = marked.head?.bind fun m => (parse? m.2).map (·.shift m.1) :=
    Document.parseLine?_eq_bind_head? h
  have hsome : ∀ column content directive, marked.head? = some (column, content) →
      parse? content = some directive → parseLine? line = some (directive.shift column) := by
    intro column content directive hhead hdirective
    rw [hline, hhead, Option.bind_some, hdirective, Option.map_some]
  have hnone : (∀ m ∈ marked, parse? m.2 = none) → parseLine? line = none := by
    intro hall
    rw [hline, Option.bind_eq_none_iff]
    intro m hm
    rw [hall m (List.mem_of_mem_head? hm), Option.map_none]
  refine ⟨hsome, hnone, fun node hnode c hc => Document.marked?_of_comment? hnode hc,
    fun hcomments => ?_, fun directive column => ⟨?_, rfl, rfl⟩⟩
  · have hmarked : marked = (d.nodes.filterMap Node.comment?).map _ :=
      Document.filterMap_marked?_eq hcomments
    have hdisabling := d.disableComments_eq_filterMap
    refine ⟨fun c hc hfirst => ?_, fun hempty => hnone fun m hm => ?_⟩
    · have hdirective : parse? c.content.value = some c.directive := by
        have hmem := List.mem_of_mem_head? hc
        rw [hdisabling] at hmem
        obtain ⟨comment, -, hcomment⟩ := List.mem_filterMap.1 hmem
        obtain ⟨directive, hdirective, rfl⟩ := Option.map_eq_some_iff.1 hcomment
        exact hdirective
      refine hsome _ c.content.value _ ?_ hdirective
      rw [hmarked, List.head?_map, hfirst]
      rfl
    · rw [hmarked] at hm
      obtain ⟨c, hc, rfl⟩ := List.mem_map.1 hm
      rw [hdisabling, List.filterMap_eq_nil_iff] at hempty
      exact Option.map_eq_none_iff.1 (hempty c hc)
  · simp [ruleNames, shift, Function.comp_def, NameSpan.shift]

/-- Behind a tag and before another, the first comment of a line is found with its
names where they stand in the line. -/
theorem parseLine?_agrees_betweenTags :
    let line : Text := "<b> <%# herb:disable a, b %><%= c %>".toList
    '\n' ∉ line ∧ ∃ c, (Document.parse line).disableComments.head? = some c ∧
      c.directive = ⟨[⟨"a", 14, 1⟩, ⟨"b", 17, 1⟩], "a, b".toList⟩ ∧
      parseLine? line = some ⟨[⟨"a", 21, 1⟩, ⟨"b", 24, 1⟩], "a, b".toList⟩ := by
  intro line
  have h : '\n' ∉ line := by decide
  obtain ⟨-, -, -, hcomments, -⟩ := parseLine?_agrees h
  obtain ⟨hfirst, -⟩ := hcomments (by decide +kernel)
  have hsome : ∃ c ∈ (Document.parse line).disableComments.head?,
      ((Document.parse line).nodes.filterMap Node.comment?).head? = some c.toComment ∧
      c.directive = ⟨[⟨"a", 14, 1⟩, ⟨"b", 17, 1⟩], "a, b".toList⟩ ∧
      c.content.location.start.column = 7 := by
    decide +kernel
  obtain ⟨c, hc, hcomment, hdirective, hcolumn⟩ := hsome
  refine ⟨h, c, hc, hdirective, ?_⟩
  rw [hfirst c hc hcomment, hdirective, hcolumn]
  rfl

/-- **A tag need not be a comment to be marked.** The tree of the line has no comment,
but a string in its tag looks like one, and the line finder returns its directive. -/
theorem parseLine?_of_no_comment :
    let line : Text := "<%= \"<%# herb:disable a %>".toList
    '\n' ∉ line ∧ (Document.parse line).disableComments = [] ∧
      parseLine? line = some ⟨[⟨"a", 22, 1⟩], "a".toList⟩ := by
  decide +kernel

end Directive

end TemplateLint
