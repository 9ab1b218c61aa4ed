import TemplateLint.Directive.Comment
import TemplateLint.Proofs.Comments
import TemplateLint.Proofs.Grammar
import TemplateLint.Proofs.Offsets
import TemplateLint.Proofs.Tiling
import TemplateLint.Proofs.Tree
/-!
# Names — where the names of a directive stand

Every name of a directive is kept with its offset in the content of the
comment, and that is where it stands (`Directive.exists_of_mem_names`). The
content is a part of the source, so that a name has a place in the source, too.
It is reported at this place as long as no newline stands between the start of
the content and the name, and else on another line, since a name is placed on
the line the content starts on (`Document.nameLocation_eq_span_iff`).
-/

namespace TemplateLint

/-! ## Names in a content -/

namespace Directive

/-- The names among some pieces, each with what stands before it. -/
theorem mem_namesFrom {offset : Nat} {pieces : List (Bool × Text)} {span : NameSpan} :
    span ∈ namesFrom offset pieces ↔
      ∃ earlier name later, pieces = earlier ++ (true, name) :: later ∧
        span = ⟨String.ofList name, offset + (earlier.flatMap (·.2)).length, name.length⟩ := by
  induction pieces generalizing offset with
  | nil => simp [namesFrom]
  | cons piece pieces ih =>
    obtain ⟨inside, run⟩ := piece
    rw [namesFrom, List.mem_append, ih]
    constructor
    · rintro (hfirst | ⟨earlier, name, later, rfl, rfl⟩)
      · split at hfirst
        · rename_i hinside
          cases hinside
          exact ⟨[], run, pieces, rfl, List.mem_singleton.1 hfirst⟩
        · cases hfirst
      · refine ⟨(inside, run) :: earlier, name, later, rfl, ?_⟩
        rw [List.flatMap_cons, List.length_append, Nat.add_assoc]
    · rintro ⟨earlier, name, later, hpieces, rfl⟩
      rcases List.cons_eq_append_iff.1 hpieces with ⟨rfl, hsame⟩ | ⟨earlier, rfl, rfl⟩
      · cases hsame
        exact .inl (List.mem_singleton_self _)
      · refine .inr ⟨earlier, name, later, rfl, ?_⟩
        rw [List.flatMap_cons, List.length_append, Nat.add_assoc]

/-- **A name stands where the directive says.** -/
theorem exists_of_mem_names {content : Text} {directive : Directive}
    (h : parse? content = some directive) {span : NameSpan} (hspan : span ∈ directive.names) :
    ∃ before name behind, content = before ++ (name ++ behind) ∧ IsName name ∧
      span = ⟨String.ofList name, before.length, name.length⟩ := by
  obtain ⟨w, rfl⟩ := exists_written h
  obtain rfl := Option.some.inj (w.parse?_text.symm.trans h)
  obtain ⟨earlier, name, later, hpieces, rfl⟩ := mem_namesFrom.1 hspan
  have htext : w.list.text = earlier.flatMap (·.2) ++ (name ++ later.flatMap (·.2)) := by
    rw [← NameList.flatMap_pieces, hpieces, List.flatMap_append, List.flatMap_cons]
  refine ⟨w.lead ++ (keyword ++ w.gap) ++ earlier.flatMap (·.2), name,
    later.flatMap (·.2) ++ w.tail, ?_, ?_, ?_⟩
  · rw [Written.text, htext]
    simp
  · exact isName_iff.2 (w.list.areRuns_pieces.pure (true, name) (by simp [hpieces]))
  · rw [← List.length_append]

end Directive

/-! ## Names in a source -/

/-- Text without a newline is read on one line. -/
theorem Position.advance_of_newline_notMem {t : Text} (h : '\n' ∉ t) (p : Position) :
    p.advance t = p.right t.length := by
  induction t generalizing p with
  | nil => rfl
  | cons c t ih =>
    rw [List.mem_cons, not_or] at h
    rw [advance_cons, ih h.2, step, if_neg (Ne.symm h.1)]
    simp [right, Nat.add_assoc, Nat.add_comm 1]

/-- On one line, columns count what is read. -/
theorem Location.columns_eq_reading {before piece : Text} (hbefore : '\n' ∉ before)
    (hpiece : '\n' ∉ piece) {p : Position} :
    columns p before.length piece.length = reading (p.advance before) piece := by
  simp only [columns, reading, Position.advance_of_newline_notMem hbefore,
    Position.advance_of_newline_notMem hpiece, Position.right, Nat.add_assoc]

/-- Behind a newline, they do not: what is read there is on a later line. -/
theorem Location.columns_eq_reading_iff {before piece : Text} (hpiece : '\n' ∉ piece)
    {p : Position} :
    columns p before.length piece.length = reading (p.advance before) piece ↔ '\n' ∉ before := by
  refine ⟨fun heq hmem => ?_, fun hbefore => columns_eq_reading hbefore hpiece⟩
  have hline : p.line = (p.advance before).line := congrArg (fun l => l.start.line) heq
  have hcount : 0 < before.count '\n' := List.count_pos_iff.2 hmem
  rw [Text.line_advance] at hline
  omega

theorem newline_notMem_of_isName {name : Text} (h : Directive.IsName name) : '\n' ∉ name :=
  fun hmem => absurd (h.2 _ hmem).1 (by decide)

namespace Text

/-- A source with a part of it set apart. -/
theorem eq_take_append_token {source : Text} {first last : Nat} (hle : first ≤ last) :
    source = source.take first ++ ((source.token first last).value ++ source.drop last) := by
  have hdrop : source.drop last = (source.drop first).drop (last - first) := by
    rw [List.drop_drop, Nat.add_sub_cancel' hle]
  rw [token, List.extract_eq_take_drop, hdrop, List.take_append_drop, List.take_append_drop]

/-- **The place of a name.** A name of a directive that a part of the source is
read as stands at its offset in that part, and is reported there if, and only
if, no newline comes before it. -/
theorem nameLocation_token {source : Text} {first last : Nat} (hle : first ≤ last)
    (hlast : last ≤ source.length) {directive : Directive}
    (h : Directive.parse? (source.token first last).value = some directive) {span : NameSpan}
    (hspan : span ∈ directive.names) :
    first + span.stop ≤ last ∧
      source.extract (first + span.offset) (first + span.stop) = span.name.toList ∧
      ((source.token first last).nameLocation span =
          source.span (first + span.offset) (first + span.stop) ↔
        '\n' ∉ (source.token first last).value.take span.offset) := by
  obtain ⟨before, name, behind, hcontent, hname, rfl⟩ := Directive.exists_of_mem_names h hspan
  have hfirst : first = (source.take first).length := by
    rw [List.length_take, Nat.min_eq_left (Nat.le_trans hle hlast)]
  have hall : source = source.take first ++ ((source.token first last).value ++ source.drop last) :=
    eq_take_append_token hle
  have hsource : source =
      (source.take first ++ before) ++ (name ++ (behind ++ source.drop last)) := by
    simpa [hcontent] using hall
  have hlength : last = first + (before ++ (name ++ behind)).length := by
    rw [← hcontent, token, List.extract_eq_take_drop, List.length_take, List.length_drop]
    omega
  have hstart : (source.token first last).location.start =
      Position.origin.advance (source.take first) := by
    rw [token_eq hall hfirst (hcontent ▸ hlength)]
    rfl
  have hplace : source.token (first + before.length) (first + before.length + name.length) =
      ⟨name, .reading (Position.origin.advance (source.take first ++ before)) name⟩ :=
    token_eq hsource (by rw [List.length_append, ← hfirst]) rfl
  refine ⟨?_, ?_, ?_⟩
  · simp only [NameSpan.stop, hlength, List.length_append]
    omega
  · rw [NameSpan.stop, ← Nat.add_assoc, String.toList_ofList]
    exact congrArg Token.value hplace
  · have hspot : source.span (first + before.length) (first + (before.length + name.length)) =
        .reading ((Position.origin.advance (source.take first)).advance before) name := by
      rw [← Nat.add_assoc, ← Position.advance_append]
      exact congrArg Token.location hplace
    rw [hcontent, List.take_left, NameSpan.stop, hspot, Token.nameLocation, hstart]
    exact Location.columns_eq_reading_iff (newline_notMem_of_isName hname)

end Text

/-! ## The comments of a parsed source -/

/-- The comments that suppress rules, in the order of reading. -/
def Document.disableComments (d : Document) : List DisableComment :=
  d.root.elim [] Node.disableComments

namespace Node

/-- The comments of a tree, in the order of reading. -/
theorem comments_eq_filterMap (root : Node) : root.comments = root.preorder.filterMap comment? := by
  refine filterMap_skipped_erb (fun node c hc => ?_) root
  obtain ⟨content, hcontent, -⟩ := Option.map_eq_some_iff.1 hc
  exact kind_of_commentToken? hcontent

/-- **The two ways to find the comments that suppress rules agree.** -/
theorem disableComments_eq_filterMap (root : Node) :
    root.disableComments = root.comments.filterMap Comment.disabling? := by
  rw [comments_eq_filterMap, List.filterMap_filterMap, disableComments, listing_eq_preorders,
    preorders_singleton]

/-- A comment that covers a part of a source has its content from there. -/
theorem Covers.exists_content {source : Text} {a b : Nat} {node : Node}
    (h : node.Covers source a b) {c : Comment} (hc : node.comment? = some c) :
    c.location = source.span a b ∧
      ∃ first last, a ≤ first ∧ first ≤ last ∧ last ≤ b ∧ c.content = source.token first last := by
  cases h with
  | text | openTag | closeTag => cases hc
  | @erb first last opening content closing =>
    obtain ⟨token, htoken, rfl⟩ := Option.map_eq_some_iff.1 hc
    simp only [commentToken?, Option.ite_none_right_eq_some, Option.some.injEq] at htoken
    exact ⟨rfl, first, last, opening.1, content.1, closing.1, htoken.2.symm⟩

end Node

namespace Document

theorem mem_disableComments {d : Document} {c : DisableComment} :
    c ∈ d.disableComments ↔
      ∃ node ∈ d.nodes, node.comment?.bind Comment.disabling? = some c := by
  cases hroot : d.root with
  | none => simp [disableComments, nodes, hroot]
  | some root =>
    simp only [disableComments, nodes, hroot, Option.elim_some, Node.disableComments,
      Node.listing_eq_preorders, Node.preorders_singleton, List.mem_filterMap]

/-- A node of the parsed document other than the root covers a part of the
source. -/
theorem exists_covers {source : Text} {node : Node}
    (h : node ∈ nodesFrom .origin (Lexeme.cut source)) :
    ∃ a b, b ≤ source.length ∧ node.Covers source a b := by
  obtain ⟨i, hi⟩ := List.mem_iff_getElem?.1 h
  have hcovers := ((tiling source).covers i node hi).2
  rw [getElem?_nodesFrom] at hi
  obtain ⟨lexeme, hlexeme, -⟩ := Option.map_eq_some_iff.1 hi
  obtain ⟨-, hsource, hnext⟩ := source_eq_of_getElem? hlexeme
  refine ⟨_, _, ?_, hcovers⟩
  have hlength := congrArg List.length hsource
  rw [List.length_append, List.length_append] at hlength
  change Lexeme.offset (Lexeme.cut source) (i + 1) ≤ source.length
  rw [hnext, Lexeme.offset]
  omega

/-- **Where the comments of a parsed source lie.** Each covers a part of the
source, its content is a part of that, and its directive is what the content is
read as. -/
theorem exists_of_mem_disableComments {source : Text} {c : DisableComment}
    (h : c ∈ (parse source).disableComments) :
    ∃ a first last b, a ≤ first ∧ first ≤ last ∧ last ≤ b ∧ b ≤ source.length ∧
      c.location = source.span a b ∧ c.content = source.token first last ∧
      Directive.parse? c.content.value = some c.directive := by
  obtain ⟨node, hnode, hc⟩ := mem_disableComments.1 h
  obtain ⟨comment, hcomment, hdisabling⟩ := Option.bind_eq_some_iff.1 hc
  obtain ⟨directive, hdirective, rfl⟩ := Option.map_eq_some_iff.1 hdisabling
  have hmem : node ∈ nodesFrom .origin (Lexeme.cut source) := by
    rw [nodes_parse] at hnode
    refine (List.mem_cons.1 hnode).resolve_left ?_
    rintro rfl
    cases hcomment
  obtain ⟨a, b, hb, hcovers⟩ := exists_covers hmem
  obtain ⟨hlocation, first, last, hfirst, hlast, hend, hcontent⟩ := hcovers.exists_content hcomment
  exact ⟨a, first, last, b, hfirst, hlast, hend, hb, hlocation, hcontent, hdirective⟩

/-- **Where the names of a comment are reported.** The content of a comment starts
at an offset of the source, and each name of the comment stands at its own
offset from there. It is reported at the place where it stands, unless a newline
comes before it in the content. -/
theorem nameLocation_eq_span_iff {source : Text} {c : DisableComment}
    (hc : c ∈ (parse source).disableComments) {span : NameSpan}
    (hspan : span ∈ c.directive.names) :
    ∃ o ≤ source.length,
      (∀ o' ≤ source.length, source.positionAt o' = c.content.location.start ↔ o' = o) ∧
      source.extract o (o + c.content.value.length) = c.content.value ∧
      source.extract (o + span.offset) (o + span.stop) = span.name.toList ∧
      (c.nameLocation span = source.span (o + span.offset) (o + span.stop) ↔
        '\n' ∉ c.content.value.take span.offset) := by
  obtain ⟨-, first, last, b, -, hle, hend, hb, -, hcontent, hdirective⟩ :=
    exists_of_mem_disableComments hc
  have hlast : last ≤ source.length := Nat.le_trans hend hb
  have hstart : c.content.location.start = source.positionAt first := by
    rw [hcontent]
    rfl
  have hlength : first + c.content.value.length = last := by
    rw [hcontent, Text.token, List.extract_eq_take_drop, List.length_take, List.length_drop]
    omega
  have hvalue : source.extract first last = c.content.value := by
    rw [hcontent]
    rfl
  rw [hcontent] at hdirective
  obtain ⟨-, hname, hplace⟩ := Text.nameLocation_token hle hlast hdirective hspan
  refine ⟨first, Nat.le_trans hle hlast, fun o ho => ⟨fun heq => ?_, fun heq => ?_⟩, ?_, hname, ?_⟩
  · exact Text.positionAt_inj ho (Nat.le_trans hle hlast) (heq.trans hstart)
  · rw [heq, hstart]
  · rw [hlength, hvalue]
  · rw [Comment.nameLocation, hcontent]
    exact hplace

/-- The second name of a comment, behind a line of text and a tag, is reported
where it stands. -/
theorem nameLocation_eq_span_iff_secondName :
    let source : Text := "a\n<B><%# herb:disable x,  yy %>".toList
    ∃ c ∈ (parse source).disableComments, ∃ span ∈ c.directive.names,
      span.name = "yy" ∧ source.extract 26 28 = "yy".toList ∧
        c.nameLocation span = source.span 26 28 := by
  intro source
  have hsome : ∃ c ∈ (parse source).disableComments, ∃ span ∈ c.directive.names,
      span.name = "yy" ∧ span.offset = 18 ∧ span.length = 2 ∧
        source.positionAt 8 = c.content.location.start ∧
        '\n' ∉ c.content.value.take span.offset := by
    decide +kernel
  obtain ⟨c, hc, span, hspan, hname, hoffset, hlength, hstart, hline⟩ := hsome
  obtain ⟨o, -, hunique, -, htext, hplace⟩ := nameLocation_eq_span_iff hc hspan
  obtain rfl : 8 = o := (hunique 8 (by decide)).1 hstart
  have hspot := hplace.2 hline
  rw [NameSpan.stop, hoffset, hlength] at htext hspot
  exact ⟨c, hc, span, hspan, hname, hname ▸ htext, hspot⟩

/-- **Behind a newline a name is reported elsewhere.** The content of the comment
starts at the offset 3, and the name stands on the second line, but it is
reported on the first. -/
theorem nameLocation_behind_newline :
    let source : Text := "<%#\nherb:disable a %>".toList
    ∃ c ∈ (parse source).disableComments, ∃ span ∈ c.directive.names,
      source.positionAt 3 = c.content.location.start ∧
        source.extract (3 + span.offset) (3 + span.stop) = span.name.toList ∧
        c.nameLocation span ≠ source.span (3 + span.offset) (3 + span.stop) := by
  decide +kernel

end Document

end TemplateLint
