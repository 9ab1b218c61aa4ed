import TemplateLint.Proofs.Checks
import TemplateLint.Proofs.Lexemes
import TemplateLint.Proofs.Names
/-!
# Spans — the names of a directive are the pieces of its content

The names of a directive are found in the list of rules, and the list is
searched for in the content. What comes of it is the same as if the text behind
the keyword were cut into its runs where it stands (`Directive.Written.names_eq`).
So the spans of a directive are the pieces of its content behind the keyword, each
of them once and with a separator between neighbours, and on a line of source they
are moved to where the comment starts (`Directive.names_spell_pieces`).
-/

namespace TemplateLint

namespace Text

theorem extract_append (before piece behind : Text) :
    (before ++ (piece ++ behind)).extract before.length (before.length + piece.length) = piece :=
  congrArg Token.value (token_eq rfl rfl rfl)

end Text

namespace Directive

/-- A name between two texts in which it does not go on: what is before it does
not end with a character of a name, and what is behind it does not start with
one. -/
structure StandsAlone (before name behind : Text) : Prop where
  isName : IsName name
  before : ∀ c ∈ before.getLast?, isNameChar c = false
  behind : ∀ c ∈ behind.head?, isNameChar c = false

variable {content : Text}

/-! ## The names among the runs of a text -/

theorem namesFrom_append (offset : Nat) (pieces pieces' : List (Bool × Text)) :
    namesFrom offset (pieces ++ pieces') =
      namesFrom offset pieces ++ namesFrom (offset + (pieces.flatMap (·.2)).length) pieces' := by
  induction pieces generalizing offset with
  | nil => rfl
  | cons piece pieces ih =>
    obtain ⟨inside, run⟩ := piece
    rw [List.cons_append, namesFrom, namesFrom, ih, List.append_assoc, List.flatMap_cons,
      List.length_append, Nat.add_assoc]

theorem namesFrom_outside {offset : Nat} {pieces : List (Bool × Text)}
    (h : ∀ piece ∈ pieces, piece.1 = false) : namesFrom offset pieces = [] := by
  refine List.eq_nil_iff_forall_not_mem.2 fun span hspan => ?_
  obtain ⟨earlier, name, later, rfl, -⟩ := mem_namesFrom.1 hspan
  exact absurd (h (true, name) (by simp)) (by simp)

/-- **A name that stands alone is found**, where it stands. -/
theorem mem_namesFrom_runs {before name behind : Text} (h : StandsAlone before name behind)
    (offset : Nat) :
    ⟨String.ofList name, offset + before.length, name.length⟩ ∈
      namesFrom offset (Text.runs isNameChar (before ++ (name ++ behind))) := by
  have hname := isName_iff.1 h.isName
  have hruns : Text.runs isNameChar (name ++ behind) =
      (true, name) :: Text.runs isNameChar behind := by
    refine Text.runs_append hname.1 hname.2 fun piece hpiece => ?_
    rcases behind with _ | ⟨c, behind⟩
    · cases hpiece
    · obtain ⟨run, rest, hcons⟩ := Text.exists_runs_cons (p := isNameChar) c behind
      rw [hcons] at hpiece
      cases hpiece
      simp [h.behind c rfl]
  have hcut : Text.runs isNameChar (before ++ (name ++ behind)) =
      Text.runs isNameChar before ++ (true, name) :: Text.runs isNameChar behind := by
    rw [Text.runs_append_of_ne fun c hc d hd => ?_, hruns]
    rw [List.head?_append_of_ne_nil _ hname.1] at hd
    rw [h.before c hc, hname.2 d (List.mem_of_mem_head? hd)]
    exact Bool.false_ne_true
  rw [hcut]
  exact mem_namesFrom.2 ⟨_, _, _, rfl, by rw [Text.flatMap_runs]⟩

/-! ## The order of the names -/

/-- **Between a name and the next one stands a separator**, and nothing else. -/
theorem NameList.isChain_namesFrom (l : NameList) {front behind : Text}
    (h : content = front ++ (l.text ++ behind)) :
    (namesFrom front.length l.pieces).IsChain fun a b =>
      a.stop < b.offset ∧ IsSeparator (content.extract a.stop b.offset) := by
  obtain ⟨first, others, hfirst, hothers⟩ := l
  induction others generalizing first front with
  | nil => simp [pieces, namesFrom]
  | cons pair others ih =>
    obtain ⟨separator, name⟩ := pair
    obtain ⟨hseparator, hname⟩ := hothers (separator, name) (.head _)
    -- What follows the separator is a list of its own, in the same content.
    have hcontent : content = (front ++ first) ++
        (separator ++ (name ++ others.flatMap (fun pair => pair.1 ++ pair.2) ++ behind)) := by
      simp [h, text]
    have hgap : content.extract (front.length + first.length)
        (front.length + (first.length + separator.length)) = separator := by
      rw [hcontent, ← Nat.add_assoc, ← List.length_append]
      exact Text.extract_append _ _ _
    have hpos : 0 < separator.length := List.length_pos_iff.2 (isSeparator_iff.1 hseparator).1
    have hnext : content = (front ++ (first ++ separator)) ++
        (name ++ others.flatMap (fun pair => pair.1 ++ pair.2) ++ behind) := by
      simp [hcontent]
    have hrest := ih name hname (fun p hp => hothers p (.tail _ hp)) hnext
    simp only [pieces, List.flatMap_cons, List.cons_append, List.nil_append, namesFrom, if_true,
      Bool.false_eq_true, if_false, List.length_append, Nat.add_assoc] at hrest ⊢
    refine List.isChain_cons_cons.2 ⟨⟨?_, ?_⟩, hrest⟩
    · simp only [NameSpan.stop]
      omega
    · rw [NameSpan.stop, hgap]
      exact hseparator

/-- Neighbours that do not overlap keep all of a list in order. -/
theorem pairwise_of_isChain {names : List NameSpan}
    (h : names.IsChain fun a b => a.stop < b.offset) :
    names.Pairwise fun a b => a.offset < b.offset ∧ a.stop < b.offset := by
  have htrans : IsTrans NameSpan fun a b => a.stop < b.offset :=
    ⟨fun a b c hab hbc => by simp only [NameSpan.stop] at *; omega⟩
  refine (List.isChain_iff_pairwise.1 h).imp fun {a b} hab => ⟨?_, hab⟩
  simp only [NameSpan.stop] at hab
  omega

/-! ## The names of a directive -/

/-- **The names of a directive are those of the text behind the keyword.** -/
theorem Written.names_eq (w : Written) :
    namesFrom (w.lead ++ keyword).length
        (Text.runs isNameChar (w.gap ++ (w.list.text ++ w.tail))) =
      namesFrom (w.lead ++ (keyword ++ w.gap)).length w.list.pieces := by
  have hblank : ∀ {t : Text}, Text.Blank t → ∀ c ∈ t, isNameChar c = false :=
    fun ht c hc => isNameChar_eq_false_iff.2 (.inl (ht c hc))
  have hcut : Text.runs isNameChar (w.gap ++ (w.list.text ++ w.tail)) =
      Text.runs isNameChar w.gap ++ (w.list.pieces ++ Text.runs isNameChar w.tail) := by
    rw [Text.runs_append_of_ne fun c hc d hd => ?gap, Text.runs_append_of_ne fun c hc d hd => ?tail,
      NameList.runs_text]
    case gap =>
      rw [List.head?_append_of_ne_nil _ w.list.text_ne_nil] at hd
      rw [hblank w.blank_gap c (List.mem_of_mem_getLast? hc), w.list.isNameChar_ends.1 d hd]
      exact Bool.false_ne_true
    case tail =>
      rw [hblank w.blank_tail d (List.mem_of_mem_head? hd), w.list.isNameChar_ends.2 c hc]
      exact Bool.true_eq_false.mp
  rw [hcut, namesFrom_append, namesFrom_append,
    namesFrom_outside (Text.runs_outside (hblank w.blank_gap)),
    namesFrom_outside (Text.runs_outside (hblank w.blank_tail)), Text.flatMap_runs,
    List.append_nil, List.nil_append, ← List.length_append, List.append_assoc]

theorem Written.isChain_names (w : Written) :
    (namesFrom (w.lead ++ (keyword ++ w.gap)).length w.list.pieces).IsChain fun a b =>
      a.stop < b.offset ∧ IsSeparator (w.text.extract a.stop b.offset) := by
  have htext : w.text = (w.lead ++ (keyword ++ w.gap)) ++ (w.list.text ++ w.tail) := by
    simp [Written.text]
  exact w.list.isChain_namesFrom htext

/-- **Every piece behind the keyword is a name of the directive**, once. -/
theorem Written.filter_names (w : Written) {before name behind : Text}
    (hrest : w.gap ++ (w.list.text ++ w.tail) = before ++ (name ++ behind))
    (halone : StandsAlone before name behind) :
    (namesFrom (w.lead ++ (keyword ++ w.gap)).length w.list.pieces).filter
        (fun span => span.offset == (w.lead ++ (keyword ++ before)).length) =
      [⟨String.ofList name, (w.lead ++ (keyword ++ before)).length, name.length⟩] := by
  have hmem := mem_namesFrom_runs halone (w.lead ++ keyword).length
  rw [← hrest, w.names_eq, ← List.length_append, List.append_assoc] at hmem
  have hordered := pairwise_of_isChain (w.isChain_names.imp fun _ _ => And.left)
  refine filter_eq_singleton (·.offset) (List.pairwise_map.2 ?_) hmem
  exact hordered.imp fun hab => Nat.ne_of_lt hab.1

/-- A span is exact if the name stands at its offset. -/
theorem extract_eq_name {before name behind : Text} {span : NameSpan}
    (hspan : span = ⟨String.ofList name, before.length, name.length⟩) :
    (before ++ (name ++ behind)).extract span.offset span.stop = span.name.toList ∧
      span.length = span.name.length := by
  subst hspan
  exact ⟨by rw [NameSpan.stop, Text.extract_append, String.toList_ofList], by simp⟩

/-- **The spans of a directive are exact.** Each covers its name in the content,
they are in order with a separator between neighbours, and each piece of the text
behind the keyword in which no name goes on is covered by one of them, and by one
only. On a line of source each covers its name in the line. -/
theorem names_spell_pieces :
    (∀ content directive, parse? content = some directive →
      (∀ span ∈ directive.names,
        content.extract span.offset span.stop = span.name.toList ∧
          span.length = span.name.length) ∧
      (directive.names.Pairwise fun a b => a.offset < b.offset ∧ a.stop < b.offset) ∧
      (directive.names.IsChain fun a b => IsSeparator (content.extract a.stop b.offset)) ∧
      ∃ lead rest, Text.Blank lead ∧ content = lead ++ (keyword ++ rest) ∧
        ∀ before name behind, rest = before ++ (name ++ behind) →
          StandsAlone before name behind →
          directive.names.filter
              (fun span => span.offset == (lead ++ (keyword ++ before)).length) =
            [⟨String.ofList name, (lead ++ (keyword ++ before)).length, name.length⟩]) ∧
    ∀ line directive, parseLine? line = some directive → ∀ span ∈ directive.names,
      line.extract span.offset span.stop = span.name.toList ∧
        span.length = span.name.length := by
  refine ⟨fun content directive h => ⟨fun span hspan => ?_, ?_⟩, fun line directive h => ?_⟩
  · obtain ⟨before, name, behind, rfl, -, hspan⟩ := exists_of_mem_names h hspan
    exact extract_eq_name hspan
  · obtain ⟨w, rfl⟩ := exists_written h
    obtain rfl := Option.some.inj (w.parse?_text.symm.trans h)
    refine ⟨pairwise_of_isChain (w.isChain_names.imp fun _ _ => And.left),
      w.isChain_names.imp fun _ _ => And.right, w.lead, w.gap ++ (w.list.text ++ w.tail),
      w.blank_lead, by simp [Written.text], fun before name behind hrest halone => ?_⟩
    exact w.filter_names hrest halone
  · obtain ⟨⟨front, rest⟩, hopening, hrest⟩ := Option.bind_eq_some_iff.1 h
    obtain ⟨⟨content, later⟩, hclosing, hcontent⟩ := Option.bind_eq_some_iff.1 hrest
    obtain ⟨inner, hinner, hdirective⟩ := Option.bind_eq_some_iff.1 hcontent
    cases hdirective
    intro span hspan
    obtain ⟨span, hinside, rfl⟩ := List.mem_map.1 hspan
    obtain ⟨before, name, behind, rfl, -, rfl⟩ := exists_of_mem_names hinner hinside
    have hline : line = (front ++ (commentOpening ++ before)) ++
        (name ++ (behind ++ (commentClosing ++ later))) := by
      rw [Text.eq_of_cutAt? hopening, Text.eq_of_cutAt? hclosing]
      simp
    rw [hline]
    refine extract_eq_name ?_
    simp [NameSpan.shift, Nat.add_comm, Nat.add_left_comm]

/-- Names that look like the keyword, or like one another, are told apart, in a
content and on a line. -/
theorem names_spell_pieces_repeated :
    let content : Text := "\u2003herb:disable herb:disable,a \t a , herb:disable a\n".toList
    let line : Text := "<b><%# herb:disable a a %>".toList
    (∃ directive, parse? content = some directive ∧
      directive.names.map (·.offset) = [14, 27, 31, 35, 48] ∧
      ∀ span ∈ directive.names, content.extract span.offset span.stop = span.name.toList) ∧
    ∃ directive, parseLine? line = some directive ∧
      directive.names.map (·.offset) = [20, 22] ∧
      ∀ span ∈ directive.names, line.extract span.offset span.stop = span.name.toList := by
  intro content line
  obtain ⟨directive, hdirective, hoffsets⟩ : ∃ directive, parse? content = some directive ∧
      directive.names.map (·.offset) = [14, 27, 31, 35, 48] := by
    decide +kernel
  obtain ⟨directive', hdirective', hoffsets'⟩ :
      ∃ directive, parseLine? line = some directive ∧
        directive.names.map (·.offset) = [20, 22] := by
    decide +kernel
  refine ⟨⟨directive, hdirective, hoffsets, fun span hspan => ?_⟩,
    ⟨directive', hdirective', hoffsets', fun span hspan => ?_⟩⟩
  · exact ((names_spell_pieces.1 content directive hdirective).1 span hspan).1
  · exact (names_spell_pieces.2 line directive' hdirective' span hspan).1

end Directive

end TemplateLint
