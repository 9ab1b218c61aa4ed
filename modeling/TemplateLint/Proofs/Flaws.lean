import Mathlib.Logic.ExistsUnique
import TemplateLint.Rule.DisableComments
import TemplateLint.Proofs.Grammar
import TemplateLint.Proofs.Lexemes
/-!
# Directives — what is wrong with a comment

A comment that opens with the keyword is read as a directive, or it names no
rule, or there is a flaw in its form: one of the three, and one only
(`DisableComments.comment_class`). That the last leaves no gap comes from the
runs of the list of rules. If they make no list, then it starts or ends with a
separator, or a separator holds two commas (`exists_flawed_piece`), and each of
these has words of its own. The words for a flaw of no known kind are never
used.
-/

namespace TemplateLint

theorem Text.trimmed_trim (t : Text) : Text.Trimmed t.trim :=
  (Text.trim_eq_iff.1 rfl).1

namespace Directive

/-! ## Lists that cannot be read -/

/-- Two commas stand in the list with nothing but blanks between them. -/
def DoublesComma (rules : Text) : Prop :=
  ∃ before gap behind, Text.Blank gap ∧ rules = before ++ ',' :: (gap ++ ',' :: behind)

/-- **Runs that make no list** start or end with a separator, or hold one with
two commas. -/
theorem exists_flawed_piece : ∀ {pieces : List (Bool × Text)}, Text.AreRuns isNameChar pieces →
    pieces ≠ [] → isList pieces = false →
    (∃ piece ∈ pieces.head?, piece.1 = false) ∨ (∃ piece ∈ pieces.getLast?, piece.1 = false) ∨
      ∃ piece ∈ pieces, piece.1 = false ∧ 1 < piece.2.count ','
  | [], _, hne, _ => absurd rfl hne
  | [(inside, run)], _, _, hlist => .inl ⟨(inside, run), rfl, hlist⟩
  | (false, run) :: _ :: _, _, _, _ => .inl ⟨(false, run), rfl, rfl⟩
  | (true, name) :: (inside, separator) :: rest, hruns, _, hlist => by
    obtain ⟨hother, hchain⟩ := List.isChain_cons_cons.1 hruns.alternate
    cases (show inside = false by simpa using hother)
    rw [isList, Bool.true_and, Bool.and_eq_false_iff] at hlist
    rcases hlist with hcommas | hlist
    · refine .inr (.inr ⟨(false, separator), .tail _ (.head _), rfl, ?_⟩)
      simpa [separates] using hcommas
    · rcases eq_or_ne rest [] with rfl | hne
      · exact .inr (.inl ⟨(false, separator), rfl, rfl⟩)
      · have hrest : Text.AreRuns isNameChar rest :=
          ⟨fun piece hpiece => hruns.pure _ (.tail _ (.tail _ hpiece)),
            (List.isChain_cons.1 hchain).2⟩
        rcases exists_flawed_piece hrest hne hlist with ⟨piece, hhead, hclass⟩ | hlast | hmem
        · -- A separator does not stand next to another.
          exact absurd hclass.symm ((List.isChain_cons.1 hchain).1 piece hhead)
        · obtain ⟨piece, hlast, hclass⟩ := hlast
          refine .inr (.inl ⟨piece, ?_, hclass⟩)
          rw [List.getLast?_cons_cons, List.getLast?_cons_of_ne_nil hne]
          exact hlast
        · obtain ⟨piece, hpiece, hflaw⟩ := hmem
          exact .inr (.inr ⟨piece, .tail _ (.tail _ hpiece), hflaw⟩)

/-- A run of blanks and commas with two commas has two that only blanks
part. -/
theorem doublesComma_of_count {run : Text} (hclass : ∀ c ∈ run, isNameChar c = false)
    (hcount : 1 < run.count ',') : DoublesComma run := by
  have hmem : ',' ∈ run := List.count_pos_iff.1 (by omega)
  obtain ⟨before, rest, rfl, hbefore⟩ := List.eq_append_cons_of_mem hmem
  rw [List.count_append, List.count_eq_zero.2 hbefore, List.count_cons_self] at hcount
  have hmem : ',' ∈ rest := List.count_pos_iff.1 (by omega)
  obtain ⟨gap, behind, rfl, hgap⟩ := List.eq_append_cons_of_mem hmem
  refine ⟨before, gap, behind, fun c hc => ?_, rfl⟩
  refine (isNameChar_eq_false_iff.1 (hclass c (by simp [hc]))).resolve_right ?_
  rintro rfl
  exact hgap hc

theorem DoublesComma.append {run : Text} (h : DoublesComma run) (before behind : Text) :
    DoublesComma (before ++ (run ++ behind)) := by
  obtain ⟨lead, gap, tail, hgap, rfl⟩ := h
  exact ⟨before ++ lead, gap, tail ++ behind, hgap, by simp⟩

/-- **A list that cannot be read** ends with a comma, or has two with nothing
but blanks between them, or starts with one. -/
theorem flawed_of_isList_eq_false {rules : Text} (htrim : Text.Trimmed rules) (hne : rules ≠ [])
    (h : isList (Text.runs isNameChar rules) = false) :
    [','] <:+ rules ∨ DoublesComma rules ∨ [','] <+: rules := by
  have hruns := Text.areRuns_runs (p := isNameChar) rules
  have hrules := Text.flatMap_runs (p := isNameChar) rules
  generalize Text.runs isNameChar rules = pieces at h hruns hrules
  have hpieces : pieces ≠ [] := by
    rintro rfl
    exact hne hrules.symm
  have hcomma : ∀ c, isNameChar c = false → Text.isBlank c = false → c = ',' :=
    fun c hclass hblank => (isNameChar_eq_false_iff.1 hclass).resolve_left (by simp [hblank])
  rcases exists_flawed_piece hruns hpieces h with hhead | hlast | ⟨piece, hpiece, hclass, hcount⟩
  · obtain ⟨⟨inside, run⟩, hhead, rfl⟩ := hhead
    obtain ⟨rest, rfl⟩ := List.head?_eq_some_iff.1 hhead
    obtain ⟨hrun, hclass⟩ := hruns.pure _ (.head _)
    obtain ⟨c, run, rfl⟩ := List.exists_cons_of_ne_nil hrun
    have hc : c = ',' := hcomma c (hclass c (.head _)) (htrim.head c (by simp [← hrules]))
    refine .inr (.inr ⟨run ++ rest.flatMap (·.2), ?_⟩)
    simp [← hrules, hc]
  · obtain ⟨⟨inside, run⟩, hlast, rfl⟩ := hlast
    obtain ⟨rest, rfl⟩ := List.getLast?_eq_some_iff.1 hlast
    obtain ⟨hrun, hclass⟩ := hruns.pure (false, run) (by simp)
    obtain ⟨run, c, rfl⟩ := (List.eq_nil_or_concat' run).resolve_left hrun
    have hc : c = ',' :=
      hcomma c (hclass c (by simp)) (htrim.last c (by simp [← hrules, ← List.append_assoc]))
    exact .inl ⟨rest.flatMap (·.2) ++ run, by simp [← hrules, hc]⟩
  · obtain ⟨before, behind, rfl⟩ := List.append_of_mem hpiece
    obtain ⟨inside, run⟩ := piece
    have hdoubles := doublesComma_of_count (fun c hc => ((hruns.pure _ hpiece).2 c hc).trans hclass)
      hcount
    refine .inr (.inl ?_)
    rw [← hrules, List.flatMap_append, List.flatMap_cons]
    exact hdoubles.append _ _

/-- Two such commas are found. -/
theorem hasDoubledComma_of_doublesComma {rules : Text} (h : DoublesComma rules) :
    hasDoubledComma rules := by
  obtain ⟨before, gap, behind, hgap, rfl⟩ := h
  have hcomma : Text.isBlank ',' = false := by decide
  have hgap' : gap.filter (fun c => !Text.isBlank c) = [] :=
    List.filter_eq_nil_iff.2 fun c hc => by simp [hgap c hc]
  rw [hasDoubledComma, Text.contains_iff_infix]
  refine ⟨before.filter fun c => !Text.isBlank c, behind.filter fun c => !Text.isBlank c, ?_⟩
  simp [List.filter_append, hcomma, hgap']

/-- **The flaw of a list is of a known kind.** -/
theorem listFlaw_ne_unreadable {rules : Text} (htrim : Text.Trimmed rules) (hne : rules ≠ [])
    (h : isList (Text.runs isNameChar rules) = false) : listFlaw rules ≠ .unreadable := by
  unfold listFlaw
  rcases flawed_of_isList_eq_false htrim hne h with hlast | hdoubled | hfirst
  · rw [if_pos (Text.endsWith_iff_suffix.2 hlast)]
    decide
  · split
    · decide
    · rw [if_pos (hasDoubledComma_of_doublesComma hdoubled)]
      decide
  · split
    · decide
    · split
      · decide
      · rw [if_pos (Text.startsWith_iff_prefix.2 hfirst)]
        decide

theorem isList_of_parse?_eq_none {content body : Text} (hbody : body? content = some body)
    (h : parse? content = none) : isList (Text.runs isNameChar body.trim) = false := by
  refine Bool.eq_false_iff.2 fun hlist => ?_
  obtain ⟨offset, hparse⟩ := exists_parse?_of_isList hbody hlist
  rw [h] at hparse
  cases hparse

/-- **The flaw of a content is of a known kind.** -/
theorem flaw?_ne_unreadable {content : Text} {flaw : Flaw} (h : flaw? content = some flaw) :
    flaw ≠ .unreadable := by
  rcases hafter : Text.after? keyword content.trim with _ | _ | ⟨c, rest⟩
  · simp [flaw?, hafter] at h
  · simp [flaw?, hafter] at h
  · by_cases hblank : Text.isBlank c
    · have hbody : body? content = some (c :: rest) := by simp [body?, hafter, hblank]
      simp only [flaw?, hafter, hblank, if_true, Option.ite_none_left_eq_some,
        Option.some.injEq, Bool.or_eq_true, not_or] at h
      obtain ⟨⟨hne, hparse⟩, rfl⟩ := h
      refine listFlaw_ne_unreadable (Text.trimmed_trim _) (by simpa using hne) ?_
      exact isList_of_parse?_eq_none hbody (by simpa using hparse)
    · by_cases hword : c = '-' ∨ c = '_'
      · simp [flaw?, hafter, hblank, hword] at h
      · have hflaw : Flaw.unspaced = flaw := by
          simpa [flaw?, hafter, hblank, hword] using h
        rw [← hflaw]
        decide

/-! ## Three classes -/

/-- The content opens with the keyword, and neither a dash nor an underscore
makes that another word. -/
def Opens (content : Text) : Prop :=
  ∃ rest, content.trim = keyword ++ rest ∧ ∀ c ∈ rest.head?, c ≠ '-' ∧ c ≠ '_'

/-- What a content that opens with the keyword is. -/
inductive Class where
  | directive
  | nameless
  | malformed
  deriving DecidableEq, Repr

/-- The class of a content, if it opens with the keyword. -/
def class? (content : Text) : Option Class :=
  match Text.after? keyword content.trim with
  | none => none
  | some [] => some .nameless
  | some (c :: rest) =>
    if Text.isBlank c then
      if (Text.trim (c :: rest)).isEmpty then some .nameless
      else if (parse? content).isSome then some .directive
      else some .malformed
    else if c = '-' || c = '_' then none
    else some .malformed

variable {content : Text}

/-- A list with no names is not read. -/
theorem parse?_eq_none_of_trim {body : Text} (hbody : body? content = some body)
    (hempty : body.trim = []) : parse? content = none := by
  rw [parse?, hbody, Option.bind_some, hempty]
  rfl

/-- What the three readers of a content make of it, by what stands behind the
keyword. -/
theorem class?_cases (content : Text) :
    (class? content = some .directive ↔ (parse? content).isSome) ∧
      (class? content = some .nameless ↔ lacksNames content) ∧
      (class? content = some .malformed ↔ (flaw? content).isSome) := by
  rcases hafter : Text.after? keyword content.trim with _ | _ | ⟨c, rest⟩
  · simp [class?, hafter, parse?, lacksNames, body?, flaw?]
  · have hbody : body? content = some [] := by rw [body?, hafter]
    have hnone := parse?_eq_none_of_trim hbody rfl
    simp only [class?, hafter, hnone, lacksNames, hbody, flaw?]
    decide
  · by_cases hblank : Text.isBlank c
    · have hbody : body? content = some (c :: rest) := by simp [body?, hafter, hblank]
      by_cases hempty : Text.trim (c :: rest) = []
      · have hnone := parse?_eq_none_of_trim hbody hempty
        simp [class?, hafter, hblank, hempty, hnone, lacksNames, hbody, flaw?]
      · rcases hparse : parse? content with _ | directive <;>
          simp [class?, hafter, hblank, hempty, hparse, lacksNames, hbody, flaw?]
    · have hbody : body? content = none := by simp [body?, hafter, hblank]
      by_cases hword : c = '-' ∨ c = '_' <;>
        simp [class?, hafter, hblank, hword, parse?, lacksNames, hbody, flaw?]

/-- **A content has a class if it opens with the keyword.** -/
theorem isSome_class?_iff : (class? content).isSome ↔ Opens content := by
  have hopens : Opens content ↔ ∃ rest, Text.after? keyword content.trim = some rest ∧
      ∀ c ∈ rest.head?, c ≠ '-' ∧ c ≠ '_' := by
    simp only [Opens, Text.after?_eq_some_iff]
  rw [hopens]
  rcases hafter : Text.after? keyword content.trim with _ | _ | ⟨c, rest⟩
  · simp [class?, hafter]
  · simp [class?, hafter]
  · by_cases hblank : Text.isBlank c
    · have hdash : c ≠ '-' := by
        rintro rfl
        exact absurd hblank (by decide)
      have hunderscore : c ≠ '_' := by
        rintro rfl
        exact absurd hblank (by decide)
      simp only [class?, hafter, hblank, if_true]
      split
      · simp [hdash, hunderscore]
      · split <;> simp [hdash, hunderscore]
    · by_cases hword : c = '-' ∨ c = '_'
      · rcases hword with rfl | rfl <;> simp [class?, hafter, hblank]
      · simp [class?, hafter, hblank, not_or.1 hword]

/-- A content of each class, and one that opens with another word. -/
example :
    ["herb:disable a", "herb:disable ", "herb:disable a,,b", "herb:disable-line a"].map
        (fun content => class? content.toList) =
      [some .directive, some .nameless, some .malformed, none] := by
  decide

end Directive

namespace DisableComments

/-- The comment is in a class: it is read as a directive, or one of two rules
reports it. -/
def InClass (c : Comment) : Directive.Class → Prop
  | .directive => ∃ directive, Directive.parse? c.content.value = some directive
  | .nameless => missingOffenses c ≠ []
  | .malformed => malformedOffenses c ≠ []

theorem inClass_iff {c : Comment} {k : Directive.Class} :
    InClass c k ↔ Directive.class? c.content.value = some k := by
  obtain ⟨hdirective, hnameless, hmalformed⟩ := Directive.class?_cases c.content.value
  cases k with
  | directive => rw [hdirective, InClass, Option.isSome_iff_exists]
  | nameless =>
    rw [hnameless, InClass, missingOffenses]
    split <;> simp_all
  | malformed =>
    rw [hmalformed, InClass, malformedOffenses]
    cases Directive.flaw? c.content.value <;> simp

/-- The words for an unknown flaw are those of no other. -/
theorem flawMessage_ne_unreadable {flaw : Directive.Flaw} (h : flaw ≠ .unreadable) :
    flawMessage flaw ≠ flawMessage .unreadable := by
  cases flaw with
  | unreadable => exact absurd rfl h
  | _ => decide

/-- What the rule about form reports, it reports of some comment. -/
theorem exists_comment_of_mem_malformed {input : RuleInput} {context : Context}
    {offenses : List Offense} (h : malformed.check input context = .ok offenses) {o : Offense}
    (ho : o ∈ offenses) : ∃ c, o ∈ malformedOffenses c := by
  cases input with
  | document d =>
    cases h
    dsimp only at ho
    split at ho
    · cases ho
    · obtain ⟨c, -, ho⟩ := List.mem_flatMap.1 ho
      exact ⟨c, ho⟩
  | text t =>
    cases h
    cases ho

/-- The rule about form has words of its own for every flaw. -/
theorem message_ne_of_mem_malformedOffenses {c : Comment} {o : Offense}
    (ho : o ∈ malformedOffenses c) : o.message ≠ flawMessage .unreadable := by
  obtain ⟨flaw, hflaw, rfl⟩ := List.mem_map.1 ho
  exact flawMessage_ne_unreadable
    (Directive.flaw?_ne_unreadable (Option.mem_toList.1 hflaw))

/-- **Every comment that opens with the keyword is in one class.** It is read as
a directive, or reported as naming no rule, or reported as malformed, and a
comment that does not open with the keyword is none of these. A report is made
once, and where the comment lies. None says no more than that the comment is
malformed: a list that is not empty and cannot be read ends with a comma, has
two with nothing but blanks between them, or starts with one. -/
theorem comment_class :
    (∀ c : Comment, Directive.Opens c.content.value → ∃! k, InClass c k) ∧
    (∀ c : Comment, ¬ Directive.Opens c.content.value → ∀ k, ¬ InClass c k) ∧
    (∀ c : Comment, (missingOffenses c).length ≤ 1 ∧ (malformedOffenses c).length ≤ 1 ∧
      ∀ o ∈ missingOffenses c ++ malformedOffenses c, o.location = c.location) ∧
    (∀ d root context, d.root = some root →
      missing.check (.document d) context = .ok (root.comments.flatMap missingOffenses) ∧
        malformed.check (.document d) context = .ok (root.comments.flatMap malformedOffenses)) ∧
    (∀ input context offenses, malformed.check input context = .ok offenses →
      ∀ o ∈ offenses, o.message ≠ "`herb:disable` comment is malformed.") ∧
    ∀ content body, Directive.body? content = some body → body.trim ≠ [] →
      Directive.parse? content = none →
        [','] <:+ body.trim ∨ Directive.DoublesComma body.trim ∨ [','] <+: body.trim := by
  refine ⟨fun c hopens => ?_, fun c hopens k hk => ?_, fun c => ⟨?_, ?_, fun o ho => ?_⟩,
    fun d root context hroot => ?_, fun input context offenses hcheck o ho => ?_,
    fun content body hbody hne hparse => ?_⟩
  · obtain ⟨k, hk⟩ := Option.isSome_iff_exists.1 (Directive.isSome_class?_iff.2 hopens)
    refine ⟨k, inClass_iff.2 hk, fun k' hk' => ?_⟩
    exact Option.some.inj ((inClass_iff.1 hk').symm.trans hk)
  · exact hopens (Directive.isSome_class?_iff.1 (Option.isSome_of_eq_some (inClass_iff.1 hk)))
  · unfold missingOffenses
    split <;> simp
  · rw [malformedOffenses, List.length_map]
    exact Option.length_toList_le
  · rcases List.mem_append.1 ho with ho | ho
    · unfold missingOffenses at ho
      split at ho
      · cases List.mem_singleton.1 ho
        rfl
      · cases ho
    · obtain ⟨flaw, -, rfl⟩ := List.mem_map.1 ho
      rfl
  · simp only [missing, malformed, aboutComments, Rule.onDocument, hroot, and_self]
  · obtain ⟨c, ho⟩ := exists_comment_of_mem_malformed hcheck ho
    exact message_ne_of_mem_malformedOffenses ho
  · exact Directive.flawed_of_isList_eq_false (Text.trimmed_trim _) hne
      (Directive.isList_of_parse?_eq_none hbody hparse)

end DisableComments

end TemplateLint
