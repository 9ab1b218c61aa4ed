import Mathlib.Data.List.Flatten
import TemplateLint.Proofs.Checks
/-!
# Parse errors — none is lost

The rule about errors of the parser reports every error of the document and of
each node of its tree, in the order of reading and as an error, whatever severity
it is configured to have (`Linter.offensesOf_reported`). It is run even where the
parser made no tree, unless there is nothing to report. What it reports can only be
lost to a comment of the tree that suppresses it (`Linter.errors_reported`).
-/

namespace TemplateLint

/-- **An offense reports an error of the parser**, in its words, where it is, and as
an error. -/
structure Offense.Reports (e : ParseError) (o : Offense) : Prop where
  rule : o.rule = ParseErrors.ruleName
  message : o.message = s!"{e.message} ({e.kind})"
  location : o.location = e.location
  severity : o.severity = some .error

namespace Document

theorem allErrors_eq (d : Document) : d.allErrors = d.errors ++ d.nodes.flatMap Node.errors := by
  cases hroot : d.root with
  | none => simp [allErrors, nodes, hroot]
  | some root => simp [allErrors, nodes, hroot, Node.allErrors]

end Document

namespace Linter

variable {l : Linter} {d : Document} {b : BoundRule} {fileName : Option String}
  {disabled : List String}

/-! ## What the rule comes to -/

/-- A severity that a rule stamps as an error is not changed. -/
theorem bind_offense (e : ParseError) (severity : Severity) :
    (ParseErrors.offense e).bind severity = ParseErrors.offense e :=
  if_pos rfl

/-- **Every error is reported**, whatever the rule is configured to. -/
theorem offensesOf_reported (hrule : b.rule = ParseErrors.reported) (context : Context) :
    offensesOf d context b = d.allErrors.map ParseErrors.offense := by
  have hcheck : b.rule.check (b.rule.input d) context =
      .ok (d.allErrors.map ParseErrors.offense) := by
    rw [hrule]
    rfl
  simp only [offensesOf, hcheck, List.map_map, Function.comp_def, bind_offense]

/-- The rule about errors of the parser is run on every document that it has
something to report of. -/
theorem isActive_reported_iff (hb : b ∈ l.rules) (hrule : b.rule = ParseErrors.reported)
    (henabled : b.settings.isEnabled) (hasked : b.name ∉ disabled)
    (happlies : b.settings.appliesTo fileName) :
    isActive d (l.context fileName disabled) b ↔ d.root.isSome ∨ d.allErrors ≠ [] := by
  have hname : b.name = ParseErrors.ruleName := by rw [BoundRule.name, hrule]; rfl
  have hkept : (l.context fileName disabled).disabled.contains b.name = false := by
    refine Bool.eq_false_iff.2 fun hmem => ?_
    rcases List.mem_append.1 (List.contains_iff_mem.1 hmem) with hmem | hmem
    · exact hasked hmem
    · -- No other rule has the name.
      obtain ⟨b', hb', hsame⟩ := List.mem_map.1 hmem
      obtain ⟨hb', hoff⟩ := List.mem_filter.1 hb'
      obtain rfl := eq_of_name_eq hb' hb hsame
      simp [henabled] at hoff
  have hwilling : b.rule.isWilling (b.rule.input d) (l.context fileName disabled) := by
    rw [hrule]
    rfl
  have hinput : hasInput d b ↔ d.root.isSome ∨ d.allErrors ≠ [] := by
    have hkind : b.rule.kind = .parser := by rw [hrule]; rfl
    simp [hasInput, hkind, hname, Document.failed]
  have happlies' : b.settings.appliesTo (l.context fileName disabled).fileName := happlies
  rw [isActive, hkept, happlies', hwilling, Bool.and_true, Bool.not_false, Bool.true_and,
    Bool.true_and, hinput]

/-! ## What is reported -/

/-- What the rule comes to on a document that it is run on, or not. -/
theorem flatMap_offensesOf_reported (hb : b ∈ l.rules) (hrule : b.rule = ParseErrors.reported)
    (henabled : b.settings.isEnabled) (hasked : b.name ∉ disabled)
    (happlies : b.settings.appliesTo fileName) :
    ((l.activeRules d (l.context fileName disabled)).filter fun b' => b'.name == b.name).flatMap
        (offensesOf d (l.context fileName disabled)) =
      d.allErrors.map ParseErrors.offense := by
  have hactive := isActive_reported_iff (d := d) hb hrule henabled hasked happlies
  by_cases hrun : isActive d (l.context fileName disabled) b
  · have hother : ¬ isDeferred b := by
      rw [isDeferred, BoundRule.name, hrule]
      decide
    have hmem : b ∈ l.activeRules d (l.context fileName disabled) :=
      mem_activeRules.2 ⟨hb, hrun, hother⟩
    have hdistinct : ((l.activeRules d (l.context fileName disabled)).map BoundRule.name).Nodup :=
      l.distinct.sublist (List.filter_sublist.map _)
    rw [filter_eq_singleton BoundRule.name hdistinct hmem, List.flatMap_singleton,
      offensesOf_reported hrule]
  · have hnone : d.allErrors = [] := by
      by_contra hsome
      exact hrun (hactive.2 (.inr hsome))
    have hidle : ((l.activeRules d (l.context fileName disabled)).filter
        fun b' => b'.name == b.name) = [] := by
      refine List.filter_eq_nil_iff.2 fun b' hb' hsame => hrun ?_
      obtain ⟨hmem, hrun', -⟩ := mem_activeRules.1 hb'
      obtain rfl := eq_of_name_eq hmem hb (beq_iff_eq.1 hsame)
      exact hrun'
    rw [hidle, hnone]
    rfl

/-- Without a tree, no other rule that looks at the tree is run. -/
theorem eq_of_isActive_of_root_eq_none {b' : BoundRule} {context : Context} (hroot : d.root = none)
    (hb : b ∈ l.rules) (hname : b.name = ParseErrors.ruleName) (hb' : b' ∈ l.rules)
    (hrun : isActive d context b') (hkind : b'.rule.kind = .parser) : b' = b := by
  have hinput : hasInput d b' := by
    simp only [isActive, Bool.and_eq_true] at hrun
    exact hrun.1.2
  have hnamed : b'.name = ParseErrors.ruleName ∧ d.failed := by
    simpa [hasInput, hkind, hroot] using hinput
  exact eq_of_name_eq hb' hb (hnamed.1.trans hname.symm)

/-- **No error of the parser is lost.** If the rule about them is enabled and applies
to the file, it comes to one offense for each error of the document and then for each
error of a node, in the order of reading, wherever in the tree the node is. Linting
reports them in this order, apart from those that a comment of the tree suppresses.
Without a tree it reports them all, and runs no other rule that looks at trees. -/
theorem errors_reported (hb : b ∈ l.rules) (hrule : b.rule = ParseErrors.reported)
    (henabled : b.settings.isEnabled) (hasked : ParseErrors.ruleName ∉ disabled)
    (happlies : b.settings.appliesTo fileName)
    (included : ∀ node ∈ d.nodes, ¬ node.isLinterIgnore) :
    let context := l.context fileName disabled
    let own := ((l.activeRules d context).filter fun b' => b'.name == ParseErrors.ruleName).flatMap
      (offensesOf d context)
    let result := l.lint d fileName disabled
    List.Forall₂ Offense.Reports (d.errors ++ d.nodes.flatMap Node.errors) own ∧
    (∀ root, d.root = some root → ∀ path node, root.IsPath path node →
      ∀ e ∈ node.errors, ∃ o ∈ own, o.Reports e) ∧
    (l.lint? d fileName disabled = .ok result ↔
      (∀ b' ∈ l.rules, askingFailure? d context b' = none) ∧
        ∀ o ∈ l.rawOffenses d context, o.namesRule) ∧
    (own.filter fun o => l.ignoresComments || !decide (d.Suppresses l.scope o)).Sublist
      result.offenses ∧
    (d.root = none → own.Sublist result.offenses ∧
      ∀ b' ∈ l.activeRules d context ++ l.deferredRule d context,
        b'.rule.kind = .parser → b' = b) := by
  intro context own result
  have hname : b.name = ParseErrors.ruleName := by rw [BoundRule.name, hrule]; rfl
  have hincluded : ¬ isExcluded d := not_isExcluded included
  have hown : own = (d.errors ++ d.nodes.flatMap Node.errors).map ParseErrors.offense := by
    rw [← Document.allErrors_eq,
      ← flatMap_offensesOf_reported hb hrule henabled (hname ▸ hasked) happlies, hname]
  have hresult : ((l.rawOffenses d context).filter fun o =>
      l.ignoresComments || !decide (d.Suppresses l.scope o)).Sublist result.offenses := by
    have hlint : result = l.settle d context (l.rawOffenses d context) := if_neg hincluded
    rw [hlint, (settle_eq l d context).1]
    exact List.sublist_append_left _ _
  have hraw : own.Sublist (l.rawOffenses d context) := List.filter_sublist.flatMap _
  refine ⟨?_, fun root hroot path node hpath e he => ?_, lint?_eq_ok_iff hincluded,
    (hraw.filter _).trans hresult, fun hroot => ⟨?_, fun b' hb' hkind => ?_⟩⟩
  · rw [hown, List.forall₂_map_right_iff, List.forall₂_same]
    exact fun e _ => ⟨rfl, rfl, rfl, rfl⟩
  · refine ⟨ParseErrors.offense e, ?_, rfl, rfl, rfl, rfl⟩
    have hnode : node ∈ d.nodes := by
      rw [Document.nodes, hroot]
      exact hpath.mem_preorder
    rw [hown]
    exact List.mem_map_of_mem (List.mem_append_right _ (List.mem_flatMap.2 ⟨node, hnode, he⟩))
  · -- Nothing is suppressed where there is no tree to hold a comment.
    have hall : own = own.filter fun o =>
        l.ignoresComments || !decide (d.Suppresses l.scope o) := by
      refine (List.filter_eq_self.2 fun o _ => ?_).symm
      have hnone : ¬ d.Suppresses l.scope o := by
        rintro ⟨-, node, hnode, -⟩
        rw [Document.nodes, hroot] at hnode
        cases hnode
      simp [hnone]
    rw [hall]
    exact (hraw.filter _).trans hresult
  · rcases List.mem_append.1 hb' with hb' | hb'
    · obtain ⟨hmem, hrun, -⟩ := mem_activeRules.1 hb'
      exact eq_of_isActive_of_root_eq_none hroot hb hname hmem hrun hkind
    · obtain ⟨hmem, -, hrun⟩ := mem_deferredRule.1 hb'
      exact eq_of_isActive_of_root_eq_none hroot hb hname hmem hrun hkind

/-- Four errors, of the document, of a tag in an element and of what is behind it, are
come to as errors by a rule that is configured to warn. The last one is behind a
comment that names the rule. -/
theorem errors_reported_nested :
    let error (message : String) (line : Nat) : ParseError :=
      ⟨"UNEXPECTED_ERROR", message, .point ⟨line, 0⟩⟩
    let comment : Node := .leaf (.erb (some ⟨"<%#".toList, .fallback⟩)
      (some ⟨" herb:disable parser-no-errors ".toList, .fallback⟩) none) (.point ⟨2, 0⟩) []
    let tag : Node := .branch (.openTag none) .fallback [error "tag" 1] [comment]
    let root : Node := .branch .document .fallback [error "tree" 1]
      [.element .fallback [] (some tag) [.leaf (.text []) .fallback [error "text" 3]] none]
    let d : Document := ⟨[], some root, [error "top" 1]⟩
    let b : BoundRule := ⟨ParseErrors.reported, { severity := .warning }⟩
    let l : Linter := { rules := [⟨Tags.lowercase, {}⟩, b], distinct := by decide }
    b ∈ l.rules ∧ (∀ node ∈ d.nodes, ¬ node.isLinterIgnore) ∧
      ∃ own, List.Forall₂ Offense.Reports
          [error "top" 1, error "tree" 1, error "tag" 1, error "text" 3] own ∧
        (own.filter fun o => l.ignoresComments || !decide (d.Suppresses l.scope o)).Sublist
          (l.lint d none []).offenses := by
  intro error comment tag root d b l
  have hb : b ∈ l.rules := .tail _ (.head _)
  have included : ∀ node ∈ d.nodes, ¬ node.isLinterIgnore := by decide +kernel
  obtain ⟨hreports, -, -, hkept, -⟩ :=
    @errors_reported l d b none [] hb rfl rfl List.not_mem_nil rfl included
  exact ⟨hb, included, _, hreports, hkept⟩

end Linter

end TemplateLint
