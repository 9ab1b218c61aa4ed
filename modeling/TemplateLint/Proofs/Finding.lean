import TemplateLint.Linter.Autofix
import TemplateLint.Proofs.Names
import TemplateLint.Proofs.Suppression
/-!
# Finding comments — three ways, one list

Suppression finds the comments of a tree by a worklist, the rules about comments
on a tour that goes no further at ERB nodes, and a comment that excludes the whole
document is looked for on a tour that stops at the first. All three meet the nodes
of the tree in the order of reading (`Node.finders_agree`), so that what suppresses
an offense and what the rules about comments judge are the same.
-/

namespace TemplateLint

namespace Node

/-- A comment that suppresses rules: the node, and the directive it holds. -/
def directed? (node : Node) : Option (Node × Directive) :=
  (node.commentContent?.bind Directive.parse?).map fun directive => (node, directive)

/-- What the rules about comments are told of such a node. -/
def told? (found : Node × Directive) : Option DisableComment :=
  found.1.comment?.map fun comment => ⟨comment, found.2⟩

/-- **A node is found with the directive it holds.** -/
theorem directed?_eq_some_iff {node : Node} {found : Node × Directive} :
    node.directed? = some found ↔ found.1 = node ∧ node.Holds found.2 := by
  obtain ⟨node', directive⟩ := found
  simp only [directed?, commentContent?, Option.map_eq_some_iff, Option.bind_eq_some_iff,
    commentToken?_eq_some_iff, Holds, Prod.mk.injEq]
  constructor
  · rintro ⟨directive, ⟨-, ⟨content, ⟨opening, closing, location, errors, rfl, hopening⟩, rfl⟩,
      hdirective⟩, rfl, rfl⟩
    exact ⟨rfl, opening, content, closing, location, errors, rfl, hopening, hdirective⟩
  · rintro ⟨rfl, opening, content, closing, location, errors, rfl, hopening, hdirective⟩
    exact ⟨directive, ⟨_, ⟨content, ⟨opening, closing, location, errors, rfl, hopening⟩, rfl⟩,
      hdirective⟩, rfl, rfl⟩

/-- What suppression reads off a node is what it is found with. -/
theorem directed?_bind_told? (node : Node) :
    node.directed?.bind told? = node.comment?.bind Comment.disabling? := by
  unfold directed? commentContent? comment? Comment.disabling?
  cases htoken : node.commentToken? with
  | none => rfl
  | some content =>
    cases hdirective : Directive.parse? content.value <;>
      simp [told?, comment?, htoken, hdirective]

theorem isSome_told? {node : Node} {found : Node × Directive} (h : node.directed? = some found) :
    (told? found).isSome := by
  obtain ⟨rfl, opening, content, closing, location, errors, hnode, hopening, -⟩ :=
    directed?_eq_some_iff.1 h
  have htoken := commentToken?_eq_some_iff.2
    ⟨opening, closing, location, errors, hnode, hopening⟩
  rw [told?, comment?, htoken]
  rfl

/-- **The comments that suppress rules** are what is found in the order of reading,
each told once. -/
theorem map_told? (root : Node) :
    (root.preorder.filterMap directed?).map told? = root.disableComments.map some := by
  have hdisabling : root.disableComments = (root.preorder.filterMap directed?).filterMap told? := by
    rw [disableComments, listing_eq_preorders, preorders_singleton, List.filterMap_filterMap]
    exact List.filterMap_congr fun node _ => (directed?_bind_told? node).symm
  rw [hdisabling, List.map_filterMap_some_eq_filter_map_isSome]
  refine (List.filter_eq_self.2 fun told htold => ?_).symm
  obtain ⟨found, hfound, rfl⟩ := List.mem_map.1 htold
  obtain ⟨node, -, hnode⟩ := List.mem_filterMap.1 hfound
  exact isSome_told? hnode

/-- A tree excludes its document if one of its nodes says so. -/
theorem ignoresLinter_iff {root : Node} :
    root.ignoresLinter ↔ ∃ node ∈ root.preorder, ∃ opening content closing location errors,
      node = .leaf (.erb (some opening) (some content) closing) location errors ∧
        opening.value = Directive.commentOpening ∧
        content.value.trim = Directive.linterIgnore := by
  rw [ignoresLinter, isSome_trigger_tour]
  refine exists_congr fun node => and_congr_right fun _ => ?_
  simp only [isLinterIgnore, commentContent?, Option.any_eq_true, Option.map_eq_some_iff,
    commentToken?_eq_some_iff, Directive.isLinterIgnore, beq_iff_eq]
  constructor
  · rintro ⟨-, ⟨content, ⟨opening, closing, location, errors, rfl, hopening⟩, rfl⟩, hignore⟩
    exact ⟨opening, content, closing, location, errors, rfl, hopening, hignore⟩
  · rintro ⟨opening, content, closing, location, errors, rfl, hopening, hignore⟩
    exact ⟨_, ⟨content, ⟨opening, closing, location, errors, rfl, hopening⟩, rfl⟩, hignore⟩

end Node

/-- **A rule about directives judges the comments that suppress rules**, one by one
and in the order of reading. -/
theorem DisableComments.check_aboutDirectives {d : Document} {root : Node}
    (hroot : d.root = some root) (name : String) (severity : Severity)
    (offenses : DisableComment → Context → List Offense) (context : Context) :
    (aboutDirectives name severity offenses).check (.document d) context =
      .ok (root.disableComments.flatMap fun c => offenses c context) := by
  simp only [aboutDirectives, aboutComments, Rule.onDocument, hroot,
    Node.disableComments_eq_filterMap, List.filterMap_eq_flatMap_toList, List.flatMap_assoc]
  refine congrArg Except.ok (congrArg (List.flatMap · root.comments) (funext fun comment => ?_))
  cases comment.disabling? <;> simp

namespace Linter

/-- Linting and fixing pass over a document: they come to an end, nothing is reported
or counted, and nothing is changed. -/
structure PassesOver (l : Linter) (d : Document) (fileName : Option String)
    (disabled : List String) : Prop where
  linted : l.lint? d fileName disabled = .ok (l.lint d fileName disabled)
  offenses : (l.lint d fileName disabled).offenses = []
  ignored : (l.lint d fileName disabled).ignored = 0
  fixed : l.autofix? d fileName disabled = .ok (l.autofix d fileName disabled)
  source : (l.autofix d fileName disabled).source = d.source
  untouched : (l.autofix d fileName disabled).fixed = [] ∧
    (l.autofix d fileName disabled).unfixed = []

/-- An excluded document is passed over. -/
theorem passesOver_of_isExcluded {d : Document} (h : isExcluded d) (l : Linter)
    (fileName : Option String) (disabled : List String) : l.PassesOver d fileName disabled := by
  have hlinted : l.lint? d fileName disabled = .ok (l.lint d fileName disabled) :=
    lint?_of_isExcluded h
  have hlint : l.lint d fileName disabled = excludedResult fileName := if_pos h
  have hautofix : l.autofix d fileName disabled =
      { source := d.source, log := (excludedResult fileName).log } := by
    rw [autofix, hlint]
    rfl
  refine ⟨hlinted, ?_, ?_, ?_, ?_, ?_⟩
  · rw [hlint]
    rfl
  · rw [hlint]
    rfl
  · rw [autofix?, hlinted, hautofix, hlint]
    rfl
  · rw [hautofix]
  · rw [hautofix]
    exact ⟨rfl, rfl⟩

end Linter

namespace Node

/-- **The three ways to find comments agree.** The worklist and the tour that goes no
further at ERB nodes find the same nodes with the same directives: the comments of the
tree that hold a directive, in the order of reading. These are what suppression reads,
and what every rule about directives judges. The tour that stops finds a comment that
excludes the document if there is one at any depth, and then linting and fixing pass
over the document. -/
theorem finders_agree (root : Node) :
    let found := root.preorder.filterMap directed?
    (∀ node pair, directed? node = some pair ↔ pair.1 = node ∧ node.Holds pair.2) ∧
    (listing [root]).filterMap directed? = found ∧
    ((root.tour (fun _ => false) fun node => node.kind == .erb).skipped.filterMap
      fun visit => directed? visit.node) = found ∧
    found.map told? = root.disableComments.map some ∧
    (∀ d, d.root = some root → ∀ name severity offenses context,
      (DisableComments.aboutDirectives name severity offenses).check (.document d) context =
        .ok (root.disableComments.flatMap fun c => offenses c context)) ∧
    (root.ignoresLinter ↔ ∃ node ∈ root.preorder, ∃ opening content closing location errors,
      node = .leaf (.erb (some opening) (some content) closing) location errors ∧
        opening.value = "<%#".toList ∧ content.value.trim = "herb:linter ignore".toList) ∧
    (root.ignoresLinter → ∀ d, d.root = some root → ∀ (l : Linter) fileName disabled,
      l.PassesOver d fileName disabled) := by
  intro found
  refine ⟨fun _ _ => directed?_eq_some_iff, ?_, filterMap_skipped_erb (fun node pair h => ?_) root,
    map_told? root, fun d hroot name severity offenses =>
      DisableComments.check_aboutDirectives hroot name severity offenses,
    ignoresLinter_iff, fun hignores d hroot l fileName disabled => ?_⟩
  · rw [listing_eq_preorders, preorders_singleton]
  · obtain ⟨-, opening, content, closing, location, errors, rfl, -⟩ := directed?_eq_some_iff.1 h
    rfl
  · refine Linter.passesOver_of_isExcluded ?_ l fileName disabled
    rw [Linter.isExcluded, hroot, Option.any_some]
    exact hignores

/-- A comment inside an element, behind another inside its opening tag: the second one
excludes the document, and linting finds nothing in it. -/
theorem finders_agree_nested :
    let comment (content : String) : Node :=
      .leaf (.erb (some ⟨"<%#".toList, .fallback⟩) (some ⟨content.toList, .fallback⟩) none)
        .fallback []
    let tag : Node := .branch (.openTag none) .fallback [] [comment " herb:disable all "]
    let root : Node := .branch .document .fallback []
      [.element .fallback [] (some tag) [comment "\therb:linter ignore\n"] none]
    let d : Document := ⟨"<%#".toList, some root, []⟩
    root.ignoresLinter ∧ root.disableComments.length = 1 ∧
      (Linter.standard {}).PassesOver d none [] := by
  intro comment tag root d
  have hignores : root.ignoresLinter := by decide +kernel
  exact ⟨hignores, by decide +kernel,
    (finders_agree root).2.2.2.2.2.2 hignores d rfl (Linter.standard {}) none []⟩

end Node

end TemplateLint
