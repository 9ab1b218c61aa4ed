import TemplateLint.Template.Parser
import TemplateLint.Proofs.Builtins
import TemplateLint.Proofs.Text
import TemplateLint.Proofs.Tree
/-!
# Suppression — what linting drops

An offense is suppressed if some comment of the tree names its rule and
reaches its line (`Document.Suppresses`). This file shows that the linter
drops these offenses and no other: the worklist finds every comment, the
sorting and the search from the end only decide which of them gets the
credit, and the deferred rule adds to what is kept and takes nothing away.
-/

namespace TemplateLint

/-- The node is a comment that can be read as a directive. -/
def Node.Holds (node : Node) (directive : Directive) : Prop :=
  ∃ opening content closing location errors,
    node = .leaf (.erb (some opening) (some content) closing) location errors ∧
      opening.value = Directive.commentOpening ∧
      Directive.parse? content.value = some directive

/-- The directive names a rule, or all rules. -/
def Directive.Names (directive : Directive) (rule : String) : Prop :=
  Directive.everyRule ∈ directive.ruleNames ∨ rule ∈ directive.ruleNames

/-- A comment on one line reaches an offense on another. -/
def DisableScope.Reaches (commentLine offenseLine : Nat) : DisableScope → Prop
  | .remainder => commentLine ≤ offenseLine
  | .line => commentLine = offenseLine

/-- **An offense is suppressed**: its rule is not one about comments, and a
comment of the document names the rule and reaches the offense. -/
def Document.Suppresses (scope : DisableScope) (d : Document) (o : Offense) : Prop :=
  ¬ DisableComments.namePrefix.toList <+: o.rule.toList ∧
    ∃ node ∈ d.nodes, ∃ directive, node.Holds directive ∧ directive.Names o.rule ∧
      scope.Reaches node.location.start.line o.location.start.line

/-! ## The comments of a document -/

theorem Directive.disables_iff {directive : Directive} {rule : String} :
    directive.disables rule ↔ directive.Names rule := by
  simp [Directive.disables, Directive.disablesAll, Directive.Names]

theorem DisableScope.reaches_iff {scope : DisableScope} {a b : Nat} :
    scope.reaches a b ↔ scope.Reaches a b := by
  cases scope <;> simp [DisableScope.reaches, DisableScope.Reaches]

namespace Node

/-- A node has the content of a comment if it is an ERB node that opens as a comment
does. -/
theorem commentToken?_eq_some_iff {node : Node} {content : Token} :
    node.commentToken? = some content ↔ ∃ opening closing location errors,
      node = .leaf (.erb (some opening) (some content) closing) location errors ∧
        opening.value = Directive.commentOpening := by
  constructor
  · intro h
    unfold commentToken? at h
    split at h
    · rename_i opening content' closing location errors
      obtain ⟨hopening, rfl⟩ := Option.ite_none_right_eq_some.1 h
      exact ⟨opening, closing, location, errors, rfl, hopening⟩
    · cases h
  · rintro ⟨opening, closing, location, errors, rfl, hopening⟩
    exact if_pos hopening

theorem kind_of_commentToken? {node : Node} {content : Token}
    (h : node.commentToken? = some content) : node.kind = .erb := by
  obtain ⟨opening, closing, location, errors, rfl, -⟩ := commentToken?_eq_some_iff.1 h
  rfl

/-- Reading a node as a comment that suppresses rules finds the directive it
holds. -/
theorem exists_disabling_iff {node : Node} {position : Position} {directive : Directive} :
    (∃ c, node.comment?.bind Comment.disabling? = some c ∧
      c.location.start = position ∧ c.directive = directive) ↔
      node.Holds directive ∧ node.location.start = position := by
  constructor
  · rintro ⟨c, hc, rfl, rfl⟩
    obtain ⟨comment, hcomment, hdisabling⟩ := Option.bind_eq_some_iff.1 hc
    obtain ⟨content, hcontent, rfl⟩ := Option.map_eq_some_iff.1 hcomment
    obtain ⟨directive, hdirective, rfl⟩ := Option.map_eq_some_iff.1 hdisabling
    obtain ⟨opening, closing, location, errors, rfl, hopening⟩ :=
      commentToken?_eq_some_iff.1 hcontent
    exact ⟨⟨opening, content, closing, location, errors, rfl, hopening, hdirective⟩, rfl⟩
  · rintro ⟨⟨opening, content, closing, location, errors, rfl, hopening, hdirective⟩, rfl⟩
    exact ⟨⟨⟨location, content⟩, directive⟩,
      by simp [comment?, commentToken?, hopening, Comment.disabling?, hdirective, Node.location],
      rfl, rfl⟩

end Node

namespace Suppression

/-- **Every comment is collected, and nothing else.** -/
theorem mem_collect {d : Document} {s : Suppression} :
    s ∈ collect d ↔
      ∃ node ∈ d.nodes, node.Holds s.directive ∧ node.location.start = s.position := by
  cases hroot : d.root with
  | none => simp [collect, Document.nodes, hroot]
  | some root =>
    -- Sorting keeps the members, and the worklist reads every node once.
    simp only [collect, Document.nodes, hroot, Option.elim_some, List.mem_mergeSort, List.mem_map,
      Node.disableComments, List.mem_filterMap, Node.listing_eq_preorders,
      Node.preorders_singleton, ← Node.exists_disabling_iff]
    constructor
    · rintro ⟨c, ⟨node, hnode, hc⟩, rfl⟩
      exact ⟨node, hnode, c, hc, rfl, rfl⟩
    · rintro ⟨node, hnode, c, hc, hposition, hdirective⟩
      exact ⟨c, ⟨node, hnode, hc⟩, by rw [ofComment, hposition, hdirective]⟩

theorem isExempt_iff {rule : String} :
    isExempt rule ↔ DisableComments.namePrefix.toList <+: rule.toList :=
  Text.startsWith_iff_prefix

variable {scope : DisableScope} {suppressions : List Suppression}

theorem covers_iff {s : Suppression} {o : Offense} :
    s.covers scope o ↔
      s.directive.Names o.rule ∧ scope.Reaches s.position.line o.start.line := by
  rw [covers, Bool.and_eq_true, Directive.disables_iff, DisableScope.reaches_iff]

/-- Some suppression gets the credit if the offense is not exempt and any
covers it, wherever that stands in the list. -/
theorem isSome_credited?_iff {o : Offense} :
    (credited? scope suppressions o).isSome ↔
      ¬ isExempt o.rule ∧ ∃ s ∈ suppressions, s.covers scope o := by
  by_cases h : isExempt o.rule <;> simp [credited?, h]

/-- **The search over the collected comments decides suppression.** -/
theorem isSome_credited?_collect {d : Document} {o : Offense} :
    (credited? scope (collect d) o).isSome ↔ d.Suppresses scope o := by
  rw [isSome_credited?_iff, Document.Suppresses, isExempt_iff]
  refine and_congr_right fun _ => ?_
  constructor
  · rintro ⟨s, hs, hcovers⟩
    obtain ⟨node, hnode, hholds, hposition⟩ := mem_collect.1 hs
    obtain ⟨hnames, hreaches⟩ := covers_iff.1 hcovers
    exact ⟨node, hnode, s.directive, hholds, hnames, hposition ▸ hreaches⟩
  · rintro ⟨node, hnode, directive, hholds, hnames, hreaches⟩
    exact ⟨⟨node.location.start, directive⟩, mem_collect.2 ⟨node, hnode, hholds, rfl⟩,
      covers_iff.2 ⟨hnames, hreaches⟩⟩

/-! ## Filtering -/

/-- Kept is what no suppression gets the credit for. -/
theorem kept_filter (offenses : List Offense) :
    (filter scope suppressions offenses).kept =
      offenses.filter fun o => (credited? scope suppressions o).isNone := by
  induction offenses with
  | nil => rfl
  | cons o offenses ih =>
    rw [filter, List.filter_cons]
    cases h : credited? scope suppressions o <;> simp [ih]

/-- Each offense that is not kept is credited once. -/
theorem ignored_filter (offenses : List Offense) :
    (filter scope suppressions offenses).ignored =
      offenses.countP fun o => (credited? scope suppressions o).isSome := by
  induction offenses with
  | nil => rfl
  | cons o offenses ih =>
    rw [filter, List.countP_cons]
    cases h : credited? scope suppressions o <;> simp [← ih, Filtered.ignored]

end Suppression

instance (scope : DisableScope) (d : Document) (o : Offense) :
    Decidable (d.Suppresses scope o) :=
  decidable_of_iff _ Suppression.isSome_credited?_collect

namespace Suppression

variable {scope : DisableScope} {d : Document}

/-- Kept is what no comment of the document suppresses. -/
theorem kept_filter_collect (offenses : List Offense) :
    (filter scope (collect d) offenses).kept = offenses.filter fun o => ¬ d.Suppresses scope o := by
  rw [kept_filter]
  refine List.filter_congr fun o _ => ?_
  rw [Bool.eq_iff_iff, decide_eq_true_iff, ← isSome_credited?_collect, Bool.not_eq_true,
    Option.isSome_eq_false_iff]

/-- Ignored is what some comment of the document suppresses. -/
theorem ignored_filter_collect (offenses : List Offense) :
    (filter scope (collect d) offenses).ignored =
      offenses.countP fun o => d.Suppresses scope o := by
  rw [ignored_filter]
  refine List.countP_congr fun o _ => ?_
  rw [isSome_credited?_collect, decide_eq_true_iff]

end Suppression

/-! ## Linting -/

namespace Linter

variable {l : Linter} {d : Document} {context : Context} {raw : List Offense}

/-- A document is excluded if any of its nodes says so. -/
theorem isExcluded_iff : isExcluded d ↔ ∃ node ∈ d.nodes, node.isLinterIgnore := by
  cases hroot : d.root with
  | none => simp [isExcluded, Document.nodes, hroot]
  | some root =>
    simp only [isExcluded, Document.nodes, hroot, Option.any_some, Option.elim_some,
      Node.ignoresLinter, Node.isSome_trigger_tour]

theorem not_isExcluded (included : ∀ node ∈ d.nodes, ¬ node.isLinterIgnore) : ¬ isExcluded d := by
  rw [isExcluded_iff]
  rintro ⟨node, hnode, hignore⟩
  exact included node hnode hignore

/-- **At most one rule is deferred**, because names are distinct. -/
theorem deferredRule_eq :
    l.deferredRule d context = [] ∨
      ∃ b ∈ l.rules, b.name = DisableComments.unnecessaryName ∧ isActive d context b ∧
        l.deferredRule d context = [b] := by
  have names : ∀ b ∈ l.deferredRule d context, b ∈ l.rules ∧
      b.name = DisableComments.unnecessaryName ∧ isActive d context b := by
    intro b hb
    simpa [deferredRule, isDeferred] using hb
  have distinct : ((l.deferredRule d context).map BoundRule.name).Nodup :=
    l.distinct.sublist (List.filter_sublist.map _)
  -- Two deferred rules would share a name.
  rcases h : l.deferredRule d context with _ | ⟨b, _ | ⟨c, rest⟩⟩
  · exact .inl rfl
  · obtain ⟨hmem, hname, hactive⟩ := names b (by simp [h])
    exact .inr ⟨b, hmem, hname, hactive, rfl⟩
  · obtain ⟨-, hb, -⟩ := names b (by simp [h])
    obtain ⟨-, hc, -⟩ := names c (by simp [h])
    simp [h, hb, hc] at distinct

/-- Kept are the offenses that are not suppressed. The deferred rule, if
it runs, adds its own behind them. -/
theorem offenses_settle (h : l.ignoresComments = false) :
    ∃ tail, (l.settle d context raw).offenses =
        (raw.filter fun o => ¬ d.Suppresses l.scope o) ++ tail ∧
      (tail = [] ∨ ∃ b ∈ l.rules, b.name = DisableComments.unnecessaryName ∧
        isActive d context b ∧
        ∃ usage, tail = offensesOf d { context with usage := some usage } b) := by
  simp only [settle, h, Bool.false_eq_true, if_false]
  rw [← Suppression.kept_filter_collect]
  split
  · exact ⟨[], (List.append_nil _).symm, .inl rfl⟩
  · refine ⟨_, rfl, ?_⟩
    rcases @deferredRule_eq l d context with hnone | hsome
    · exact .inl (by rw [hnone, List.flatMap_nil])
    · obtain ⟨b, hmem, hname, hactive, hb⟩ := hsome
      exact .inr ⟨b, hmem, hname, hactive, _, by rw [hb, List.flatMap_singleton]⟩

/-- What is not kept is counted. -/
theorem ignored_settle (h : l.ignoresComments = false) :
    (l.settle d context raw).ignored = raw.countP fun o => d.Suppresses l.scope o := by
  simp only [settle, h, Bool.false_eq_true, if_false]
  rw [← Suppression.ignored_filter_collect]
  split <;> rfl

/-- Of an excluded document no rule is asked. -/
theorem lint?_of_isExcluded {fileName : Option String} {disabled : List String}
    (h : isExcluded d) :
    l.lint? d fileName disabled = .ok (l.lint d fileName disabled) := by
  rw [lint?, lint, if_pos h, if_pos h]

/-- Linting a document that is not excluded breaks off unless every rule
can be asked whether it is active, and every offense belongs to a rule
whose name is a text. -/
theorem lint?_eq_ok_iff {fileName : Option String} {disabled : List String}
    (h : ¬ isExcluded d) :
    l.lint? d fileName disabled = .ok (l.lint d fileName disabled) ↔
      (∀ b ∈ l.rules, askingFailure? d (l.context fileName disabled) b = none) ∧
        ∀ o ∈ l.rawOffenses d (l.context fileName disabled), o.namesRule := by
  rw [lint?, lint, if_neg h, if_neg h, lintIncluded?, ← List.findSome?_eq_none_iff]
  -- Names are looked at only when every rule could be asked.
  rcases List.findSome? (askingFailure? d (l.context fileName disabled)) l.rules with _ | crash
  · simp only [true_and, ← List.all_eq_true]
    split
    · rename_i hall
      simp [hall]
    · rename_i hall
      simp [hall]
  · simp

/-- With rules of the library, linting breaks off only if a rule that is not
disabled cannot tell whether it applies to the file. -/
theorem lint?_eq_ok_iff_applies (h : ∀ b ∈ l.rules, b.rule ∈ Rule.builtins)
    {fileName : Option String} {disabled : List String} (included : ¬ isExcluded d) :
    l.lint? d fileName disabled = .ok (l.lint d fileName disabled) ↔
      ∀ b ∈ l.rules, b.name ∈ (l.context fileName disabled).disabled ∨
        (b.settings.appliesTo? fileName).isSome := by
  have hnames : ∀ o ∈ l.rawOffenses d (l.context fileName disabled), o.namesRule := by
    intro o ho
    obtain ⟨b, hb, ho⟩ := List.mem_flatMap.1 ho
    rw [Offense.namesRule, (reportedBy_of_mem_builtins (h b (List.mem_filter.1 hb).1) ho).2]
    rfl
  rw [lint?_eq_ok_iff included, and_iff_left hnames]
  exact forall₂_congr fun b hb => askingFailure?_eq_none_iff (h b hb)

theorem RunsBuiltins.lint?_eq_ok_iff_applies (h : l.RunsBuiltins) {fileName : Option String}
    {disabled : List String} (included : ¬ isExcluded d) :
    l.lint? d fileName disabled = .ok (l.lint d fileName disabled) ↔
      ∀ b ∈ l.rules, b.name ∈ (l.context fileName disabled).disabled ∨
        (b.settings.appliesTo? fileName).isSome :=
  Linter.lint?_eq_ok_iff_applies (fun _ hb => h.mem hb) included

/-- **Suppression is exact.** In a document that no comment excludes, the
offenses of the active rules, in order, are reported except for those that
a comment suppresses, which are counted. Behind them stands only what the
deferred rule reports. Where comments are to be ignored, all is reported.
Linting comes to this result unless a rule cannot be asked whether it is
active, or has no text for a name. -/
theorem lint_suppresses_exactly (l : Linter) (d : Document) (fileName : Option String)
    (disabled : List String) (included : ∀ node ∈ d.nodes, ¬ node.isLinterIgnore) :
    let context := l.context fileName disabled
    let raw := (l.rules.filter fun b =>
      isActive d context b && b.name != DisableComments.unnecessaryName).flatMap
        (offensesOf d context)
    let result := l.lint d fileName disabled
    (l.lint? d fileName disabled = .ok result ↔
      (∀ b ∈ l.rules, askingFailure? d context b = none) ∧ ∀ o ∈ raw, o.namesRule) ∧
    (l.ignoresComments = true → result.offenses = raw ∧ result.ignored = 0) ∧
    (l.ignoresComments = false →
      (∃ tail, result.offenses = (raw.filter fun o => ¬ d.Suppresses l.scope o) ++ tail ∧
        (tail = [] ∨ ∃ b ∈ l.rules, b.name = DisableComments.unnecessaryName ∧
          isActive d context b ∧
          ∃ usage, tail = offensesOf d { context with usage := some usage } b)) ∧
      result.ignored = raw.countP fun o => d.Suppresses l.scope o) := by
  intro context raw result
  have hincluded : ¬ isExcluded d := by
    rw [isExcluded_iff]
    rintro ⟨node, hnode, hignore⟩
    exact included node hnode hignore
  have hresult : result = l.settle d context raw := if_neg hincluded
  refine ⟨lint?_eq_ok_iff hincluded, fun h => ?_, fun h => ?_⟩
  · rw [hresult, settle, if_pos h]
    exact ⟨rfl, rfl⟩
  · rw [hresult]
    exact ⟨offenses_settle h, ignored_settle h⟩

/-- Two comments on one line, of which the second cannot be read, and a tag
behind them: the offense of the tag is counted. The one about the comment
is exempt, and the tag on the next line is out of reach. -/
theorem lint_suppresses_exactly_twoComments :
    let l := standard { scope := .line }
    let d := Document.parse
      "<%# herb:disable all %><%# herb:disable erb-no-extra-newline, %><DIV>\n<B>".toList
    (∀ node ∈ d.nodes, ¬ node.isLinterIgnore) ∧
      (l.lint d none []).ignored =
        (l.rawOffenses d (l.context none [])).countP fun o => d.Suppresses .line o :=
  ⟨by decide +kernel,
    ((lint_suppresses_exactly (standard { scope := .line })
      (Document.parse
        "<%# herb:disable all %><%# herb:disable erb-no-extra-newline, %><DIV>\n<B>".toList)
      none [] (by decide +kernel)).2.2 rfl).2⟩

end Linter

end TemplateLint
