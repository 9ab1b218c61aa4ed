import TemplateLint.Proofs.Advice
import TemplateLint.Proofs.Builtins
import TemplateLint.Proofs.Checks
import TemplateLint.Proofs.Finding
/-!
# Suppression — comments that are of no use

Of the comments that cover an offense, the nearest gets the credit
(`Document.Credits`). It is kept by the line the comment starts on. So the rule
about unnecessary comments reports each name of a comment unless an offense of
that rule was credited to a comment that starts on the same line, and each
comment for all rules unless anything was (`Linter.idle_reported`). Of two
comments on one line with the same name, the one without credit is passed over
(`Linter.idle_sharedLine`).
-/

namespace TemplateLint

/-! ## The credit -/

/-- The comment names the rule of an offense and reaches its line. -/
def DisableComment.Covers (scope : DisableScope) (c : DisableComment) (o : Offense) : Prop :=
  c.directive.Names o.rule ∧ scope.Reaches c.location.start.line o.start.line

/-- **A comment gets the credit for an offense**: it covers the offense, and of
all comments of the document that do so none starts behind it. The offenses of
the rules about comments are credited to none. -/
structure Document.Credits (scope : DisableScope) (d : Document) (c : DisableComment)
    (o : Offense) : Prop where
  plain : ¬ DisableComments.namePrefix.toList <+: o.rule.toList
  mem : c ∈ d.disableComments
  covers : c.Covers scope o
  nearest : ∀ c' ∈ d.disableComments, c'.Covers scope o → c'.location.start ≤ c.location.start

namespace Suppression

variable {scope : DisableScope} {d : Document} {o : Offense} {s : Suppression}

theorem covers_ofComment {c : DisableComment} : (ofComment c).covers scope o ↔ c.Covers scope o :=
  covers_iff

theorem collect_eq (d : Document) :
    collect d = (d.disableComments.map ofComment).mergeSort
      fun a b => decide (a.position ≤ b.position) := by
  cases hroot : d.root with
  | none => simp [collect, Document.disableComments, hroot]
  | some root => simp [collect, Document.disableComments, hroot]

/-- Comments that stand in order are searched in that order. -/
theorem collect_eq_of_pairwise
    (h : (d.disableComments.map ofComment).Pairwise fun a b => a.position ≤ b.position) :
    collect d = d.disableComments.map ofComment := by
  rw [collect_eq]
  exact List.mergeSort_of_pairwise (h.imp decide_eq_true)

/-- The comments are searched in the order in which they start. -/
theorem pairwise_collect (d : Document) :
    (collect d).Pairwise fun a b => a.position ≤ b.position := by
  have htrans : ∀ a b c : Suppression, decide (a.position ≤ b.position) = true →
      decide (b.position ≤ c.position) = true → decide (a.position ≤ c.position) = true := by
    intro a b c hab hbc
    rw [decide_eq_true_eq] at hab hbc ⊢
    exact Position.le_trans hab hbc
  have htotal : ∀ a b : Suppression,
      (decide (a.position ≤ b.position) || decide (b.position ≤ a.position)) = true := by
    intro a b
    rw [Bool.or_eq_true, decide_eq_true_eq, decide_eq_true_eq, Position.le_def, Position.le_def]
    omega
  rw [collect_eq]
  exact (List.pairwise_mergeSort htrans htotal _).imp of_decide_eq_true

/-- What is found last in a sorted list is the greatest of its kind. -/
theorem position_le_of_credited? {suppressions : List Suppression}
    (hsorted : suppressions.Pairwise fun a b => a.position ≤ b.position)
    (h : credited? scope suppressions o = some s) :
    ∀ s' ∈ suppressions, s'.covers scope o → s'.position ≤ s.position := by
  rw [credited?, Option.ite_none_left_eq_some] at h
  obtain ⟨-, before, behind, hsplit, hnone⟩ := List.find?_eq_some_iff_append.1 h.2
  intro s' hs' hcovers
  rw [← List.reverse_reverse suppressions, hsplit] at hsorted hs'
  rw [List.pairwise_reverse] at hsorted
  rcases List.mem_append.1 (List.mem_reverse.1 hs') with hbefore | hbehind
  · have hnot := hnone s' hbefore
    simp only [hcovers, Bool.not_true, Bool.false_eq_true] at hnot
  · rcases List.mem_cons.1 hbehind with rfl | hbehind
    · exact Position.le_refl _
    · exact List.rel_of_pairwise_cons (List.pairwise_append.1 hsorted).2.1 hbehind

/-- **The search finds the comment that gets the credit.** -/
theorem exists_credits (h : credited? scope (collect d) o = some s) :
    ∃ c, d.Credits scope c o ∧ c.location.start = s.position := by
  have hle := position_le_of_credited? (pairwise_collect d) h
  have hmem : ∀ s', s' ∈ collect d ↔ ∃ c ∈ d.disableComments, ofComment c = s' := by
    intro s'
    rw [collect_eq, List.mem_mergeSort, List.mem_map]
  rw [credited?, Option.ite_none_left_eq_some] at h
  obtain ⟨hplain, hfind⟩ := h
  obtain ⟨c, hc, rfl⟩ := (hmem s).1 (List.mem_reverse.1 (List.mem_of_find?_eq_some hfind))
  have hcovers : covers scope (ofComment c) o := List.find?_some (p := (covers scope · o)) hfind
  refine ⟨c, ⟨fun hprefix => hplain (isExempt_iff.2 hprefix), hc, covers_ofComment.1 hcovers,
    fun c' hc' hcovers => ?_⟩, rfl⟩
  exact hle (ofComment c') ((hmem _).2 ⟨c', hc', rfl⟩) (covers_ofComment.2 hcovers)

/-- What is recorded was credited for some offense. -/
theorem exists_of_mem_usage {suppressions : List Suppression} {offenses : List Offense}
    {line : Nat} {rule : String}
    (h : (line, rule) ∈ (filter scope suppressions offenses).usage) :
    ∃ o ∈ offenses, o.rule = rule ∧
      ∃ s, credited? scope suppressions o = some s ∧ s.position.line = line := by
  induction offenses with
  | nil => cases h
  | cons o offenses ih =>
    rw [filter] at h
    rcases hs : credited? scope suppressions o with _ | s
    · rw [hs] at h
      obtain ⟨o', ho', hcredit⟩ := ih h
      exact ⟨o', .tail _ ho', hcredit⟩
    · rw [hs] at h
      rcases List.mem_cons.1 h with hfirst | hrest
      · cases hfirst
        exact ⟨o, .head _, rfl, s, hs, rfl⟩
      · obtain ⟨o', ho', hcredit⟩ := ih hrest
        exact ⟨o', .tail _ ho', hcredit⟩

end Suppression

/-- An offense is credited to a comment that starts on a line. -/
def Document.CreditsLine (scope : DisableScope) (d : Document) (line : Nat) (o : Offense) : Prop :=
  ∃ c, d.Credits scope c o ∧ c.location.start.line = line

section Decidable

variable (scope : DisableScope) (d : Document) (c : DisableComment) (o : Offense)

instance : Decidable (c.Covers scope o) :=
  decidable_of_iff _ Suppression.covers_ofComment

instance : Decidable (d.Credits scope c o) :=
  decidable_of_iff
    (¬ DisableComments.namePrefix.toList <+: o.rule.toList ∧ c ∈ d.disableComments ∧
      c.Covers scope o ∧
      ∀ c' ∈ d.disableComments, c'.Covers scope o → c'.location.start ≤ c.location.start)
    ⟨fun ⟨plain, mem, covers, nearest⟩ => ⟨plain, mem, covers, nearest⟩,
      fun h => ⟨h.plain, h.mem, h.covers, h.nearest⟩⟩

instance (line : Nat) : Decidable (d.CreditsLine scope line o) :=
  decidable_of_iff (∃ c ∈ d.disableComments, d.Credits scope c o ∧ c.location.start.line = line)
    ⟨fun ⟨c, _, hc⟩ => ⟨c, hc⟩, fun ⟨c, hc⟩ => ⟨c, hc.1.mem, hc⟩⟩

end Decidable

namespace Suppression

variable {scope : DisableScope} {d : Document} {offenses : List Offense} {line : Nat}

/-- **A line is used for a rule** only if an offense of the rule is credited to
a comment on it. -/
theorem exists_of_uses {rule : String}
    (h : (filter scope (collect d) offenses).usage.uses line rule) :
    ∃ o ∈ offenses, o.rule = rule ∧ d.CreditsLine scope line o := by
  rw [Usage.uses, List.contains_iff_mem] at h
  obtain ⟨o, ho, hrule, s, hs, rfl⟩ := exists_of_mem_usage h
  obtain ⟨c, hc, hstart⟩ := exists_credits hs
  exact ⟨o, ho, hrule, c, hc, by rw [hstart]⟩

/-- A line is used at all only if an offense is credited to a comment on it. -/
theorem exists_of_usesAny (h : (filter scope (collect d) offenses).usage.usesAny line) :
    ∃ o ∈ offenses, d.CreditsLine scope line o := by
  obtain ⟨⟨line', rule⟩, hmem, hline⟩ := List.any_eq_true.1 h
  obtain rfl : line' = line := beq_iff_eq.1 hline
  obtain ⟨o, ho, -, hcredits⟩ := exists_of_uses (List.contains_iff_mem.2 hmem)
  exact ⟨o, ho, hcredits⟩

end Suppression

/-! ## The report -/

namespace DisableComments

variable {c : DisableComment} {used : Usage} {ruleNames : List String} {name : String}

/-- **A known name without credit is reported**, where it stands or with the
whole comment. -/
theorem exists_of_idle_name (hall : Directive.everyRule ∉ c.directive.ruleNames)
    (hname : name ∈ c.directive.ruleNames) (hknown : name ∈ ruleNames)
    (hidle : ¬ used.uses c.location.start.line name) :
    ∃ o ∈ unnecessaryOffenses ruleNames used c,
      (∃ names, Suppression.Advises o.message names ∧ name ∈ names) ∧
        (o.location = c.location ∨
          ∃ span ∈ c.directive.names, span.name = name ∧ o.location = c.nameLocation span) := by
  obtain ⟨span, hspan, rfl⟩ := List.mem_map.1 hname
  have hmem : span ∈ idleNames (knownNames ruleNames) used c := by
    have hunused : used.uses c.location.start.line span.name = false := Bool.eq_false_iff.2 hidle
    exact List.mem_filter.2 ⟨hspan, by simp [knownNames, hknown, hunused]⟩
  have hsome : c.directive.disablesAll = false := by
    simpa [Directive.disablesAll] using hall
  simp only [unnecessaryOffenses, hsome, Bool.false_eq_true, if_false, idleOffenses]
  split
  · exact ⟨_, List.mem_map_of_mem hmem,
      ⟨_, Suppression.advises_idleNameOffense span, List.mem_singleton_self _⟩,
      .inr ⟨span, hspan, rfl, rfl⟩⟩
  · split
    · rename_i hnil
      rw [hnil] at hmem
      cases hmem
    · rename_i only hsingle
      rw [hsingle, List.mem_singleton] at hmem
      subst hmem
      exact ⟨_, List.mem_singleton_self _,
        ⟨_, Suppression.advises_idleComment span.name, List.mem_singleton_self _⟩, .inl rfl⟩
    · rename_i hnil hone
      exact ⟨_, List.mem_singleton_self _,
        ⟨_, Suppression.advises_idleComments (Suppression.two_le_length hnil hone),
          List.mem_map_of_mem hmem⟩, .inl rfl⟩

/-- **A comment for all rules is reported** if nothing was credited. -/
theorem exists_of_idle_all (hall : c.directive.ruleNames = [Directive.everyRule])
    (hidle : ¬ used.usesAny c.location.start.line) :
    ∃ o ∈ unnecessaryOffenses ruleNames used c,
      Suppression.Advises o.message [Directive.everyRule] ∧ o.location = c.location := by
  have hevery : c.directive.disablesAll := by simp [Directive.disablesAll, hall]
  have hlength : ¬ c.directive.ruleNames.length > 1 := by simp [hall]
  simp only [unnecessaryOffenses, hevery, if_true, hlength, decide_false, Bool.false_or, hidle,
    Bool.false_eq_true, if_false]
  exact ⟨_, List.mem_singleton_self _, .everything, rfl⟩

/-- What the rule about unnecessary comments reports of a document, once it is
told what was suppressed. -/
theorem check_unnecessary {d : Document} {context : Context} (husage : context.usage = some used)
    (hnames : context.ruleNames ≠ []) :
    unnecessary.check (.document d) context =
      .ok (d.disableComments.flatMap (unnecessaryOffenses context.ruleNames used)) := by
  have hempty : context.ruleNames.isEmpty = false := by simpa using hnames
  cases hroot : d.root with
  | none =>
    simp only [unnecessary, aboutDirectives, aboutComments, Rule.onDocument, hroot,
      Document.disableComments]
    rfl
  | some root =>
    rw [unnecessary, check_aboutDirectives hroot, Document.disableComments, hroot]
    simp only [husage, hempty, Bool.false_eq_true, if_false, Option.elim_some]

end DisableComments

/-- The library's rule of that name is the one about unnecessary comments. -/
theorem Rule.eq_unnecessary {r : Rule} (h : r ∈ Rule.builtins)
    (hname : r.name = DisableComments.unnecessaryName) : r = DisableComments.unnecessary := by
  simp only [Rule.builtins, List.mem_cons, List.not_mem_nil, or_false] at h
  rcases h with rfl | rfl | rfl | rfl | rfl | rfl | rfl | rfl | rfl | rfl
  case inr.inr.inr.inr.inr.inr.inl => rfl
  all_goals exact absurd hname (by decide)

theorem Document.hasDirective_of_mem {d : Document} {c : DisableComment}
    (h : c ∈ d.disableComments) : d.HasDirective := by
  obtain ⟨node, hnode, hc⟩ := mem_disableComments.1 h
  exact ⟨node, hnode, c.directive, (Node.exists_disabling_iff.1 ⟨c, hc, rfl, rfl⟩).1⟩

/-- An offense lies where a name of a comment stands in a source, if no newline
comes before it in the content. -/
def Text.PlacesName (source : Text) (c : DisableComment) (name : String) (l : Location) : Prop :=
  ∃ span ∈ c.directive.names, span.name = name ∧
    ('\n' ∉ c.content.value.take span.offset →
      ∃ first last, c.content = source.token first last ∧ first + span.stop ≤ last ∧
        source.extract (first + span.offset) (first + span.stop) = name.toList ∧
        l = source.span (first + span.offset) (first + span.stop))

/-- An offense of the rule about unnecessary comments that names a rule, at the
comment or at the name in it. -/
structure Offense.ReportsIdle (source : Text) (c : DisableComment) (name : String) (o : Offense) :
    Prop where
  rule : o.rule = DisableComments.unnecessaryName
  message : ∃ names, Suppression.Advises o.message names ∧ name ∈ names
  place : o.location = c.location ∨ source.PlacesName c name o.location

namespace Linter

variable {l : Linter} {d : Document} {fileName : Option String} {disabled : List String}

/-- **What is found about an unnecessary comment is reported.** -/
theorem RunsBuiltins.exists_reported (h : l.RunsBuiltins) (hreads : l.ignoresComments = false)
    (hincluded : ¬ isExcluded d)
    (hactive : ∃ b ∈ l.rules, b.name = DisableComments.unnecessaryName ∧
      isActive d (l.context fileName disabled) b)
    {c : DisableComment} (hc : c ∈ d.disableComments) {o : Offense}
    (ho : o ∈ DisableComments.unnecessaryOffenses l.ruleNames
      (Suppression.filter l.scope (Suppression.collect d)
        (l.rawOffenses d (l.context fileName disabled))).usage c) :
    ∃ o' ∈ (l.lint d fileName disabled).offenses, o'.rule = DisableComments.unnecessaryName ∧
      o'.message = o.message ∧ o'.location = o.location := by
  obtain ⟨b, hb, hname, hactive⟩ := hactive
  have hrule : b.rule = DisableComments.unnecessary := Rule.eq_unnecessary (h.mem hb) hname
  have hnames : l.ruleNames ≠ [] := List.ne_nil_of_mem (List.mem_map_of_mem hb)
  let call := CheckCall.on d (l.usageContext d (l.context fileName disabled)) b
  have hcall : call ∈ l.deferredCalls d (l.context fileName disabled) :=
    mem_deferredCalls.2 ⟨⟨hreads, Document.hasDirective_of_mem hc⟩,
      mem_deferredRule.2 ⟨hb, isDeferred_iff.2 hname, hactive⟩, rfl⟩
  have hanswer : call.answer = .ok (d.disableComments.flatMap
      (DisableComments.unnecessaryOffenses l.ruleNames
        (Suppression.filter l.scope (Suppression.collect d)
          (l.rawOffenses d (l.context fileName disabled))).usage)) := by
    rw [CheckCall.answer, show call.bound.rule = _ from hrule,
      show call.input = .document d by rw [show call.input = b.rule.input d from rfl, hrule]; rfl]
    exact DisableComments.check_unnecessary rfl hnames
  have hmem : o.bind b.settings.severity ∈ call.offenses := by
    rw [CheckCall.offenses, hanswer]
    exact List.mem_map_of_mem (List.mem_flatMap.2 ⟨c, hc, ho⟩)
  refine ⟨_, mem_offenses_lint_of_deferred hincluded hcall hmem, ?_, ?_, ?_⟩
  · exact (h.reportedBy hb hmem).1.trans hname
  · unfold Offense.bind
    split <;> rfl
  · unfold Offense.bind
    split <;> rfl

/-- **Comments that are of no use are reported.** With the library's rules, every
name of a comment that does not stand for all rules is reported if it is the
name of a rule, and no offense of that rule was credited to a comment that
starts on the same line. So is every comment for all rules if nothing was
credited to a comment that starts on its line. Linting comes to a result unless
a rule cannot tell whether it applies to the file. -/
theorem idle_reported {change : String → RuleSettings → Except OverrideError RuleSettings}
    {equipment : Equipment} (hl : ofRules? Rule.builtins change equipment = .ok l)
    (hparse : equipment.parse = some fun source => .ok (Document.parse source))
    (hreads : equipment.ignoresComments = false) (source : Text) (fileName : Option String)
    (disabled : List String)
    (included : ∀ node ∈ (Document.parse source).nodes, ¬ node.isLinterIgnore)
    (hactive : ∃ b ∈ l.rules, b.name = DisableComments.unnecessaryName ∧
      isActive (Document.parse source) (l.context fileName disabled) b) :
    let d := Document.parse source
    let raw := l.rawOffenses d (l.context fileName disabled)
    let result := l.lint d fileName disabled
    (l.lintSource? source fileName disabled = .ok result ↔
      ∀ b ∈ l.rules, b.name ∈ (l.context fileName disabled).disabled ∨
        (b.settings.appliesTo? fileName).isSome) ∧
    (∀ c ∈ d.disableComments, Directive.everyRule ∉ c.directive.ruleNames →
      ∀ name ∈ c.directive.ruleNames, name ∈ l.ruleNames →
        (∀ o ∈ raw, o.rule = name → ¬ d.CreditsLine l.scope c.location.start.line o) →
          ∃ o ∈ result.offenses, o.ReportsIdle source c name) ∧
    ∀ c ∈ d.disableComments, c.directive.ruleNames = [Directive.everyRule] →
      (∀ o ∈ raw, ¬ d.CreditsLine l.scope c.location.start.line o) →
        ∃ o ∈ result.offenses, o.rule = DisableComments.unnecessaryName ∧
          Suppression.Advises o.message [Directive.everyRule] ∧ o.location = c.location := by
  intro d raw result
  obtain ⟨h, hequipment⟩ := runsBuiltins_of_ofRules? hl
  have hread : l.read? source = .ok d := by rw [read?, hequipment, hparse]
  have hincluded : ¬ isExcluded d := not_isExcluded included
  have hreads' : l.ignoresComments = false := hequipment ▸ hreads
  refine ⟨?_, fun c hc hall name hname hknown hidle => ?_, fun c hc hall hidle => ?_⟩
  · rw [lintSource?, hread]
    exact h.lint?_eq_ok_iff_applies hincluded
  · have hunused : ¬ (Suppression.filter l.scope (Suppression.collect d) raw).usage.uses
        c.location.start.line name := by
      intro hused
      obtain ⟨o, ho, hrule, hcredits⟩ := Suppression.exists_of_uses hused
      exact hidle o ho hrule hcredits
    obtain ⟨o, ho, hmessage, hplace⟩ :=
      DisableComments.exists_of_idle_name hall hname hknown hunused
    obtain ⟨o', ho', hrule, hmessage', hlocation⟩ :=
      h.exists_reported hreads' hincluded hactive hc ho
    refine ⟨o', ho', hrule, hmessage' ▸ hmessage, hlocation ▸ hplace.imp_right ?_⟩
    rintro ⟨span, hspan, hsame, hspot⟩
    refine ⟨span, hspan, hsame, fun hline => ?_⟩
    obtain ⟨a, first, last, b, -, hle, hend, hlast, -, hcontent, hdirective⟩ :=
      Document.exists_of_mem_disableComments hc
    rw [hcontent] at hdirective hline
    obtain ⟨hstop, htext, hexact⟩ :=
      Text.nameLocation_token hle (Nat.le_trans hend hlast) hdirective hspan
    refine ⟨first, last, hcontent, hstop, hsame ▸ htext, ?_⟩
    rw [hspot, Comment.nameLocation, hcontent, hexact.2 hline]
  · have hunused : ¬ (Suppression.filter l.scope (Suppression.collect d) raw).usage.usesAny
        c.location.start.line := by
      intro hused
      obtain ⟨o, ho, hcredits⟩ := Suppression.exists_of_usesAny hused
      exact hidle o ho hcredits
    obtain ⟨o, ho, hmessage, hlocation⟩ := DisableComments.exists_of_idle_all hall hunused
    obtain ⟨o', ho', hrule, hmessage', hlocation'⟩ :=
      h.exists_reported hreads' hincluded hactive hc ho
    exact ⟨o', ho', hrule, hmessage' ▸ hmessage, hlocation'.trans hlocation⟩

/-- One of two names of a comment earned credit, and the other is reported. -/
theorem idle_reported_amongOthers :
    let l := standard { parse := some fun source => .ok (Document.parse source) }
    let source :=
      "<%# herb:disable erb-no-extra-newline, html-tag-name-lowercase %>\n<DIV>\n".toList
    let d := Document.parse source
    ∃ c ∈ d.disableComments,
      c.directive.ruleNames = ["erb-no-extra-newline", "html-tag-name-lowercase"] ∧
        ∃ o ∈ (l.lint d none []).offenses, o.ReportsIdle source c "erb-no-extra-newline" := by
  intro l source d
  have hl : ofRules? Rule.builtins (fun _ settings => .ok settings)
      { parse := some fun source => .ok (Document.parse source) } = .ok l := rfl
  obtain ⟨-, hidle, -⟩ := idle_reported hl rfl rfl source none [] (by decide +kernel)
    (by decide +kernel)
  obtain ⟨c, hc, hnames, hunused⟩ : ∃ c ∈ d.disableComments,
      c.directive.ruleNames = ["erb-no-extra-newline", "html-tag-name-lowercase"] ∧
        ∀ o ∈ l.rawOffenses d (l.context none []), o.rule = "erb-no-extra-newline" →
          ¬ d.CreditsLine l.scope c.location.start.line o := by
    decide +kernel
  have hknown : "erb-no-extra-newline" ∈ l.ruleNames := by decide +kernel
  exact ⟨c, hc, hnames, hidle c hc (by rw [hnames]; decide) _ (by rw [hnames]; decide) hknown
    hunused⟩

/-- **One line, one credit.** Two comments on a line name the same rule, and the
second has the credit for all its offenses. The first is of no use, but nothing
is reported. -/
theorem idle_sharedLine :
    let l := standard { parse := some fun source => .ok (Document.parse source) }
    let source := ("<%# herb:disable html-tag-name-lowercase %>" ++
      "<%# herb:disable html-tag-name-lowercase %><DIV>\n").toList
    let d := Document.parse source
    (∀ node ∈ d.nodes, ¬ node.isLinterIgnore) ∧
      (∃ b ∈ l.rules, b.name = DisableComments.unnecessaryName ∧
        isActive d (l.context none []) b) ∧
      l.lintSource? source none [] = .ok (l.lint d none []) ∧
      (∃ c ∈ d.disableComments, c.directive.ruleNames = ["html-tag-name-lowercase"] ∧
        "html-tag-name-lowercase" ∈ l.ruleNames ∧
        ∀ o ∈ l.rawOffenses d (l.context none []), ¬ d.Credits l.scope c o) ∧
      (l.lint d none []).offenses = [] := by
  intro l source d
  have hl : ofRules? Rule.builtins (fun _ settings => .ok settings)
      { parse := some fun source => .ok (Document.parse source) } = .ok l := rfl
  have hincluded : ¬ isExcluded d := by decide +kernel
  have hreturns : l.lint? d none [] = .ok (l.lint d none []) :=
    ((runsBuiltins_of_ofRules? hl).1.lint?_eq_ok_iff_applies hincluded).2 (by decide +kernel)
  have hcollect : Suppression.collect d = d.disableComments.map Suppression.ofComment :=
    Suppression.collect_eq_of_pairwise (by decide +kernel)
  have hnone : (l.lint d none []).offenses.length = 0 := by
    simp only [lint, hincluded, Bool.false_eq_true, if_false, settle, hcollect]
    decide +kernel
  exact ⟨by decide +kernel, by decide +kernel, hreturns, by decide +kernel,
    List.eq_nil_of_length_eq_zero hnone⟩

end Linter

end TemplateLint
