import TemplateLint.Proofs.Checks
import TemplateLint.Proofs.Resolution
import TemplateLint.Proofs.Similarity
/-!
# Rule order — what it does not matter for

The order of the rules decides in which order offenses come, in which order
suppression is recorded, and in which order the names of the rules are told to
those rules that compare names with them. None of this changes what the rules
of the library find (`Rule.check_congr`): they ask which names there are, and
which was used, and not where. So linting with the same rules in another order
reports the same offenses (`Linter.lint_rules_perm`).
-/

namespace TemplateLint

/-! ## What rules are told -/

/-- Two contexts tell the same, apart from the order. All rules have texts for
names. -/
structure Context.Alike (c c' : Context) : Prop where
  fileName : c.fileName = c'.fileName
  disabled : ∀ name, name ∈ c.disabled ↔ name ∈ c'.disabled
  ruleNames : c.ruleNames.Perm c'.ruleNames
  usage : Option.Rel List.Perm c.usage c'.usage
  titles : c.titles.Perm c'.titles
  texts : ∀ v ∈ c.titles, v.string?.isSome

theorem Context.Alike.told_usage {c c' : Context} (h : c.Alike c') {used used' : Usage}
    (hused : used.Perm used') :
    Context.Alike { c with usage := some used } { c' with usage := some used' } :=
  { h with usage := .some hused }

namespace DisableComments

variable {names names' : List String} {used used' : Usage} {c : DisableComment}

/-- Which names are known does not depend on their order. -/
theorem contains_knownNames (h : names.Perm names') :
    (knownNames names).contains = (knownNames names').contains := by
  funext name
  rw [Bool.eq_iff_iff, List.contains_iff_mem, List.contains_iff_mem]
  exact (h.append_right _).mem_iff

theorem uses_congr (h : used.Perm used') : used.uses = used'.uses := by
  funext line rule
  rw [Bool.eq_iff_iff, Usage.uses, Usage.uses, List.contains_iff_mem, List.contains_iff_mem]
  exact h.mem_iff

/-- **What is reported about unnecessary comments** does not depend on the order
in which names are told, or in which suppression was recorded. -/
theorem unnecessaryOffenses_congr (hnames : names.Perm names') (hused : used.Perm used') :
    unnecessaryOffenses names used c = unnecessaryOffenses names' used' c := by
  have hidle : idleNames (knownNames names) used c = idleNames (knownNames names') used' c := by
    unfold idleNames
    rw [contains_knownNames hnames, uses_congr hused]
  have hany : used.usesAny = used'.usesAny := by
    funext line
    exact hused.any_eq
  rw [unnecessaryOffenses, unnecessaryOffenses, idleOffenses, idleOffenses, hidle, hany,
    contains_knownNames hnames]

/-- **What is reported about unknown names** does not depend on the order in
which the known ones are told. -/
theorem unknownOffenses_congr (h : names.Perm names') :
    unknownOffenses names c = unknownOffenses names' c := by
  have hmessage : unknownMessage (knownNames names) = unknownMessage (knownNames names') := by
    funext name
    have hknown : (knownNames names).Perm (knownNames names') := h.append_right _
    rw [unknownMessage, unknownMessage, Similarity.closest?_perm hknown]
  rw [unknownOffenses, unknownOffenses, contains_knownNames h, hmessage]

/-- Texts can always be compared. -/
theorem comparisonFailure?_eq_none {titles : List Value} (h : ∀ v ∈ titles, v.string?.isSome) :
    comparisonFailure? titles = none := by
  rw [comparisonFailure?, List.find?_eq_none.2, Option.map_none]
  intro v hv
  rw [Option.isNone_iff_eq_none, ← Option.not_isSome_iff_eq_none, not_not]
  exact h v hv

end DisableComments

section Congruence

variable {name : String} {severity : Severity} {context context' : Context}

theorem check_onDocument_congr {offenses : Document → Context → List Offense}
    (h : ∀ d, offenses d context = offenses d context') (input : RuleInput) :
    (Rule.onDocument name severity offenses).check input context =
      (Rule.onDocument name severity offenses).check input context' := by
  cases input with
  | document d => exact congrArg Except.ok (h d)
  | text t => rfl

theorem check_aboutDirectives_congr {offenses : DisableComment → Context → List Offense}
    (h : ∀ c, offenses c context = offenses c context') (input : RuleInput) :
    (DisableComments.aboutDirectives name severity offenses).check input context =
      (DisableComments.aboutDirectives name severity offenses).check input context' := by
  refine check_onDocument_congr (fun d => ?_) input
  cases d.root with
  | none => rfl
  | some root =>
    refine congrArg (List.flatMap · root.comments) (funext fun comment => ?_)
    dsimp only
    cases comment.disabling? with
    | none => rfl
    | some c => exact h c

variable (h : context.Alike context')

include h

theorem DisableComments.check_unnecessary_congr (input : RuleInput) :
    unnecessary.check input context = unnecessary.check input context' := by
  refine check_aboutDirectives_congr (fun c => ?_) input
  have husage := h.usage
  generalize context.usage = usage at husage ⊢
  generalize context'.usage = usage' at husage ⊢
  cases husage with
  | none => rfl
  | some hused =>
    dsimp only
    rw [unnecessaryOffenses_congr h.ruleNames hused, h.ruleNames.isEmpty_eq]

theorem DisableComments.check_unknown_congr (input : RuleInput) :
    unknown.check input context = unknown.check input context' := by
  have hknown : knownOnly.check input context = knownOnly.check input context' := by
    refine check_aboutDirectives_congr (fun c => ?_) input
    rw [unknownOffenses_congr h.ruleNames, h.ruleNames.isEmpty_eq]
  have htexts' : ∀ v ∈ context'.titles, v.string?.isSome :=
    fun v hv => h.texts v (h.titles.mem_iff.2 hv)
  simp only [unknown, hknown, comparisonFailure?_eq_none h.texts,
    comparisonFailure?_eq_none htexts']

/-- **The rules of the library do not see an order.** -/
theorem Rule.check_congr {r : Rule} (hr : r ∈ Rule.builtins) (input : RuleInput) :
    r.check input context = r.check input context' := by
  simp only [Rule.builtins, List.mem_cons, List.not_mem_nil, or_false] at hr
  rcases hr with rfl | rfl | rfl | rfl | rfl | rfl | rfl | rfl | rfl | rfl
  · rfl
  · exact congrArg (fun file : Option String =>
      Except.ok (if file.isSome then Newlines.endOfFileOffenses input.source else [])) h.fileName
  -- Of the others, only the two that ask for names look at what they are told.
  case inr.inr.inr.inr.inr.inr.inl => exact DisableComments.check_unnecessary_congr h input
  case inr.inr.inr.inr.inr.inr.inr.inl => exact DisableComments.check_unknown_congr h input
  all_goals
    cases input with
    | document d => rfl
    | text t => rfl

end Congruence

/-! ## Suppression -/

namespace Suppression

variable {scope : DisableScope} {suppressions : List Suppression} {offenses offenses' : List Offense}

/-- What is recorded, offense by offense. -/
theorem usage_filter : (filter scope suppressions offenses).usage =
    offenses.filterMap fun o =>
      (credited? scope suppressions o).map fun s => (s.position.line, o.rule) := by
  induction offenses with
  | nil => rfl
  | cons o offenses ih =>
    rw [filter, List.filterMap_cons]
    cases credited? scope suppressions o with
    | none => exact ih
    | some s => exact congrArg (List.cons _) ih

/-- **Offenses in another order** are suppressed in that order, and those are
the same. -/
theorem filter_perm (scope : DisableScope) (suppressions : List Suppression)
    (h : offenses.Perm offenses') :
    (filter scope suppressions offenses).kept.Perm (filter scope suppressions offenses').kept ∧
      (filter scope suppressions offenses).usage.Perm
        (filter scope suppressions offenses').usage := by
  rw [kept_filter, kept_filter, usage_filter, usage_filter]
  exact ⟨h.filter _, h.filterMap _⟩

end Suppression

/-! ## Linting -/

/-- Two results report the same offenses, in some order, and as many were
suppressed. -/
structure LintResult.Alike (r r' : LintResult) : Prop where
  offenses : r.offenses.Perm r'.offenses
  ignored : r.ignored = r'.ignored

namespace Linter

variable {l l' : Linter} {d : Document} {context context' : Context} {b : BoundRule}
  {fileName : Option String} {disabled : List String}

/-- Whether a rule of the library is asked, and what it answers, does not depend
on an order. -/
theorem asked_congr (h : context.Alike context') (hb : b.rule ∈ Rule.builtins) :
    isActive d context b = isActive d context' b ∧
      askingFailure? d context b = askingFailure? d context' b ∧
      offensesOf d context b = offensesOf d context' b := by
  obtain ⟨-, -, hagrees⟩ := plain_of_mem_builtins hb
  have hdisabled : context.disabled.contains b.name = context'.disabled.contains b.name := by
    rw [Bool.eq_iff_iff, List.contains_iff_mem, List.contains_iff_mem]
    exact h.disabled b.name
  refine ⟨?_, ?_, ?_⟩
  · rw [isActive, isActive, hdisabled, h.fileName, Rule.isWilling, Rule.isWilling, hagrees, hagrees]
  · rw [askingFailure?, askingFailure?, hdisabled, h.fileName, hagrees, hagrees]
  · rw [offensesOf, offensesOf, Rule.check_congr h hb]

/-- **Two linters run the same rules of the library**, in some order, with the
same settings and the same equipment. -/
structure Reordered (l l' : Linter) : Prop where
  rules : l.rules.Perm l'.rules
  equipment : l.toEquipment = l'.toEquipment
  builtins : ∀ b ∈ l.rules, b.rule ∈ Rule.builtins

namespace Reordered

/-- Their rules are told the same. -/
theorem told_alike (h : l.Reordered l') :
    (l.context fileName disabled).Alike (l'.context fileName disabled) where
  fileName := rfl
  disabled _ := (((h.rules.filter _).map _).append_left _).mem_iff
  ruleNames := h.rules.map _
  usage := .none
  titles := h.rules.map _
  texts v hv := by
    obtain ⟨b, hb, rfl⟩ := List.mem_map.1 hv
    have htitles : ∀ r ∈ Rule.builtins, r.title.string?.isSome := by
      decide
    exact htitles b.rule (h.builtins b hb)

/-- The rules of some kind that are run. -/
theorem active_perm (h : l.Reordered l') (hc : context.Alike context') (p : BoundRule → Bool) :
    (l.rules.filter fun b => isActive d context b && p b).Perm
      (l'.rules.filter fun b => isActive d context' b && p b) := by
  have hactive : (l.rules.filter fun b => isActive d context b && p b) =
      l.rules.filter fun b => isActive d context' b && p b :=
    List.filter_congr fun b hb => by rw [(asked_congr hc (h.builtins b hb)).1]
  rw [hactive]
  exact h.rules.filter _

/-- What some of them find. -/
theorem offenses_perm (h : l.Reordered l') (hc : context.Alike context')
    {bs bs' : List BoundRule} (hbs : bs.Perm bs') (hmem : ∀ b ∈ bs, b ∈ l.rules) :
    (bs.flatMap (offensesOf d context)).Perm (bs'.flatMap (offensesOf d context')) := by
  have hfound : bs.flatMap (offensesOf d context) = bs.flatMap (offensesOf d context') :=
    List.flatMap_congr fun b hb => (asked_congr hc (h.builtins b (hmem b hb))).2.2
  rw [hfound]
  exact hbs.flatMap_right _

/-- What their rules find, before suppression. -/
theorem rawOffenses_perm (h : l.Reordered l') :
    (l.rawOffenses d (l.context fileName disabled)).Perm
      (l'.rawOffenses d (l'.context fileName disabled)) :=
  h.offenses_perm h.told_alike (h.active_perm h.told_alike _)
    fun _ hb => (List.mem_filter.1 hb).1

/-- The deferred rule, if it is run. -/
theorem deferredRule_perm (h : l.Reordered l') :
    (l.deferredRule d (l.context fileName disabled)).Perm
      (l'.deferredRule d (l'.context fileName disabled)) := by
  unfold deferredRule
  simp only [Bool.and_comm (isDeferred _)]
  exact h.active_perm h.told_alike isDeferred

/-- **They report the same**, in some order. -/
theorem lint_alike (h : l.Reordered l') :
    (l.lint d fileName disabled).Alike (l'.lint d fileName disabled) := by
  have hscope : l.scope = l'.scope := congrArg Equipment.scope h.equipment
  have hignores : l.ignoresComments = l'.ignoresComments :=
    congrArg Equipment.ignoresComments h.equipment
  have hraw : (l.rawOffenses d (l.context fileName disabled)).Perm
      (l'.rawOffenses d (l'.context fileName disabled)) := h.rawOffenses_perm
  obtain ⟨hkept, hused⟩ := Suppression.filter_perm l'.scope (Suppression.collect d) hraw
  unfold lint
  split
  · exact ⟨.refl _, rfl⟩
  · dsimp only
    rw [settle, settle, hscope, hignores]
    split
    · exact ⟨hraw, rfl⟩
    · dsimp only
      split
      · exact ⟨hkept, hused.length_eq⟩
      · -- The deferred rule is told in another order what was suppressed.
        refine ⟨hkept.append ?_, hused.length_eq⟩
        exact h.offenses_perm (h.told_alike.told_usage hused) h.deferredRule_perm
          fun _ hb => (List.mem_filter.1 hb).1

/-- Linting with the one comes to a result exactly when it does with the other. -/
theorem returns_iff (h : l.Reordered l') :
    l.lint? d fileName disabled = .ok (l.lint d fileName disabled) ↔
      l'.lint? d fileName disabled = .ok (l'.lint d fileName disabled) := by
  by_cases hexcluded : isExcluded d
  · exact iff_of_true (lint?_of_isExcluded hexcluded) (lint?_of_isExcluded hexcluded)
  · have hasked : ∀ b ∈ l.rules, askingFailure? d (l.context fileName disabled) b =
        askingFailure? d (l'.context fileName disabled) b :=
      fun b hb => (asked_congr h.told_alike (h.builtins b hb)).2.1
    rw [lint?_eq_ok_iff hexcluded, lint?_eq_ok_iff hexcluded]
    refine and_congr ?_ (forall_congr' fun o => ?_)
    · rw [forall₂_congr fun b hb => by rw [hasked b hb]]
      exact forall_congr' fun b => by rw [h.rules.mem_iff]
    · rw [h.rawOffenses_perm.mem_iff]

end Reordered

/-! ## Building linters -/

variable {rules rules' : List Rule}
  {change : String → RuleSettings → Except OverrideError RuleSettings} {equipment : Equipment}

theorem resolve_cons_eq_ok_iff {rule : Rule} {bound : List BoundRule} :
    resolve change (rule :: rules) = .ok bound ↔
      ∃ settings rest, change rule.name rule.settings = .ok settings ∧
        resolve change rules = .ok rest ∧ bound = ⟨rule, settings⟩ :: rest := by
  rw [resolve]
  cases change rule.name rule.settings with
  | error e => simp [bind, Except.bind]
  | ok settings =>
    cases resolve change rules with
    | error e => simp [bind, Except.bind]
    | ok rest => simp [bind, Except.bind, pure, Except.pure, eq_comm]

/-- Each rule is set on its own. -/
theorem exists_resolve_perm (h : rules.Perm rules') {bound : List BoundRule}
    (hbound : resolve change rules = .ok bound) :
    ∃ bound', resolve change rules' = .ok bound' ∧ bound.Perm bound' := by
  induction h generalizing bound with
  | nil => exact ⟨bound, hbound, .refl _⟩
  | cons rule _ ih =>
    obtain ⟨settings, rest, hsettings, hrest, rfl⟩ := resolve_cons_eq_ok_iff.1 hbound
    obtain ⟨rest', hrest', hperm⟩ := ih hrest
    exact ⟨_, resolve_cons_eq_ok_iff.2 ⟨settings, rest', hsettings, hrest', rfl⟩, hperm.cons _⟩
  | swap rule rule' rules =>
    obtain ⟨settings', rest', hsettings', hrest', rfl⟩ := resolve_cons_eq_ok_iff.1 hbound
    obtain ⟨settings, rest, hsettings, hrest, rfl⟩ := resolve_cons_eq_ok_iff.1 hrest'
    have hswapped := resolve_cons_eq_ok_iff.2 ⟨settings', rest, hsettings', hrest, rfl⟩
    exact ⟨_, resolve_cons_eq_ok_iff.2 ⟨settings, _, hsettings, hswapped, rfl⟩, .swap _ _ _⟩
  | trans _ _ ih ih' =>
    obtain ⟨middle, hmiddle, hperm⟩ := ih hbound
    obtain ⟨bound', hbound', hperm'⟩ := ih' hmiddle
    exact ⟨bound', hbound', hperm.trans hperm'⟩

/-- **If rules of the library make a linter, they make one in every order.** -/
theorem exists_reordered (h : rules.Perm rules') (hrules : ∀ r ∈ rules, r ∈ Rule.builtins)
    (hl : ofRules? rules change equipment = .ok l) :
    ∃ l', ofRules? rules' change equipment = .ok l' ∧ l.Reordered l' := by
  unfold ofRules? at hl
  split at hl
  · cases hl
  · rename_i hfault
    split at hl
    · cases hl
    · rename_i bound hbound
      cases hl
      have hmem : ∀ r ∈ rules', r ∈ Rule.builtins := fun r hr => hrules r (h.mem_iff.2 hr)
      have hnodup : (rules'.map (·.name)).Nodup :=
        (h.map (·.name)).nodup_iff.1 (nodup_of_nameFault? hfault).1
      have hfault' : nameFault? [] rules' = none :=
        nameFault?_eq_none (fun r hr => isNamed_of_mem_builtins (hmem r hr)) hnodup
          fun _ _ => List.not_mem_nil
      obtain ⟨bound', hbound', hperm⟩ := exists_resolve_perm h hbound
      have hbuiltins : ∀ b ∈ bound, b.rule ∈ Rule.builtins := by
        intro b hb
        refine hrules b.rule ?_
        rw [← rules_of_resolve hbound]
        exact List.mem_map_of_mem hb
      unfold ofRules?
      split
      · rename_i e he
        exact absurd (hfault'.symm.trans he) nofun
      · split
        · rename_i e he
          exact absurd (hbound'.symm.trans he) nofun
        · rename_i bound'' hbound''
          cases hbound'.symm.trans hbound''
          exact ⟨_, rfl, hperm, rfl, hbuiltins⟩

/-- **The order of the rules does not matter.** If some rules of the library make
a linter, they make one in every order. Whatever document the two lint, they
report the same offenses, in some order, and as many of them are suppressed.
The one comes to its result exactly when the other does: they do when every rule
that is not disabled can tell whether it applies to the file. -/
theorem lint_rules_perm (h : rules.Perm rules') (hrules : ∀ r ∈ rules, r ∈ Rule.builtins)
    (hl : ofRules? rules change equipment = .ok l) :
    ∃ l', ofRules? rules' change equipment = .ok l' ∧ ∀ d fileName disabled,
      (l.lint? d fileName disabled = .ok (l.lint d fileName disabled) ↔
        l'.lint? d fileName disabled = .ok (l'.lint d fileName disabled)) ∧
      ((∀ b ∈ l.rules, b.name ∈ (l.context fileName disabled).disabled ∨
          (b.settings.appliesTo? fileName).isSome) →
        l.lint? d fileName disabled = .ok (l.lint d fileName disabled)) ∧
      (l.lint d fileName disabled).offenses.Perm (l'.lint d fileName disabled).offenses ∧
      (l.lint d fileName disabled).ignored = (l'.lint d fileName disabled).ignored := by
  obtain ⟨l', hl', hreordered⟩ := exists_reordered h hrules hl
  refine ⟨l', hl', fun d fileName disabled => ⟨hreordered.returns_iff, fun happlies => ?_,
    hreordered.lint_alike.offenses, hreordered.lint_alike.ignored⟩⟩
  by_cases hexcluded : isExcluded d
  · exact lint?_of_isExcluded hexcluded
  · exact (lint?_eq_ok_iff_applies hreordered.builtins hexcluded).2 happlies

/-- Three rules that have something to say about a misspelt name in a comment,
and about the tag behind it. -/
theorem lint_rules_perm_misspelt :
    let rules := [Tags.lowercase, DisableComments.unnecessary, DisableComments.unknown]
    let d := Document.parse "<%# herb:disable html-tag-name-lowercas %><DIV>\n".toList
    rules.Perm rules.reverse ∧ (∀ r ∈ rules, r ∈ Rule.builtins) ∧
      ∃ l l', ofRules? rules (fun _ settings => .ok settings) {} = .ok l ∧
        ofRules? rules.reverse (fun _ settings => .ok settings) {} = .ok l' ∧
        l.lint? d none [] = .ok (l.lint d none []) ∧
        l'.lint? d none [] = .ok (l'.lint d none []) ∧
        (l.lint d none []).offenses.Perm (l'.lint d none []).offenses := by
  intro rules d
  have hperm : rules.Perm rules.reverse := (List.reverse_perm rules).symm
  have hrules : ∀ r ∈ rules, r ∈ Rule.builtins := by
    simp [rules, Rule.builtins]
  let l : Linter :=
    { rules := rules.map fun r => ⟨r, r.settings⟩
      distinct := by decide }
  have hl : ofRules? rules (fun _ settings => .ok settings) {} = .ok l := rfl
  obtain ⟨l', hl', hsame⟩ := lint_rules_perm hperm hrules hl
  obtain ⟨hreturns, hanswers, hoffenses, -⟩ := hsame d none []
  have hfirst := hanswers fun b hb => .inr rfl
  exact ⟨hperm, hrules, l, l', hl, hl', hfirst, hreturns.1 hfirst, hoffenses⟩

end Linter

end TemplateLint
