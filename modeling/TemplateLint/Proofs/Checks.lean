import Mathlib.Data.List.Nodup
import TemplateLint.Proofs.Suppression
/-!
# Checks — which rules are called, and what becomes of what they find

Linting calls the checks of the active rules in order, and last that of the
deferred rule, if a comment of the document names rules. Each call is kept
with what it was handed (`Linter.checkCalls`), each offense with the rule that
came to it (`Linter.produced`), and so is each that is reported
(`Linter.reported`). What linting reports and logs is read off these lists
(`Linter.offenses_lint`, `Linter.log_lint`).
-/

namespace TemplateLint

/-- Where keys are distinct, what has the key of a thing is that thing. -/
theorem filter_eq_singleton {α β : Type} [DecidableEq β] (key : α → β) {items : List α}
    (h : (items.map key).Nodup) {a : α} (ha : a ∈ items) :
    (items.filter fun b => key b == key a) = [a] := by
  induction items with
  | nil => cases ha
  | cons b items ih =>
    obtain ⟨hfresh, hrest⟩ := List.nodup_cons.1 h
    by_cases hkey : key b = key a
    · obtain rfl := List.inj_on_of_nodup_map h ha (.head _) hkey.symm
      have hnone : (items.filter fun b => key b == key a) = [] := by
        refine List.filter_eq_nil_iff.2 fun b hb heq => hfresh ?_
        exact List.mem_map.2 ⟨b, hb, beq_iff_eq.1 heq⟩
      rw [List.filter_cons, if_pos (beq_self_eq_true _), hnone]
    · rw [List.filter_cons_of_neg (by simpa using hkey)]
      refine ih hrest ((List.mem_cons.1 ha).resolve_left ?_)
      rintro rfl
      exact hkey rfl

/-- A call of the check of a rule, and what it is handed. -/
structure CheckCall where
  bound : BoundRule
  input : RuleInput
  context : Context

/-- An offense, and the rule that came to it. -/
structure Attributed where
  bound : BoundRule
  offense : Offense

namespace CheckCall

/-- The call of a rule for a document. -/
def on (d : Document) (context : Context) (b : BoundRule) : CheckCall :=
  ⟨b, b.rule.input d, context⟩

/-- What the check answers. -/
def answer (c : CheckCall) : Except Crash (List Offense) :=
  c.bound.rule.check c.input c.context

/-- What the call comes to. -/
def offenses (c : CheckCall) : List Offense :=
  match c.answer with
  | .ok offenses => offenses.map fun o => o.bind c.bound.settings.severity
  | .error crash => [Linter.crashOffense c.bound.rule crash]

/-- What is logged about the call. -/
def log (c : CheckCall) : Log :=
  match c.answer with
  | .ok _ => []
  | .error _ => [⟨.error, .linter, s!"Rule {c.bound.rule.shownName} crashed"⟩]

/-- What the call comes to, under its rule. -/
def attributed (c : CheckCall) : List Attributed :=
  c.offenses.map (Attributed.mk c.bound)

/-- The call apart from what the deferred rule is told about suppression. -/
def withoutUsage (c : CheckCall) : CheckCall :=
  if Linter.isDeferred c.bound then { c with context := { c.context with usage := none } } else c

variable {d : Document} {context : Context}

theorem offenses_on (b : BoundRule) : (on d context b).offenses = Linter.offensesOf d context b :=
  rfl

theorem log_on (b : BoundRule) : (on d context b).log = Linter.logOf d context b :=
  rfl

/-- A call that crashes comes to one offense, which says so. -/
theorem offenses_of_crash {c : CheckCall} {crash : Crash} (h : c.answer = .error crash) :
    c.offenses = [Linter.crashOffense c.bound.rule crash] := by
  rw [offenses, h]

theorem bound_of_mem_attributed {c : CheckCall} {a : Attributed} (h : a ∈ c.attributed) :
    a.bound = c.bound := by
  obtain ⟨o, -, rfl⟩ := List.mem_map.1 h
  rfl

theorem map_offense_flatMap (calls : List CheckCall) :
    (calls.flatMap attributed).map (·.offense) = calls.flatMap offenses := by
  simp [List.map_flatMap, attributed, Function.comp_def]

/-- What some of the rules came to is what was come to by calling these. -/
theorem filter_flatMap_attributed (p : BoundRule → Bool) (calls : List CheckCall) :
    (calls.flatMap attributed).filter (fun a => p a.bound) =
      (calls.filter fun c => p c.bound).flatMap attributed := by
  induction calls with
  | nil => rfl
  | cons c calls ih =>
    have hfirst : ∀ a ∈ c.attributed, p a.bound = p c.bound :=
      fun a ha => congrArg p (bound_of_mem_attributed ha)
    rw [List.flatMap_cons, List.filter_append, List.filter_congr hfirst, ih, List.filter_cons]
    cases p c.bound <;> simp

end CheckCall

/-! ## Which rules are called -/

/-- A document has a comment that names rules. -/
def Document.HasDirective (d : Document) : Prop :=
  ∃ node ∈ d.nodes, ∃ directive, node.Holds directive

theorem Suppression.collect_eq_nil_iff {d : Document} : collect d = [] ↔ ¬ d.HasDirective := by
  rw [List.eq_nil_iff_forall_not_mem]
  constructor
  · rintro h ⟨node, hnode, directive, hholds⟩
    exact h ⟨node.location.start, directive⟩ (mem_collect.2 ⟨node, hnode, hholds, rfl⟩)
  · intro h s hs
    obtain ⟨node, hnode, hholds, -⟩ := mem_collect.1 hs
    exact h ⟨node, hnode, s.directive, hholds⟩

namespace Linter

/-- What the deferred rule is told: what the rules before it are told, and
what comments suppressed of their offenses. -/
def usageContext (l : Linter) (d : Document) (context : Context) : Context :=
  let raw := l.rawOffenses d context
  { context with usage := some (Suppression.filter l.scope (Suppression.collect d) raw).usage }

/-- The call of the deferred rule, if it is called. -/
def deferredCalls (l : Linter) (d : Document) (context : Context) : List CheckCall :=
  if l.ignoresComments || (Suppression.collect d).isEmpty then []
  else (l.deferredRule d context).map (CheckCall.on d (l.usageContext d context))

/-- **The calls of checks**, in order. -/
def checkCalls (l : Linter) (d : Document) (fileName : Option String) (disabled : List String) :
    List CheckCall :=
  if isExcluded d then []
  else
    let context := l.context fileName disabled
    (l.activeRules d context).map (CheckCall.on d context) ++ l.deferredCalls d context

/-- Every offense a rule came to, in order, whether it is reported or not. -/
def produced (l : Linter) (d : Document) (fileName : Option String) (disabled : List String) :
    List Attributed :=
  (l.checkCalls d fileName disabled).flatMap CheckCall.attributed

/-- No comment keeps the offense from being reported: it is not looked for
one, or there is none. -/
def passes (l : Linter) (d : Document) (a : Attributed) : Bool :=
  isDeferred a.bound || l.ignoresComments || !decide (d.Suppresses l.scope a.offense)

/-- Every offense that is reported, in order. -/
def reported (l : Linter) (d : Document) (fileName : Option String) (disabled : List String) :
    List Attributed :=
  (l.produced d fileName disabled).filter (l.passes d)

/-- **When linting calls a rule**: the rule is active, and if it is the one
that judges comments, these are not to be ignored and the document has one. -/
def Calls (l : Linter) (d : Document) (fileName : Option String) (disabled : List String)
    (b : BoundRule) : Prop :=
  isActive d (l.context fileName disabled) b ∧
    (b.name = DisableComments.unnecessaryName → l.ignoresComments = false ∧ d.HasDirective)

variable {l : Linter} {d : Document} {context : Context} {fileName : Option String}
  {disabled : List String} {b : BoundRule}

theorem isDeferred_iff : isDeferred b ↔ b.name = DisableComments.unnecessaryName :=
  beq_iff_eq

theorem mem_activeRules : b ∈ l.activeRules d context ↔
    b ∈ l.rules ∧ isActive d context b ∧ ¬ isDeferred b := by
  simp [activeRules]

theorem mem_deferredRule : b ∈ l.deferredRule d context ↔
    b ∈ l.rules ∧ isDeferred b ∧ isActive d context b := by
  simp [deferredRule]

/-- Comments are read for the deferred rule unless they are to be ignored or
there are none. -/
theorem asksDeferred_iff :
    (l.ignoresComments || (Suppression.collect d).isEmpty) = false ↔
      l.ignoresComments = false ∧ d.HasDirective := by
  rw [Bool.or_eq_false_iff, ← Bool.not_eq_true (List.isEmpty _), List.isEmpty_iff,
    Suppression.collect_eq_nil_iff, not_not]

theorem mem_deferredCalls {c : CheckCall} : c ∈ l.deferredCalls d context ↔
    (l.ignoresComments = false ∧ d.HasDirective) ∧ c.bound ∈ l.deferredRule d context ∧
      c = CheckCall.on d (l.usageContext d context) c.bound := by
  rw [deferredCalls, ← asksDeferred_iff]
  cases l.ignoresComments || (Suppression.collect d).isEmpty
  · simp only [Bool.false_eq_true, if_false, List.mem_map, true_and]
    constructor
    · rintro ⟨b, hb, rfl⟩
      exact ⟨hb, rfl⟩
    · rintro ⟨hb, hc⟩
      exact ⟨_, hb, hc.symm⟩
  · simp

/-- A call is that of an active rule on the document, with the context of the
run, or that of the deferred rule. -/
theorem mem_checkCalls (h : ¬ isExcluded d) {c : CheckCall} :
    c ∈ l.checkCalls d fileName disabled ↔
      (c.bound ∈ l.activeRules d (l.context fileName disabled) ∧
        c = CheckCall.on d (l.context fileName disabled) c.bound) ∨
      c ∈ l.deferredCalls d (l.context fileName disabled) := by
  rw [checkCalls, if_neg h, List.mem_append, List.mem_map]
  refine or_congr_left ⟨?_, fun ⟨hb, hc⟩ => ⟨_, hb, hc.symm⟩⟩
  rintro ⟨b, hb, rfl⟩
  exact ⟨hb, rfl⟩

/-- **Which rules are called.** -/
theorem exists_call_iff (h : ¬ isExcluded d) :
    (∃ c ∈ l.checkCalls d fileName disabled, c.bound = b) ↔
      b ∈ l.rules ∧ l.Calls d fileName disabled b := by
  rw [Calls, ← isDeferred_iff]
  constructor
  · rintro ⟨c, hc, rfl⟩
    rcases (mem_checkCalls h).1 hc with ⟨hactive, -⟩ | hdeferred
    · obtain ⟨hmem, hactive, hother⟩ := mem_activeRules.1 hactive
      exact ⟨hmem, hactive, fun hdeferred => absurd hdeferred hother⟩
    · obtain ⟨hasked, hdeferred, -⟩ := mem_deferredCalls.1 hdeferred
      obtain ⟨hmem, -, hactive⟩ := mem_deferredRule.1 hdeferred
      exact ⟨hmem, hactive, fun _ => hasked⟩
  · rintro ⟨hmem, hactive, hasked⟩
    by_cases hdeferred : isDeferred b
    · exact ⟨.on d (l.usageContext d (l.context fileName disabled)) b,
        (mem_checkCalls h).2 (.inr (mem_deferredCalls.2
          ⟨hasked hdeferred, mem_deferredRule.2 ⟨hmem, hdeferred, hactive⟩, rfl⟩)), rfl⟩
    · exact ⟨.on d (l.context fileName disabled) b,
        (mem_checkCalls h).2 (.inl ⟨mem_activeRules.2 ⟨hmem, hactive, hdeferred⟩, rfl⟩), rfl⟩

/-- A called rule is one of the linter. -/
theorem bound_mem_of_mem_checkCalls {c : CheckCall} (hc : c ∈ l.checkCalls d fileName disabled) :
    c.bound ∈ l.rules := by
  by_cases h : isExcluded d
  · rw [checkCalls, if_pos h] at hc
    cases hc
  · exact ((exists_call_iff h).1 ⟨c, hc, rfl⟩).1

/-- Rules are told apart by their names. -/
theorem eq_of_name_eq {b b' : BoundRule} (hb : b ∈ l.rules) (hb' : b' ∈ l.rules)
    (h : b.name = b'.name) : b = b' :=
  List.inj_on_of_nodup_map l.distinct hb hb' h

/-- **No rule is called twice.** -/
theorem nodup_names_checkCalls :
    ((l.checkCalls d fileName disabled).map (·.bound.name)).Nodup := by
  unfold checkCalls
  split
  · exact .nil
  · dsimp only
    rw [List.map_append, List.nodup_append, List.map_map]
    have hactive : ((l.activeRules d (l.context fileName disabled)).map BoundRule.name).Nodup :=
      l.distinct.sublist (List.filter_sublist.map _)
    refine ⟨hactive, ?_, ?_⟩
    · unfold deferredCalls
      split
      · exact .nil
      · rw [List.map_map]
        exact l.distinct.sublist (List.filter_sublist.map _)
    · intro name hname name' hname' heq
      obtain ⟨b, hb, rfl⟩ := List.mem_map.1 hname
      obtain ⟨c, hc, rfl⟩ := List.mem_map.1 hname'
      have hdeferred := (mem_deferredRule.1 (mem_deferredCalls.1 hc).2.1).2.1
      refine (mem_activeRules.1 hb).2.2 (isDeferred_iff.2 ?_)
      exact heq.trans (isDeferred_iff.1 hdeferred)

/-- The only call of a rule is the one of its name. -/
theorem filter_checkCalls_name {c : CheckCall} (hc : c ∈ l.checkCalls d fileName disabled) :
    ((l.checkCalls d fileName disabled).filter fun c' => c'.bound.name == c.bound.name) = [c] :=
  filter_eq_singleton (fun c => c.bound.name) nodup_names_checkCalls hc

/-! ## What is reported -/

theorem passes_iff {a : Attributed} : l.passes d a ↔
    a.bound.name = DisableComments.unnecessaryName ∨ l.ignoresComments = true ∨
      ¬ d.Suppresses l.scope a.offense := by
  rw [← isDeferred_iff]
  simp [passes, or_assoc]

/-- All that the deferred rule comes to is reported. -/
theorem filter_passes_deferred :
    ((l.deferredCalls d context).flatMap CheckCall.attributed).filter (l.passes d) =
      (l.deferredCalls d context).flatMap CheckCall.attributed := by
  refine List.filter_eq_self.2 fun a ha => ?_
  obtain ⟨c, hc, ha⟩ := List.mem_flatMap.1 ha
  have hdeferred := (mem_deferredRule.1 (mem_deferredCalls.1 hc).2.1).2.1
  rw [passes, CheckCall.bound_of_mem_attributed ha, hdeferred, Bool.true_or, Bool.true_or]

/-- Of what the rules before it come to, what is not suppressed. -/
theorem filter_passes_active :
    ((((l.activeRules d context).map (CheckCall.on d context)).flatMap
        CheckCall.attributed).filter (l.passes d)).map (·.offense) =
      (l.rawOffenses d context).filter fun o =>
        l.ignoresComments || !decide (d.Suppresses l.scope o) := by
  have hraw : (((l.activeRules d context).map (CheckCall.on d context)).flatMap
      CheckCall.attributed).map (·.offense) = l.rawOffenses d context := by
    rw [CheckCall.map_offense_flatMap, List.flatMap_map]
    rfl
  rw [← hraw, List.filter_map]
  refine congrArg _ (List.filter_congr fun a ha => ?_)
  obtain ⟨c, hc, ha⟩ := List.mem_flatMap.1 ha
  obtain ⟨b, hb, rfl⟩ := List.mem_map.1 hc
  have hother : isDeferred b = false := by simpa using (mem_activeRules.1 hb).2.2
  rw [passes, CheckCall.bound_of_mem_attributed ha, CheckCall.on, hother, Bool.false_or]
  rfl

/-- What linting reports and logs about a document that is not excluded, from
the calls. -/
theorem settle_eq (l : Linter) (d : Document) (context : Context) :
    let result := l.settle d context (l.rawOffenses d context)
    result.offenses =
        ((l.rawOffenses d context).filter fun o =>
          l.ignoresComments || !decide (d.Suppresses l.scope o)) ++
        (l.deferredCalls d context).flatMap CheckCall.offenses ∧
      result.log = (l.activeRules d context).flatMap (logOf d context) ++
        (l.deferredCalls d context).flatMap CheckCall.log := by
  unfold settle deferredCalls
  cases l.ignoresComments
  · have hkept :
        (Suppression.filter l.scope (Suppression.collect d) (l.rawOffenses d context)).kept =
          (l.rawOffenses d context).filter fun o => ¬ d.Suppresses l.scope o :=
      Suppression.kept_filter_collect _
    rcases hempty : (Suppression.collect d).isEmpty
    · simp only [hempty, Bool.false_eq_true, if_false, Bool.or_self, Bool.false_or, hkept,
        decide_not, List.flatMap_map, CheckCall.offenses_on, CheckCall.log_on]
      exact ⟨rfl, rfl⟩
    · simp only [hempty, Bool.false_eq_true, if_false, if_true, Bool.or_true,
        Bool.false_or, hkept, decide_not, List.flatMap_nil, List.append_nil, and_self]
  · simp

/-- **What linting reports** is what its calls come to, less what comments
suppress. -/
theorem offenses_lint (l : Linter) (d : Document) (fileName : Option String)
    (disabled : List String) :
    (l.lint d fileName disabled).offenses =
      (l.reported d fileName disabled).map (·.offense) := by
  unfold lint reported produced checkCalls
  split
  · rfl
  · rw [List.flatMap_append, List.filter_append, List.map_append, filter_passes_active,
      filter_passes_deferred, CheckCall.map_offense_flatMap]
    exact (settle_eq l d _).1

/-- What the deferred rule comes to is reported. -/
theorem mem_offenses_lint_of_deferred (h : ¬ isExcluded d) {c : CheckCall}
    (hc : c ∈ l.deferredCalls d (l.context fileName disabled)) {o : Offense}
    (ho : o ∈ c.offenses) : o ∈ (l.lint d fileName disabled).offenses := by
  rw [lint, if_neg h, (settle_eq l d _).1]
  exact List.mem_append_right _ (List.mem_flatMap.2 ⟨c, hc, ho⟩)

/-- **What linting logs** is what its calls are logged with. -/
theorem log_lint (h : ¬ isExcluded d) :
    (l.lint d fileName disabled).log =
      (l.checkCalls d fileName disabled).flatMap CheckCall.log := by
  rw [lint, if_neg h, checkCalls, if_neg h, List.flatMap_append, List.flatMap_map]
  exact (settle_eq l d _).2

end Linter

end TemplateLint
