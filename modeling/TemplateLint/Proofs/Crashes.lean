import TemplateLint.Proofs.Builtins
import TemplateLint.Proofs.Checks
import TemplateLint.Proofs.Completion
/-!
# Crashes — what a rule that breaks down disturbs

A rule whose check crashes comes to one offense, at the start of the document,
and to nothing else. Put into a linter in the place of a rule that works
(`Linter.crashing`), it leaves the other rules what they are handed and what
they come to (`Linter.crash_contained`). Only the deferred rule can tell, since
it is told what was suppressed.

The offense about a crash is filtered like any other. A comment on the first
line that names the rule hides it, and a run then passes over the crash in
silence (`Linter.crash_reported`, `Linter.crash_silenced`).
-/

namespace TemplateLint

/-! ## A rule that always crashes -/

/-- The rule with a check that crashes on whatever it is handed. -/
def Rule.crashing (r : Rule) (crash : RuleInput → Context → Crash) : Rule :=
  { r with check := fun input context => .error (crash input context) }

/-- The rule as it is, unless it has the name of the rule that is to crash. -/
def BoundRule.crashing (name : String) (crash : RuleInput → Context → Crash) (b : BoundRule) :
    BoundRule :=
  if b.name = name then { b with rule := b.rule.crashing crash } else b

namespace BoundRule

variable {name : String} {crash : RuleInput → Context → Crash} {b : BoundRule}

theorem crashing_of_name_ne (h : b.name ≠ name) : b.crashing name crash = b :=
  if_neg h

@[simp] theorem name_crashing : (b.crashing name crash).name = b.name := by
  unfold crashing
  split <;> rfl

@[simp] theorem settings_crashing : (b.crashing name crash).settings = b.settings := by
  unfold crashing
  split <;> rfl

@[simp] theorem title_crashing : (b.crashing name crash).rule.title = b.rule.title := by
  unfold crashing
  split <;> rfl

theorem rule_crashing_self : (b.crashing b.name crash).rule = b.rule.crashing crash := by
  rw [crashing, if_pos rfl]

theorem isActive_crashing {d : Document} {context : Context} :
    Linter.isActive d context (b.crashing name crash) = Linter.isActive d context b := by
  unfold crashing
  split <;> rfl

theorem askingFailure?_crashing {d : Document} {context : Context} :
    Linter.askingFailure? d context (b.crashing name crash) =
      Linter.askingFailure? d context b := by
  unfold crashing
  split <;> rfl

/-- A crash is reported in the same words. -/
theorem crashOffense_crashing {failure : Crash} :
    Linter.crashOffense (b.crashing name crash).rule failure =
      Linter.crashOffense b.rule failure := by
  unfold crashing
  split <;> rfl

theorem isDeferred_crashing :
    Linter.isDeferred (b.crashing name crash) = Linter.isDeferred b := by
  rw [Linter.isDeferred, name_crashing, Linter.isDeferred]

end BoundRule

namespace Linter

/-- **The linter in which a rule crashes.** All else about the rule is left as
it is: its name, its kind, its settings, and whether it agrees to run. -/
def crashing (l : Linter) (name : String) (crash : RuleInput → Context → Crash) : Linter :=
  { l with
    rules := l.rules.map (BoundRule.crashing name crash)
    distinct := by
      rw [List.map_map]
      simpa [Function.comp_def] using l.distinct }

variable {l : Linter} {d : Document} {context : Context} {fileName : Option String}
  {disabled : List String} {name : String} {crash : RuleInput → Context → Crash}

/-- The rules are told the same. -/
theorem context_crashing :
    (l.crashing name crash).context fileName disabled = l.context fileName disabled := by
  simp [context, crashing, ruleNames, Function.comp_def, List.filter_map]

theorem activeRules_crashing :
    (l.crashing name crash).activeRules d context =
      (l.activeRules d context).map (BoundRule.crashing name crash) := by
  simp only [activeRules, crashing, List.filter_map, Function.comp_def,
    BoundRule.isActive_crashing, BoundRule.isDeferred_crashing]

theorem deferredRule_crashing :
    (l.crashing name crash).deferredRule d context =
      (l.deferredRule d context).map (BoundRule.crashing name crash) := by
  simp only [deferredRule, crashing, List.filter_map, Function.comp_def,
    BoundRule.isActive_crashing, BoundRule.isDeferred_crashing]

/-- **The same rules are called**, in the same order. -/
theorem map_bound_checkCalls_crashing :
    ((l.crashing name crash).checkCalls d fileName disabled).map (·.bound) =
      ((l.checkCalls d fileName disabled).map (·.bound)).map (BoundRule.crashing name crash) := by
  unfold checkCalls
  split
  · rfl
  · have hlast : (l.crashing name crash).ignoresComments = l.ignoresComments := rfl
    simp only [context_crashing, activeRules_crashing, deferredCalls, deferredRule_crashing, hlast]
    split <;> simp [CheckCall.on, Function.comp_def]

/-! ## The other rules -/

/-- Apart from what the deferred rule is told, every rule is handed the
document with the context of the run. -/
theorem withoutUsage_of_mem_checkCalls {c : CheckCall}
    (hc : c ∈ l.checkCalls d fileName disabled) :
    c.withoutUsage = CheckCall.on d (l.context fileName disabled) c.bound := by
  by_cases h : isExcluded d
  · rw [checkCalls, if_pos h] at hc
    cases hc
  · rcases (mem_checkCalls h).1 hc with ⟨hactive, heq⟩ | hdeferred
    · rw [CheckCall.withoutUsage, if_neg (mem_activeRules.1 hactive).2.2]
      exact heq
    · obtain ⟨-, hdeferred, heq⟩ := mem_deferredCalls.1 hdeferred
      rw [CheckCall.withoutUsage, if_pos (mem_deferredRule.1 hdeferred).2.1, heq]
      rfl

/-- The calls of some rules, apart from what the deferred rule is told. -/
theorem map_withoutUsage_filter (p : BoundRule → Bool) :
    ((l.checkCalls d fileName disabled).filter fun c => p c.bound).map CheckCall.withoutUsage =
      (((l.checkCalls d fileName disabled).map (·.bound)).filter p).map
        (CheckCall.on d (l.context fileName disabled)) := by
  rw [List.filter_map, List.map_map]
  exact List.map_congr_left fun c hc => withoutUsage_of_mem_checkCalls (List.mem_of_mem_filter hc)

/-- What calls some rules, none of which is the one that crashes. -/
structure Spares (name : String) (crash : RuleInput → Context → Crash) (p : BoundRule → Bool) :
    Prop where
  crashing : ∀ b, p (b.crashing name crash) = p b
  other : ∀ b, p b → b.name ≠ name

/-- **Every other rule is called with the same**, apart from what the deferred
rule is told. -/
theorem map_withoutUsage_filter_crashing {p : BoundRule → Bool} (h : Spares name crash p) :
    (((l.crashing name crash).checkCalls d fileName disabled).filter fun c => p c.bound).map
        CheckCall.withoutUsage =
      ((l.checkCalls d fileName disabled).filter fun c => p c.bound).map
        CheckCall.withoutUsage := by
  rw [map_withoutUsage_filter, map_withoutUsage_filter, context_crashing,
    map_bound_checkCalls_crashing, List.filter_map]
  have hp : p ∘ BoundRule.crashing name crash = p := funext h.crashing
  have hself : ∀ b ∈ ((l.checkCalls d fileName disabled).map (·.bound)).filter p,
      b.crashing name crash = b := by
    intro b hb
    exact BoundRule.crashing_of_name_ne (h.other b (List.mem_filter.1 hb).2)
  rw [hp, List.map_congr_left hself, List.map_id']

/-- Rules that are told nothing of suppression are called with the same. -/
theorem filter_checkCalls_crashing {p : BoundRule → Bool} (h : Spares name crash p)
    (hdeferred : ∀ b, p b → ¬ isDeferred b) :
    (((l.crashing name crash).checkCalls d fileName disabled).filter fun c => p c.bound) =
      (l.checkCalls d fileName disabled).filter fun c => p c.bound := by
  have hself : ∀ l : Linter, ((l.checkCalls d fileName disabled).filter fun c => p c.bound).map
      CheckCall.withoutUsage = (l.checkCalls d fileName disabled).filter fun c => p c.bound := by
    intro l
    refine (List.map_congr_left fun c hc => ?_).trans (List.map_id' _)
    exact if_neg (hdeferred _ (List.mem_filter.1 hc).2)
  rw [← hself, ← hself l, map_withoutUsage_filter_crashing h]

/-- They come to the same. -/
theorem filter_produced_crashing {p : BoundRule → Bool} (h : Spares name crash p)
    (hdeferred : ∀ b, p b → ¬ isDeferred b) :
    ((l.crashing name crash).produced d fileName disabled).filter (fun a => p a.bound) =
      (l.produced d fileName disabled).filter fun a => p a.bound := by
  rw [produced, produced, CheckCall.filter_flatMap_attributed, CheckCall.filter_flatMap_attributed,
    filter_checkCalls_crashing h hdeferred]

/-- **The same is reported of what they come to**, in the same order. -/
theorem filter_reported_crashing {p : BoundRule → Bool} (h : Spares name crash p)
    (hdeferred : ∀ b, p b → ¬ isDeferred b) :
    ((l.crashing name crash).reported d fileName disabled).filter (fun a => p a.bound) =
      (l.reported d fileName disabled).filter fun a => p a.bound := by
  have hpasses : (l.crashing name crash).passes d = l.passes d := rfl
  have hcomm : ∀ l : Linter,
      (l.reported d fileName disabled).filter (fun a => p a.bound) =
        ((l.produced d fileName disabled).filter fun a => p a.bound).filter (l.passes d) := by
    intro l
    rw [reported, List.filter_filter, List.filter_filter]
    exact List.filter_congr fun a _ => Bool.and_comm _ _
  rw [hcomm, hcomm, hpasses, filter_produced_crashing h hdeferred]

/-! ## The rule that crashes -/

/-- The offense about a crash belongs to a rule with a text for a name if the
rule that crashed is one. -/
theorem namesRule_crashOffense {rule : Rule} {failure : Crash} :
    (crashOffense rule failure).namesRule ↔ rule.title.string?.isSome := by
  unfold Offense.namesRule crashOffense Rule.instead
  by_cases h : rule.title.string?.isSome
  · simp [h, Table.get?]
  · simp [h, Table.get?]

variable {b r : BoundRule}

/-- **The crashing rule is called if the rule in whose place it stands is**, and
so are the others. -/
theorem exists_call_crashing_iff (h : ¬ isExcluded d) (hb : b ∈ l.rules) :
    (∃ c ∈ (l.crashing name crash).checkCalls d fileName disabled, c.bound.name = b.name) ↔
      l.Calls d fileName disabled b := by
  have hnames : ∀ c ∈ l.checkCalls d fileName disabled, c.bound.name = b.name → c.bound = b :=
    fun c hc hname => eq_of_name_eq (bound_mem_of_mem_checkCalls hc) hb hname
  have hmap : ((l.crashing name crash).checkCalls d fileName disabled).map (·.bound.name) =
      (l.checkCalls d fileName disabled).map (·.bound.name) := by
    have hbound := congrArg (List.map BoundRule.name)
      (@map_bound_checkCalls_crashing l d fileName disabled name crash)
    simpa [Function.comp_def] using hbound
  rw [← List.mem_map (f := fun c : CheckCall => c.bound.name), hmap, List.mem_map]
  constructor
  · rintro ⟨c, hc, hname⟩
    exact ((exists_call_iff h).1 ⟨c, hc, hnames c hc hname⟩).2
  · intro hcalls
    obtain ⟨c, hc, rfl⟩ := (exists_call_iff h).2 ⟨hb, hcalls⟩
    exact ⟨c, hc, rfl⟩

/-- **What the crashing rule comes to**: one offense, at the start of the
document, if it is called. -/
theorem exists_produced_crashing (h : ¬ isExcluded d) (hr : r ∈ l.rules)
    (hcalls : l.Calls d fileName disabled r) :
    ∃ failure, ((l.crashing r.name crash).produced d fileName disabled).filter
        (fun a => a.bound.name == r.name) =
      [⟨r.crashing r.name crash, crashOffense r.rule failure⟩] := by
  obtain ⟨c, hc, hname⟩ : ∃ c ∈ (l.crashing r.name crash).checkCalls d fileName disabled,
      c.bound.name = r.name := (exists_call_crashing_iff h hr).2 hcalls
  have hbound : c.bound = r.crashing r.name crash := by
    refine eq_of_name_eq (bound_mem_of_mem_checkCalls hc) (List.mem_map_of_mem hr) ?_
    rw [hname, BoundRule.name_crashing]
  have hanswer : c.answer = .error (crash c.input c.context) := by
    rw [CheckCall.answer, hbound, BoundRule.rule_crashing_self]
    rfl
  have honly := filter_checkCalls_name hc
  rw [hname] at honly
  refine ⟨crash c.input c.context, ?_⟩
  rw [produced, CheckCall.filter_flatMap_attributed (fun b => b.name == r.name), honly,
    List.flatMap_singleton, CheckCall.attributed, CheckCall.offenses_of_crash hanswer, hbound,
    List.map_singleton, BoundRule.crashOffense_crashing]

/-- It comes to nothing if it is not called. -/
theorem filter_produced_crashing_eq_nil (h : ¬ isExcluded d) (hr : r ∈ l.rules)
    (hcalls : ¬ l.Calls d fileName disabled r) :
    ((l.crashing r.name crash).produced d fileName disabled).filter
      (fun a => a.bound.name == r.name) = [] := by
  refine List.filter_eq_nil_iff.2 fun a ha hname => hcalls ?_
  obtain ⟨c, hc, ha⟩ := List.mem_flatMap.1 ha
  refine (exists_call_crashing_iff h hr).1 ⟨c, hc, ?_⟩
  rw [← CheckCall.bound_of_mem_attributed ha]
  exact beq_iff_eq.1 hname

/-- **When linting comes to a result although a rule crashes**: as without the
crash, every rule has to say whether it is active, and what the others come to
has to be of rules with texts for names. -/
theorem lint?_crashing_eq_ok_iff (h : ¬ isExcluded d) (hr : r ∈ l.rules) :
    let context := l.context fileName disabled
    let l' := l.crashing r.name crash
    l'.lint? d fileName disabled = .ok (l'.lint d fileName disabled) ↔
      (∀ b ∈ l.rules, askingFailure? d context b = none) ∧
        (∀ b ∈ l.activeRules d context, b.name ≠ r.name →
          ∀ o ∈ offensesOf d context b, o.namesRule) ∧
        (r ∈ l.activeRules d context → r.rule.title.string?.isSome) := by
  intro context l'
  have hask : (∀ b ∈ l'.rules, askingFailure? d context b = none) ↔
      ∀ b ∈ l.rules, askingFailure? d context b = none := by
    simp [l', crashing, BoundRule.askingFailure?_crashing]
  have hcrash : (∀ o ∈ offensesOf d context (r.crashing r.name crash), o.namesRule) ↔
      r.rule.title.string?.isSome := by
    have hanswer : (CheckCall.on d context (r.crashing r.name crash)).answer =
        .error (crash (r.rule.input d) context) := by
      rw [CheckCall.answer, CheckCall.on, BoundRule.rule_crashing_self]
      rfl
    rw [← CheckCall.offenses_on, CheckCall.offenses_of_crash hanswer, List.forall_mem_singleton,
      namesRule_crashOffense, CheckCall.on, BoundRule.title_crashing]
  have hraw : (∀ o ∈ l'.rawOffenses d context, o.namesRule) ↔
      ∀ b ∈ l.activeRules d context, ∀ o ∈ offensesOf d context (b.crashing r.name crash),
        o.namesRule := by
    simp only [l', rawOffenses, activeRules_crashing, List.mem_flatMap, List.mem_map]
    constructor
    · exact fun hall b hb o ho => hall o ⟨_, ⟨b, hb, rfl⟩, ho⟩
    · rintro hall o ⟨_, ⟨b, hb, rfl⟩, ho⟩
      exact hall b hb o ho
  rw [lint?_eq_ok_iff h, context_crashing, hask, hraw]
  refine and_congr_right fun _ => ?_
  constructor
  · intro hall
    refine ⟨fun b hb hname => ?_, fun hactive => hcrash.1 (hall r hactive)⟩
    have hsame : b.crashing r.name crash = b := BoundRule.crashing_of_name_ne hname
    exact hsame ▸ hall b hb
  · rintro ⟨hothers, hown⟩ b hb
    by_cases hname : b.name = r.name
    · obtain rfl := eq_of_name_eq (mem_activeRules.1 hb).1 hr hname
      exact hcrash.2 (hown hb)
    · rw [BoundRule.crashing_of_name_ne hname]
      exact hothers b hb hname

/-- What stays as it is in the linting of a document, where the second linter is
the first one with a check that crashes in the place of that of a rule. -/
structure CrashContained (l l' : Linter) (d : Document) (fileName : Option String)
    (disabled : List String) (r : BoundRule) : Prop where
  /-- Linting still comes to a result. -/
  returns : r.rule.title.string?.isSome →
    l.lint? d fileName disabled = .ok (l.lint d fileName disabled) →
      l'.lint? d fileName disabled = .ok (l'.lint d fileName disabled)
  /-- It does so unless a rule cannot be asked whether it is active, or some
  offense, which may be that about the crash, is of a rule without a text for a
  name. -/
  returns_iff : l'.lint? d fileName disabled = .ok (l'.lint d fileName disabled) ↔
    (∀ b ∈ l.rules, askingFailure? d (l.context fileName disabled) b = none) ∧
      (∀ b ∈ l.activeRules d (l.context fileName disabled), b.name ≠ r.name →
        ∀ o ∈ offensesOf d (l.context fileName disabled) b, o.namesRule) ∧
      (r ∈ l.activeRules d (l.context fileName disabled) → r.rule.title.string?.isSome)
  /-- The same rules are called. -/
  called : ∀ b ∈ l.rules,
    (∃ c ∈ l'.checkCalls d fileName disabled, c.bound.name = b.name) ↔
      l.Calls d fileName disabled b
  /-- The others are handed the same, apart from what the deferred one is told
  about suppression. -/
  handed : ((l'.checkCalls d fileName disabled).filter fun c => c.bound.name != r.name).map
      CheckCall.withoutUsage =
    ((l.checkCalls d fileName disabled).filter fun c => c.bound.name != r.name).map
      CheckCall.withoutUsage
  /-- What linting reports is what is reported of each rule. -/
  offenses : (l'.lint d fileName disabled).offenses =
      (l'.reported d fileName disabled).map (·.offense) ∧
    (l.lint d fileName disabled).offenses = (l.reported d fileName disabled).map (·.offense)
  /-- The same is reported of the others, the deferred one left aside. -/
  others : ((l'.reported d fileName disabled).filter fun a =>
      a.bound.name != r.name && a.bound.name != DisableComments.unnecessaryName) =
    (l.reported d fileName disabled).filter fun a =>
      a.bound.name != r.name && a.bound.name != DisableComments.unnecessaryName
  /-- The rule comes to one error at the start of the document, if it is called. -/
  own : l.Calls d fileName disabled r →
    ∃ o, ((l'.produced d fileName disabled).filter fun a => a.bound.name == r.name).map
        (·.offense) = [o] ∧
      o.rule = r.name ∧ o.severity = some .error ∧ o.location = .point ⟨1, 0⟩
  /-- It comes to nothing if it is not. -/
  nothing : ¬ l.Calls d fileName disabled r →
    ((l'.produced d fileName disabled).filter fun a => a.bound.name == r.name) = []

/-- **A crash is contained.** Whichever rule of a linter crashes, and whatever
it crashes with, the other rules are called with what they were called with,
and what is reported of them stays as it is. -/
theorem crash_contained (l : Linter) (d : Document) (fileName : Option String)
    (disabled : List String) (included : ∀ node ∈ d.nodes, ¬ node.isLinterIgnore)
    {r : BoundRule} (hr : r ∈ l.rules) (crash : RuleInput → Context → Crash) :
    CrashContained l (l.crashing r.name crash) d fileName disabled r := by
  have h : ¬ isExcluded d := not_isExcluded included
  have hothers : Spares r.name crash fun b => b.name != r.name :=
    ⟨fun b => by rw [BoundRule.name_crashing], fun b hb => bne_iff_ne.1 hb⟩
  have hplain : Spares r.name crash fun b =>
      b.name != r.name && b.name != DisableComments.unnecessaryName :=
    ⟨fun b => by rw [BoundRule.name_crashing],
      fun b hb => bne_iff_ne.1 (Bool.and_eq_true_iff.1 hb).1⟩
  refine
    { returns := fun htitle hreturns => ?_
      returns_iff := lint?_crashing_eq_ok_iff h hr
      called := fun b hb => exists_call_crashing_iff h hb
      handed := map_withoutUsage_filter_crashing hothers
      offenses := ⟨offenses_lint .., offenses_lint ..⟩
      others := filter_reported_crashing hplain fun b hb hdeferred => ?_
      own := fun hcalls => ?_
      nothing := filter_produced_crashing_eq_nil h hr }
  · obtain ⟨hask, hraw⟩ := (lint?_eq_ok_iff h).1 hreturns
    refine (lint?_crashing_eq_ok_iff h hr).2 ⟨hask, fun b hb _ o ho => hraw o ?_, fun _ => htitle⟩
    exact List.mem_flatMap.2 ⟨b, hb, ho⟩
  · exact bne_iff_ne.1 (Bool.and_eq_true_iff.1 hb).2 (isDeferred_iff.1 hdeferred)
  · obtain ⟨failure, honly⟩ := exists_produced_crashing h hr hcalls
    exact ⟨crashOffense r.rule failure, by rw [honly]; rfl, rfl, rfl, rfl⟩

/-- The rule about tags crashes on a document in which a comment and the rule
about newlines have something to say, too: the blank lines are still all that is
reported of the others. -/
theorem crash_contained_tags :
    let l := standard { scope := .line }
    let d := Document.parse "<%# herb:disable all %>\n<DIV>\n\n\n\n<B>\n".toList
    let r : BoundRule := ⟨Tags.lowercase, Tags.lowercase.settings⟩
    let l' := l.crashing r.name fun _ _ => .of "RuntimeError" "boom"
    let apart := fun a : Attributed =>
      a.bound.name != r.name && a.bound.name != DisableComments.unnecessaryName
    (∀ node ∈ d.nodes, ¬ node.isLinterIgnore) ∧ r ∈ l.rules ∧
      (((l'.reported d none []).filter apart).map (·.offense.rule)) = [Newlines.blankLinesName] ∧
      CrashContained l l' d none [] r := by
  intro l d r l' apart
  have included : ∀ node ∈ d.nodes, ¬ node.isLinterIgnore := by decide +kernel
  have hr : r ∈ l.rules := List.mem_map.2 ⟨Tags.lowercase, by simp [Rule.builtins], rfl⟩
  have hcontained := crash_contained l d none [] included hr fun _ _ => .of "RuntimeError" "boom"
  refine ⟨included, hr, ?_, hcontained⟩
  rw [hcontained.others]
  decide +kernel

end Linter

/-! ## Whether a crash is reported -/

namespace Setup

variable {s : Setup} {w : Workspace} {p : Project} {paths : List Path} {disabled : List String}
  {run : LintRun} {log : Log} {file : Path} {source : Text} {result : LintResult}

/-- A file with a text that is linted to a result is checked. -/
theorem outcome_eq_checked (htext : w.root.text? file = .ok source)
    (hlint : s.linter.lintSource? source (some (w.nameOf p file)) disabled = .ok result) :
    s.outcome w p disabled file = .checked (w.nameOf p file) result := by
  simp only [outcome, htext, hlint]

/-- **An error in one file is an error of the run.** -/
theorem exitCode_eq_one (hrun : s.lint w p paths disabled = .ok (run, log))
    (hfile : file ∈ Discovery.files w.root w.here p.settings paths)
    (houtcome : s.outcome w p disabled file = .checked (w.nameOf p file) result)
    (herror : ∃ o ∈ result.offenses, o.severity = some .error) : run.exitCode = 1 := by
  unfold lint at hrun
  split at hrun
  · cases hrun
  · dsimp only at hrun
    split at hrun
    · cases hrun
    · rename_i run' hgathered
      cases hrun
      obtain ⟨-, rfl⟩ := LintRun.ofOutcomes?_eq_ok_iff.1 hgathered
      obtain ⟨o, ho, hseverity⟩ := herror
      refine if_pos (List.any_eq_true.2 ⟨⟨w.nameOf p file, o⟩, ?_, by simpa using hseverity⟩)
      rw [LintRun.ofOutcomes_eq]
      refine List.mem_flatMap.2 ⟨_, List.mem_map.2 ⟨file, hfile, houtcome⟩, ?_⟩
      exact List.mem_map_of_mem ho

end Setup

namespace Linter

/-- A comment hides what is reported of a rule at the start of the document: it
names the rule and reaches the first line, and the rule is not one about
comments. -/
def Silences (l : Linter) (d : Document) (rule : String) : Prop :=
  l.ignoresComments = false ∧ ¬ DisableComments.namePrefix.toList <+: rule.toList ∧
    ∃ node ∈ d.nodes, ∃ directive, node.Holds directive ∧ directive.Names rule ∧
      l.scope.Reaches node.location.start.line 1

variable {l : Linter} {d : Document} {fileName : Option String} {disabled : List String}

/-- The offense about a crash passes unless a comment hides it. -/
theorem passes_crashOffense_iff {b : BoundRule} {failure : Crash} :
    l.passes d ⟨b, crashOffense b.rule failure⟩ ↔ ¬ l.Silences d b.name := by
  have hsuppresses : d.Suppresses l.scope (crashOffense b.rule failure) ↔
      ¬ DisableComments.namePrefix.toList <+: b.name.toList ∧
        ∃ node ∈ d.nodes, ∃ directive, node.Holds directive ∧ directive.Names b.name ∧
          l.scope.Reaches node.location.start.line 1 := Iff.rfl
  -- The deferred rule is one about comments.
  have hdeferred : b.name = DisableComments.unnecessaryName →
      DisableComments.namePrefix.toList <+: b.name.toList := by
    intro hname
    rw [hname]
    decide
  rw [passes_iff, hsuppresses, Silences]
  constructor
  · rintro (hname | hignores | hnone) ⟨hreads, hnamed, hhidden⟩
    · exact hnamed (hdeferred hname)
    · exact Bool.false_ne_true (hreads.symm.trans hignores)
    · exact hnone ⟨hnamed, hhidden⟩
  · intro hloud
    rcases hreads : l.ignoresComments
    · exact .inr (.inr fun hs => hloud ⟨hreads, hs⟩)
    · exact .inr (.inl rfl)

/-- **When a crash is reported.** The crash of a rule that linting calls comes
to an error under the name of the rule, which says that it crashed. That is
reported unless a comment of the document names the rule and reaches the first
line. Where it is reported, a run over the file exits with 1. -/
theorem crash_reported {c : CheckCall} (hc : c ∈ l.checkCalls d fileName disabled)
    {failure : Crash} (hcrash : c.answer = .error failure) :
    let o := crashOffense c.bound.rule failure
    (o.rule = c.bound.name ∧ o.severity = some .error ∧
      o.message = s!"Rule crashed: {failure.kind}: {failure.message}") ∧
    (⟨c.bound, o⟩ ∈ l.reported d fileName disabled ↔ ¬ l.Silences d c.bound.name) ∧
    ∀ result, l.lint? d fileName disabled = .ok result → ¬ l.Silences d c.bound.name →
      o ∈ result.offenses ∧
      ∀ (s : Setup) (w : Workspace) (p : Project) (paths : List Path) (file : Path) (source : Text)
        (run : LintRun) (log : Log), s.linter = l → s.lint w p paths disabled = .ok (run, log) →
          file ∈ Discovery.files w.root w.here p.settings paths →
          w.root.text? file = .ok source → l.read? source = .ok d →
          fileName = some (w.nameOf p file) → run.exitCode = 1 := by
  intro o
  have hproduced : ⟨c.bound, o⟩ ∈ l.produced d fileName disabled := by
    refine List.mem_flatMap.2 ⟨c, hc, List.mem_map.2 ⟨o, ?_, rfl⟩⟩
    rw [CheckCall.offenses_of_crash hcrash]
    exact List.mem_singleton_self o
  have hreported : ⟨c.bound, o⟩ ∈ l.reported d fileName disabled ↔ ¬ l.Silences d c.bound.name := by
    rw [reported, List.mem_filter, passes_crashOffense_iff]
    exact and_iff_right hproduced
  refine ⟨⟨rfl, rfl, rfl⟩, hreported, fun result hresult hloud => ?_⟩
  have ho : o ∈ result.offenses := by
    rw [eq_lint_of_lint? hresult, offenses_lint]
    exact List.mem_map.2 ⟨_, hreported.2 hloud, rfl⟩
  refine ⟨ho, ?_⟩
  rintro s w p paths file source run log rfl hrun hfile htext hread rfl
  refine Setup.exitCode_eq_one hrun hfile (Setup.outcome_eq_checked htext ?_) ⟨o, ho, rfl⟩
  rw [lintSource?, hread]
  exact hresult

/-- A rule that looks at the source and crashes. -/
def explodingRule : BoundRule where
  rule :=
    { name := "exploding", kind := .source
      check := fun _ _ => .error (.of "RuntimeError" "boom") }
  settings := {}

/-- The linter of that rule. -/
def exploding : Linter where
  parse := some fun source => .ok (Document.parse source)
  rules := [explodingRule]
  distinct := by decide

/-- Linting calls the rule. -/
theorem call_mem_exploding {d : Document} (h : ¬ isExcluded d) :
    CheckCall.on d (exploding.context none []) explodingRule ∈ exploding.checkCalls d none [] :=
  (mem_checkCalls h).2 (.inl ⟨List.mem_singleton_self explodingRule, rfl⟩)

/-- Linting comes to a result. -/
theorem lint?_exploding {d : Document} (h : ¬ isExcluded d) :
    exploding.lint? d none [] = .ok (exploding.lint d none []) := by
  refine (lint?_eq_ok_iff h).2 ⟨fun b hb => ?_, fun o ho => ?_⟩
  · cases List.mem_singleton.1 hb
    rfl
  · cases List.mem_singleton.1 ho
    rfl

/-- A comment on the second line does not hide the crash, although it names
every rule. -/
theorem crash_reported_secondLine :
    let d := Document.parse "\n<%# herb:disable all %>\n".toList
    let c := CheckCall.on d (exploding.context none []) explodingRule
    c ∈ exploding.checkCalls d none [] ∧ c.answer = .error (.of "RuntimeError" "boom") ∧
      crashOffense explodingRule.rule (.of "RuntimeError" "boom") ∈
        (exploding.lint d none []).offenses := by
  intro d c
  have hincluded : ¬ isExcluded d := by decide +kernel
  have hc : c ∈ exploding.checkCalls d none [] := call_mem_exploding hincluded
  have hcrash : c.answer = .error (.of "RuntimeError" "boom") := rfl
  have hloud : ¬ exploding.Silences d explodingRule.name := by
    have hpasses : exploding.passes d
        ⟨explodingRule, crashOffense explodingRule.rule (.of "RuntimeError" "boom")⟩ := by
      decide +kernel
    exact passes_crashOffense_iff.1 hpasses
  exact ⟨hc, hcrash, ((crash_reported hc hcrash).2.2 _ (lint?_exploding hincluded) hloud).1⟩

/-- **A comment on the first line hides a crash.** Linting calls the rule, and
the rule crashes, but nothing is reported, and a run over the file exits with
0. -/
theorem crash_silenced :
    let source := "<%# herb:disable all %>\n".toList
    let d := Document.parse source
    let c := CheckCall.on d (exploding.context none []) explodingRule
    let w : Workspace :=
      { root := .directory [(['a'], .file (source.map fun c => c.toNat.toUInt8))]
        here := ⟨.root, []⟩, modules := [], imports := fun _ => .done [], home := "" }
    let s : Setup := { linter := exploding }
    (∀ node ∈ d.nodes, ¬ node.isLinterIgnore) ∧
      c ∈ exploding.checkCalls d none [] ∧ c.answer = .error (.of "RuntimeError" "boom") ∧
      exploding.lint? d none [] = .ok (exploding.lint d none []) ∧
      (exploding.lint d none []).offenses = [] ∧
      (LintRun.ofOutcomes [s.outcome w ⟨{}, none⟩ [] ⟨.root, [['a']]⟩]).exitCode = 0 := by
  intro source d c w s
  have hincluded : ¬ isExcluded d := by decide +kernel
  exact ⟨by decide +kernel, call_mem_exploding hincluded, rfl, lint?_exploding hincluded,
    List.eq_nil_of_length_eq_zero (by decide +kernel), by decide +kernel⟩

end Linter

end TemplateLint
