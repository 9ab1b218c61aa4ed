import Mathlib.Data.List.Nodup
import TemplateLint.Linter.Autofix
import TemplateLint.Proofs.Newlines
import TemplateLint.Proofs.Suppression
/-!
# Fixing — a pass, rule by rule

Of the library's rules only the two about newlines have fixers, so a pass
hands their offenses to these two fixers, one after the other, and does
nothing else (`Linter.autofix_eq`). The first one squeezes the part of the
text in which offenses are left to it, the second one puts the end of the
file in order.
-/

namespace TemplateLint

namespace Linter

open Text Newlines

/-! ## What a pass fixes -/

/-- A phase of fixing goes on from one state to another: it adds to what is
fixed, and if it adds nothing, the input is as it was. -/
def FixState.LeadsTo {α : Type} (s s' : FixState α) : Prop :=
  ∃ more, s'.fixed = s.fixed ++ more ∧ (more = [] → s'.input = s.input)

namespace FixState

variable {α : Type} {s s' s'' : FixState α}

theorem LeadsTo.refl (s : FixState α) : s.LeadsTo s :=
  ⟨[], (List.append_nil _).symm, fun _ => rfl⟩

theorem LeadsTo.trans (h : s.LeadsTo s') (h' : s'.LeadsTo s'') : s.LeadsTo s'' := by
  obtain ⟨more, hfixed, hinput⟩ := h
  obtain ⟨more', hfixed', hinput'⟩ := h'
  refine ⟨more ++ more', by rw [hfixed', hfixed, List.append_assoc], fun hnone => ?_⟩
  obtain ⟨rfl, rfl⟩ := List.append_eq_nil_iff.1 hnone
  rw [hinput' rfl, hinput rfl]

theorem leadsTo_foldl {β : Type} {f : FixState α → β → FixState α}
    (hf : ∀ (s : FixState α) b, s.LeadsTo (f s b)) (s : FixState α) (bs : List β) :
    s.LeadsTo (bs.foldl f s) := by
  induction bs generalizing s with
  | nil => exact .refl s
  | cons b bs ih => exact (hf s b).trans (ih (f s b))

end FixState

section Phase

variable {α : Type} {give : α → RuleInput} {take : Replacement → Option α} {context : Context}

theorem leadsTo_fixOne (b : BoundRule) (s : FixState α) (o : Offense) :
    s.LeadsTo (fixOne give take context b s o) := by
  simp only [fixOne]
  split
  · exact ⟨[o], rfl, nofun⟩
  · exact ⟨[], (List.append_nil _).symm, fun _ => rfl⟩

/-- **A fixer that fixes nothing changes nothing.** -/
theorem leadsTo_fixGroup (s : FixState α) (group : FixGroup) :
    s.LeadsTo (fixGroup give take context s group) :=
  FixState.leadsTo_foldl (leadsTo_fixOne group.bound) s _

end Phase

theorem leadsTo_fixText (context : Context) (groups : List FixGroup) (s : FixState Text) :
    s.LeadsTo (fixText context groups s) :=
  FixState.leadsTo_foldl leadsTo_fixGroup s _

theorem leadsTo_fixDocument (l : Linter) (context : Context) (groups : List FixGroup)
    (s : FixState Document) : s.LeadsTo (l.fixDocument context groups s) := by
  simp only [fixDocument]
  split
  · exact ⟨[], (List.append_nil _).symm, fun _ => rfl⟩
  · exact FixState.leadsTo_foldl leadsTo_fixGroup s _

/-- The source is printed only if something was fixed. -/
theorem printed?_of_fixed_eq_nil {l : Linter} {s : FixState Document} (hfixed : s.fixed = []) :
    l.printed? s = .ok s.input.source := by
  rw [printed?, hfixed]
  split <;> rfl

theorem input_fixedDocument {l : Linter} {d : Document} {context : Context} {result : LintResult}
    (hnone : (l.fixedDocument d context result).fixed = []) :
    (l.fixedDocument d context result).input = d := by
  unfold fixedDocument at hnone ⊢
  obtain ⟨more, hmore, hinput⟩ := leadsTo_fixDocument l context (l.fixGroups result.offenses)
    ⟨d, [], result.offenses.filter fun o => (l.fixable? o).isNone, result.log⟩
  exact hinput (hmore.symm.trans hnone)

theorem source_finish {l : Linter} {context : Context} {result : LintResult}
    {parsed : FixState Document} {source : Text}
    (hnone : (l.finish context result parsed source).fixed = []) :
    parsed.fixed = [] ∧ (l.finish context result parsed source).source = source := by
  obtain ⟨more, hmore, hinput⟩ := leadsTo_fixText context (l.fixGroups result.offenses)
    ⟨source, parsed.fixed, parsed.unfixed, parsed.log⟩
  obtain ⟨hparsed, rfl⟩ := List.append_eq_nil_iff.1 (hmore.symm.trans hnone)
  exact ⟨hparsed, hinput rfl⟩

/-- **A pass that fixes nothing gives back the source.** -/
theorem source_autofix_of_fixed_eq_nil {l : Linter} {d : Document} {fileName : Option String}
    {disabled : List String} (hnone : (l.autofix d fileName disabled).fixed = []) :
    (l.autofix d fileName disabled).source = d.source := by
  simp only [autofix] at hnone ⊢
  split
  · rfl
  · rename_i hempty
    rw [if_neg hempty] at hnone
    obtain ⟨hparsed, hsource⟩ := source_finish hnone
    rw [hsource, printed, printed?_of_fixed_eq_nil hparsed, input_fixedDocument hparsed]
    rfl

/-! ## The order of the offenses -/

/-- The offense that starts last is handed over first. -/
theorem pairwise_bottomUp (offenses : List Offense) :
    (bottomUp offenses).Pairwise fun a b => decide (b.start ≤ a.start) = true := by
  refine List.pairwise_mergeSort (fun a b c hab hbc => ?_) (fun a b => ?_) offenses
  · rw [decide_eq_true_eq] at hab hbc ⊢
    exact Position.le_trans hbc hab
  · rw [Bool.or_eq_true, decide_eq_true_eq, decide_eq_true_eq, Position.le_def, Position.le_def]
    omega

/-- Offenses on lines further and further down are handed over from the end. -/
theorem bottomUp_eq_reverse {offenses : List Offense}
    (h : offenses.Pairwise fun a b => a.start.line < b.start.line) :
    bottomUp offenses = offenses.reverse := by
  have hreverse : offenses.reverse.Pairwise fun a b => decide (b.start ≤ a.start) = true := by
    rw [List.pairwise_reverse]
    exact h.imp fun hlt => decide_eq_true (.inl hlt)
  -- Lines that are all different leave one order.
  refine List.Perm.eq_of_pairwise ?_ (pairwise_bottomUp offenses) hreverse
    ((List.mergeSort_perm _ _).trans (List.reverse_perm _).symm)
  intro a b ha hb hba hab
  have hlines : (offenses.map fun o => o.start.line).Nodup :=
    List.pairwise_map.2 (h.imp fun hlt => Nat.ne_of_lt hlt)
  refine List.inj_on_of_nodup_map hlines (List.mem_mergeSort.1 ha) (List.mem_reverse.1 hb) ?_
  rw [decide_eq_true_eq, Position.le_def] at hba hab
  omega

/-! ## The two fixers -/

theorem start_bind (o : Offense) (severity : Severity) : (o.bind severity).start = o.start := by
  unfold Offense.bind
  split <;> rfl

theorem rule_bind (o : Offense) (severity : Severity) : (o.bind severity).rule = o.rule := by
  unfold Offense.bind
  split <;> rfl

section Fixers

variable {b : BoundRule} {s : FixState Text} {context : Context}

/-- The fixer cuts the range out that an offense notes. -/
theorem input_fixOne_blankLines (hb : b.rule = blankLines) (source : Text) (severity : Severity)
    {before after : Text} {count : Nat} (hs : s.input = before ++ newlines count ++ after) :
    (fixOne .text takeText context b s ((blankLinesOffense source before.length
      (before.length + count)).bind severity)).input = before ++ after := by
  have hremove := removeNewlines?_newlines before after count
  rw [← hs] at hremove
  have hcall : callFixer b ((blankLinesOffense source before.length
      (before.length + count)).bind severity) (.text s.input) context =
        (((removeNewlines? s.input (some (before.length : Nat))
          (some ((before.length + count : Nat) : Int))).elim .nothing .text), []) := by
    rw [callFixer, hb]
    rfl
  simp only [fixOne, hcall, hremove]
  rfl

/-- The offenses of some ranges, with a severity. -/
def offensesAt (source : Text) (severity : Severity) (ranges : List (Nat × Nat)) : List Offense :=
  ranges.map fun range => (blankLinesOffense source range.1 range.2).bind severity

/-- **The fixer squeezes the part of the text that its offenses are in.** -/
theorem input_fixGroup_blankLines (hb : b.rule = blankLines) {x y : Text}
    (hy : y.head? ≠ some '\n') (severity : Severity) (hs : s.input = x ++ y) :
    (fixGroup .text takeText context s
      ⟨b, offensesAt (x ++ y) severity (excessAt 0 x)⟩).input = squeeze x ++ y := by
  have hascending : (offensesAt (x ++ y) severity (excessAt 0 x)).Pairwise
      fun a b => a.start.line < b.start.line := by
    have hmem : ∀ range ∈ excessAt 0 x, range ∈ excess (x ++ y) := by
      intro range hrange
      rw [excess, ← excessAt, excessAt_append hy]
      exact List.mem_append_left _ hrange
    rw [offensesAt, List.pairwise_map]
    refine (pairwise_excessAt 0 x).imp_of_mem fun ha _ hlt => ?_
    rw [start_bind, start_bind, line_blankLinesOffense, line_blankLinesOffense]
    exact Nat.succ_lt_succ (count_take_lt (hmem _ ha) hlt)
  have hcuts := squeezes_of_cuts (fun (s : FixState Text) t => s.input = t)
    (fun range s => fixOne .text takeText context b s
      ((blankLinesOffense (x ++ y) range.1 range.2).bind severity))
    (fun before count after s hs => input_fixOne_blankLines hb (x ++ y) severity hs)
    [] x y s hs
  rw [fixGroup, bottomUp_eq_reverse hascending, List.foldl_reverse, offensesAt, List.foldr_map]
  exact hcuts

/-- The other fixer puts the end of the text in order, if there is anything in
front of it. -/
theorem input_fixOne_endOfFile (hb : b.rule = endOfFile) (o : Offense) :
    (fixOne .text takeText context b s o).input = (endWithNewline? s.input).getD s.input := by
  have hcall : callFixer b o (.text s.input) context =
      ((endWithNewline? s.input).elim .nothing .text, []) := by
    rw [callFixer, hb]
    rfl
  simp only [fixOne, hcall]
  rcases endWithNewline? s.input with _ | t <;> rfl

end Fixers

/-! ## The offenses of a rule -/

section Offenses

variable {l : Linter} {d : Document} {fileName : Option String} {disabled : List String}

/-- The offenses of a rule that linting leaves to it. -/
def kept (l : Linter) (d : Document) (context : Context) (b : BoundRule) : List Offense :=
  if isActive d context b then
    (offensesOf d context b).filter fun o => l.ignoresComments ∨ ¬ d.Suppresses l.scope o
  else []

/-- The offense is of neither rule about newlines. -/
def IsOther (o : Offense) : Prop :=
  o.rule ≠ blankLinesName ∧ o.rule ≠ endOfFileName

/-- The two rules about newlines, as the linter has them, and the rules behind
them. -/
structure Lineup (l : Linter) where
  blank : BoundRule
  last : BoundRule
  others : List BoundRule
  rules_eq : l.rules = blank :: last :: others
  blank_rule : blank.rule = blankLines
  last_rule : last.rule = endOfFile

theorem RunsBuiltins.nonempty_lineup (h : l.RunsBuiltins) : Nonempty l.Lineup := by
  unfold RunsBuiltins at h
  rcases hrules : l.rules with _ | ⟨blank, _ | ⟨last, others⟩⟩ <;> rw [hrules] at h
  · exact absurd h (List.cons_ne_nil _ _).symm
  · exact absurd (List.cons.inj h).2 (List.cons_ne_nil _ _).symm
  · obtain ⟨hblank, hrest⟩ := List.cons.inj h
    exact ⟨⟨blank, last, others, hrules, hblank, (List.cons.inj hrest).1⟩⟩

namespace Lineup

variable (p : l.Lineup)

theorem blank_name : p.blank.name = blankLinesName := by
  rw [BoundRule.name, p.blank_rule]
  rfl

theorem last_name : p.last.name = endOfFileName := by
  rw [BoundRule.name, p.last_rule]
  rfl

/-- Any rule behind the two has another name. -/
theorem name_ne {b : BoundRule} (hb : b ∈ p.others) :
    b.name ≠ blankLinesName ∧ b.name ≠ endOfFileName := by
  have hdistinct := l.distinct
  rw [p.rules_eq, List.map_cons, List.map_cons, List.nodup_cons, List.nodup_cons,
    p.blank_name, p.last_name] at hdistinct
  have hname := List.mem_map_of_mem (f := BoundRule.name) hb
  exact ⟨fun h => hdistinct.1 (.tail _ (h ▸ hname)), fun h => hdistinct.2.1 (h ▸ hname)⟩

theorem mem_of_mem_others {b : BoundRule} (hb : b ∈ p.others) : b ∈ l.rules := by
  rw [p.rules_eq]
  exact .tail _ (.tail _ hb)

end Lineup

/-- Linting keeps the offenses of the active rules that are left to it. Behind
them stands what the deferred rule reports. -/
theorem offenses_settle_eq (l : Linter) (d : Document) (context : Context) (raw : List Offense) :
    ∃ tail, (l.settle d context raw).offenses =
        (raw.filter fun o => l.ignoresComments ∨ ¬ d.Suppresses l.scope o) ++ tail ∧
      ∀ o ∈ tail, ∃ b ∈ l.rules, b.name = DisableComments.unnecessaryName ∧
        ∃ context, o ∈ offensesOf d context b := by
  cases hreads : l.ignoresComments with
  | true =>
    refine ⟨[], ?_, nofun⟩
    rw [settle, if_pos hreads]
    simp
  | false =>
    obtain ⟨tail, htail, hdeferred⟩ := @offenses_settle l d context raw hreads
    refine ⟨tail, by simpa using htail, ?_⟩
    rcases hdeferred with rfl | ⟨b, hb, hname, -, usage, rfl⟩
    · exact nofun
    · exact fun o ho => ⟨b, hb, hname, _, ho⟩

/-- The raw offenses, the rules about newlines first. -/
theorem Lineup.rawOffenses_eq (p : l.Lineup) (context : Context) :
    l.rawOffenses d context =
      (if isActive d context p.blank then offensesOf d context p.blank else []) ++
        ((if isActive d context p.last then offensesOf d context p.last else []) ++
          (p.others.filter fun b => isActive d context b && !isDeferred b).flatMap
            (offensesOf d context)) := by
  have hblank : isDeferred p.blank = false := by
    rw [isDeferred, p.blank_name]
    decide
  have hlast : isDeferred p.last = false := by
    rw [isDeferred, p.last_name]
    decide
  rw [rawOffenses, activeRules, p.rules_eq, List.filter_cons, List.filter_cons, hblank, hlast]
  cases isActive d context p.blank <;> cases isActive d context p.last <;> simp

/-- **What linting reports**: first what is left of the offenses about
newlines, then what other rules report. -/
theorem RunsBuiltins.offenses_lint (h : l.RunsBuiltins) (p : l.Lineup)
    (included : ¬ isExcluded d) :
    ∃ rest, (l.lint d fileName disabled).offenses =
        kept l d (l.context fileName disabled) p.blank ++
          (kept l d (l.context fileName disabled) p.last ++ rest) ∧
      ∀ o ∈ rest, IsOther o := by
  have hlint : l.lint d fileName disabled = l.settle d (l.context fileName disabled)
      (l.rawOffenses d (l.context fileName disabled)) := if_neg included
  obtain ⟨tail, htail, hdeferred⟩ := offenses_settle_eq l d (l.context fileName disabled)
    (l.rawOffenses d (l.context fileName disabled))
  have hkept : ∀ b, ((if isActive d (l.context fileName disabled) b then
      offensesOf d (l.context fileName disabled) b else []).filter fun o =>
        l.ignoresComments ∨ ¬ d.Suppresses l.scope o) =
      kept l d (l.context fileName disabled) b := by
    intro b
    rw [kept]
    split <;> rfl
  rw [hlint, htail, p.rawOffenses_eq, List.filter_append, List.filter_append, hkept, hkept,
    List.append_assoc, List.append_assoc]
  refine ⟨_, rfl, fun o ho => ?_⟩
  rcases List.mem_append.1 ho with ho | ho
  · obtain ⟨b, hb, ho⟩ := List.mem_flatMap.1 (List.mem_filter.1 ho).1
    have hothers := (List.mem_filter.1 hb).1
    rw [IsOther, (h.reportedBy (p.mem_of_mem_others hothers) ho).1]
    exact p.name_ne hothers
  · obtain ⟨b, hb, hname, context, ho⟩ := hdeferred o ho
    rw [IsOther, (h.reportedBy hb ho).1, hname]
    exact ⟨by decide, by decide⟩

end Offenses

/-! ## The groups of a pass -/

section Groups

variable {l : Linter}

theorem Lineup.rule?_blank (p : l.Lineup) : l.rule? blankLinesName = some p.blank := by
  rw [rule?, p.rules_eq, List.find?_cons_of_pos (by rw [p.blank_name]; decide)]

theorem Lineup.rule?_last (p : l.Lineup) : l.rule? endOfFileName = some p.last := by
  rw [rule?, p.rules_eq, List.find?_cons_of_neg (by rw [p.blank_name]; decide),
    List.find?_cons_of_pos (by rw [p.last_name]; decide)]

/-- Only the rules about newlines have fixers. -/
theorem fixer_eq_none_of_mem_builtins {r : Rule} (h : r ∈ Rule.builtins)
    (hname : r.name ≠ blankLinesName ∧ r.name ≠ endOfFileName) : r.fixer = none := by
  simp only [Rule.builtins, List.mem_cons, List.not_mem_nil, or_false] at h
  rcases h with rfl | rfl | rfl | rfl | rfl | rfl | rfl | rfl | rfl | rfl
  · exact absurd rfl hname.1
  · exact absurd rfl hname.2
  all_goals rfl

theorem RunsBuiltins.fixable?_of_isOther (h : l.RunsBuiltins) {o : Offense} (ho : IsOther o) :
    l.fixable? o = none := by
  rcases hrule : l.rule? o.rule with _ | b
  · rw [fixable?, hrule]
    rfl
  · have hb : b ∈ l.rules := List.mem_of_find?_eq_some hrule
    have hname : b.name = o.rule := by simpa using List.find?_some hrule
    have hfixer : b.rule.fixer = none :=
      fixer_eq_none_of_mem_builtins (h.mem hb) (by rw [← BoundRule.name, hname]; exact ho)
    rw [fixable?, hrule, Option.filter_some, if_neg]
    rw [Rule.isAutocorrectable, hfixer]
    exact Bool.false_ne_true

theorem Lineup.isSome_fixable? (p : l.Lineup) {o : Offense}
    (ho : o.rule = blankLinesName ∨ o.rule = endOfFileName) : (l.fixable? o).isSome := by
  rcases ho with ho | ho
  · rw [fixable?, ho, p.rule?_blank, Option.filter_some, p.blank_rule]
    rfl
  · rw [fixable?, ho, p.rule?_last, Option.filter_some, p.last_rule]
    rfl

/-- The group of a rule with some offenses, if there are any. -/
def groupOf (b : BoundRule) (offenses : List Offense) : List FixGroup :=
  if offenses = [] then [] else [⟨b, offenses⟩]

variable {first second rest : List Offense}

theorem fixableNames_eq (h : l.RunsBuiltins) (p : l.Lineup)
    (hfirst : ∀ o ∈ first, o.rule = blankLinesName) (hsecond : ∀ o ∈ second, o.rule = endOfFileName)
    (hrest : ∀ o ∈ rest, IsOther o) :
    (((first ++ (second ++ rest)).filter fun o => (l.fixable? o).isSome).map (·.rule)).eraseDups =
      (if first = [] then [] else [blankLinesName]) ++
        (if second = [] then [] else [endOfFileName]) := by
  have hkeep₁ : first.filter (fun o => (l.fixable? o).isSome) = first :=
    List.filter_eq_self.2 fun o ho => p.isSome_fixable? (.inl (hfirst o ho))
  have hkeep₂ : second.filter (fun o => (l.fixable? o).isSome) = second :=
    List.filter_eq_self.2 fun o ho => p.isSome_fixable? (.inr (hsecond o ho))
  have hdrop : rest.filter (fun o => (l.fixable? o).isSome) = [] := by
    rw [List.filter_eq_nil_iff]
    intro o ho
    rw [h.fixable?_of_isOther (hrest o ho)]
    exact Bool.false_ne_true
  have hnames₁ : first.map (·.rule) = List.replicate first.length blankLinesName :=
    List.map_eq_replicate_iff.2 hfirst
  have hnames₂ : second.map (·.rule) = List.replicate second.length endOfFileName :=
    List.map_eq_replicate_iff.2 hsecond
  rw [List.filter_append, List.filter_append, hkeep₁, hkeep₂, hdrop, List.append_nil,
    List.map_append, hnames₁, hnames₂]
  have hother : (endOfFileName == blankLinesName) = false := by decide
  rcases first with _ | ⟨a, first⟩ <;> rcases second with _ | ⟨b, second⟩ <;>
    simp [List.replicate_succ, List.eraseDups_cons, List.filter_append, hother]

theorem filter_rule_eq_self {name : String} {offenses : List Offense}
    (h : ∀ o ∈ offenses, o.rule = name) : offenses.filter (fun o => o.rule == name) = offenses :=
  List.filter_eq_self.2 fun o ho => beq_iff_eq.2 (h o ho)

theorem filter_rule_eq_nil {name : String} {offenses : List Offense}
    (h : ∀ o ∈ offenses, o.rule ≠ name) : offenses.filter (fun o => o.rule == name) = [] :=
  List.filter_eq_nil_iff.2 fun o ho hname => h o ho (beq_iff_eq.1 hname)

/-- **The groups of a pass** are those of the two rules about newlines. -/
theorem RunsBuiltins.fixGroups_eq (h : l.RunsBuiltins) (p : l.Lineup)
    (hfirst : ∀ o ∈ first, o.rule = blankLinesName) (hsecond : ∀ o ∈ second, o.rule = endOfFileName)
    (hrest : ∀ o ∈ rest, IsOther o) :
    l.fixGroups (first ++ (second ++ rest)) = groupOf p.blank first ++ groupOf p.last second := by
  have htake₁ : (first ++ (second ++ rest)).filter (fun o => o.rule == blankLinesName) = first := by
    rw [List.filter_append, List.filter_append, filter_rule_eq_self hfirst,
      filter_rule_eq_nil fun o ho => by rw [hsecond o ho]; decide,
      filter_rule_eq_nil fun o ho => (hrest o ho).1, List.append_nil, List.append_nil]
  have htake₂ : (first ++ (second ++ rest)).filter (fun o => o.rule == endOfFileName) = second := by
    rw [List.filter_append, List.filter_append, filter_rule_eq_self hsecond,
      filter_rule_eq_nil fun o ho => by rw [hfirst o ho]; decide,
      filter_rule_eq_nil fun o ho => (hrest o ho).2, List.append_nil, List.nil_append]
  rw [fixGroups, fixableNames_eq h p hfirst hsecond hrest, List.filterMap_append]
  congr 1
  · rw [groupOf]
    split
    · rfl
    · simp only [List.filterMap_cons, List.filterMap_nil, p.rule?_blank, Option.map_some, htake₁]
  · rw [groupOf]
    split
    · rfl
    · simp only [List.filterMap_cons, List.filterMap_nil, p.rule?_last, Option.map_some, htake₂]

/-! ## The pass -/

theorem fixGroup_nil {α : Type} {give : α → RuleInput} {take : Replacement → Option α}
    {context : Context} (b : BoundRule) (s : FixState α) :
    fixGroup give take context s ⟨b, []⟩ = s := by
  rw [fixGroup, bottomUp, List.mergeSort_nil]
  rfl

theorem fixGroup_singleton {α : Type} {give : α → RuleInput} {take : Replacement → Option α}
    {context : Context} (b : BoundRule) (o : Offense) (s : FixState α) :
    fixGroup give take context s ⟨b, [o]⟩ = fixOne give take context b s o := by
  rw [fixGroup, bottomUp, List.mergeSort_singleton]
  rfl

theorem foldl_groupOf {α : Type} {give : α → RuleInput} {take : Replacement → Option α}
    {context : Context} (b : BoundRule) (offenses : List Offense) (s : FixState α) :
    (groupOf b offenses).foldl (fixGroup give take context) s =
      fixGroup give take context s ⟨b, offenses⟩ := by
  rw [groupOf]
  split
  · rename_i hnone
    rw [hnone, fixGroup_nil]
    rfl
  · rfl

theorem kind_of_mem_groupOf (p : l.Lineup) {g : FixGroup}
    (hg : g ∈ groupOf p.blank first ++ groupOf p.last second) : g.bound.rule.kind = .source := by
  have hbound : g.bound = p.blank ∨ g.bound = p.last := by
    rcases List.mem_append.1 hg with hg | hg <;> rw [groupOf] at hg <;> split at hg
    · cases hg
    · exact .inl (congrArg FixGroup.bound (List.mem_singleton.1 hg))
    · cases hg
    · exact .inr (congrArg FixGroup.bound (List.mem_singleton.1 hg))
  rcases hbound with hbound | hbound
  · rw [hbound, p.blank_rule]
    rfl
  · rw [hbound, p.last_rule]
    rfl

/-- No rule on documents has a fixer. -/
theorem fixedDocument_eq (p : l.Lineup) (d : Document) (context : Context) {result : LintResult}
    (hgroups : l.fixGroups result.offenses = groupOf p.blank first ++ groupOf p.last second) :
    ∃ unfixed log, l.fixedDocument d context result = ⟨d, [], unfixed, log⟩ := by
  have hnone : (l.fixGroups result.offenses).filter
      (fun g => g.bound.rule.kind = .parser) = [] := by
    rw [List.filter_eq_nil_iff, hgroups]
    intro g hg
    rw [kind_of_mem_groupOf p hg]
    decide
  rw [fixedDocument, fixDocument, hnone]
  split
  · exact ⟨_, _, rfl⟩
  · exact ⟨_, _, rfl⟩

/-- The rules on plain source run over the two groups. -/
theorem fixText_eq (p : l.Lineup) (context : Context) (s : FixState Text) :
    fixText context (groupOf p.blank first ++ groupOf p.last second) s =
      fixGroup .text takeText context (fixGroup .text takeText context s ⟨p.blank, first⟩)
        ⟨p.last, second⟩ := by
  have hall : (groupOf p.blank first ++ groupOf p.last second).filter
      (fun g => g.bound.rule.kind = .source) = groupOf p.blank first ++ groupOf p.last second :=
    List.filter_eq_self.2 fun g hg => decide_eq_true (kind_of_mem_groupOf p hg)
  rw [fixText, hall, List.foldl_append, foldl_groupOf, foldl_groupOf]

/-- **A pass hands the offenses about newlines to their fixers**, blank lines
first, and does nothing else. It does not break off where linting does
not. -/
theorem RunsBuiltins.autofix_eq (h : l.RunsBuiltins) (p : l.Lineup) {d : Document}
    {fileName : Option String} {disabled : List String}
    (hlint : (l.lint d fileName disabled).offenses = first ++ (second ++ rest))
    (hfirst : ∀ o ∈ first, o.rule = blankLinesName) (hsecond : ∀ o ∈ second, o.rule = endOfFileName)
    (hrest : ∀ o ∈ rest, IsOther o) :
    ∃ s : FixState Text, s.input = d.source ∧ s.fixed = [] ∧
      let fix := fixGroup .text takeText (l.context fileName disabled)
      let result := l.autofix d fileName disabled
      result.source = (fix (fix s ⟨p.blank, first⟩) ⟨p.last, second⟩).input ∧
      result.fixed = (fix (fix s ⟨p.blank, first⟩) ⟨p.last, second⟩).fixed ∧
      (l.lint? d fileName disabled = .ok (l.lint d fileName disabled) →
        l.autofix? d fileName disabled = .ok result) := by
  have hgroups := h.fixGroups_eq p hfirst hsecond hrest
  rw [← hlint] at hgroups
  -- A pass over a document without offenses stops before it groups anything.
  by_cases hempty : (l.lint d fileName disabled).offenses.isEmpty
  · rw [List.isEmpty_iff.1 hempty, eq_comm, List.append_eq_nil_iff, List.append_eq_nil_iff] at hlint
    obtain ⟨rfl, rfl, rfl⟩ := hlint
    have hresult : l.autofix d fileName disabled =
        { source := d.source, log := (l.lint d fileName disabled).log } := by
      simp only [autofix]
      rw [if_pos hempty]
    refine ⟨⟨d.source, [], [], []⟩, rfl, rfl, ?_⟩
    simp only [hresult, fixGroup_nil, true_and]
    intro hok
    simp only [autofix?, hok, bind, Except.bind]
    rw [if_pos hempty]
    rfl
  · obtain ⟨unfixed, log, hdocument⟩ :=
      fixedDocument_eq p d (l.context fileName disabled) hgroups
    have hprinted := printed?_of_fixed_eq_nil (l := l) (s := ⟨d, [], unfixed, log⟩) rfl
    have hresult : l.autofix d fileName disabled = l.finish (l.context fileName disabled)
        (l.lint d fileName disabled) ⟨d, [], unfixed, log⟩ d.source := by
      simp only [autofix]
      rw [if_neg hempty, hdocument, printed, hprinted]
      rfl
    have hkinds : ¬ (l.fixGroups (l.lint d fileName disabled).offenses).any
        fun g => g.bound.rule.kind = .missing := by
      rw [hgroups, List.any_eq_true]
      rintro ⟨g, hg, hmissing⟩
      rw [kind_of_mem_groupOf p hg] at hmissing
      exact absurd hmissing (by decide)
    refine ⟨⟨d.source, [], unfixed, log⟩, rfl, rfl, ?_, ?_, fun hok => ?_⟩
    · rw [hresult, finish, hgroups, fixText_eq]
    · rw [hresult, finish, hgroups, fixText_eq]
    · simp only [autofix?, hok, bind, Except.bind]
      rw [if_neg hempty, if_neg hkinds, hdocument, hprinted, hresult]
      rfl

theorem RunsBuiltins.rule_of_mem_kept (h : l.RunsBuiltins) {d : Document} {context : Context}
    {b : BoundRule} (hb : b ∈ l.rules) {o : Offense} (ho : o ∈ kept l d context b) :
    o.rule = b.name := by
  rw [kept] at ho
  split at ho
  · exact (h.reportedBy hb (List.mem_filter.1 ho).1).1
  · cases ho

/-- The pass over a document that is not excluded: each fixer is handed what is
left to its rule. -/
theorem RunsBuiltins.autofix_kept (h : l.RunsBuiltins) (p : l.Lineup) {d : Document}
    (fileName : Option String) (disabled : List String) (included : ¬ isExcluded d) :
    ∃ s : FixState Text, s.input = d.source ∧
      let context := l.context fileName disabled
      let fix := fixGroup .text takeText context
      (l.autofix d fileName disabled).source =
        (fix (fix s ⟨p.blank, kept l d context p.blank⟩) ⟨p.last, kept l d context p.last⟩).input ∧
      (l.lint? d fileName disabled = .ok (l.lint d fileName disabled) →
        l.autofix? d fileName disabled = .ok (l.autofix d fileName disabled)) := by
  obtain ⟨rest, hlint, hrest⟩ := h.offenses_lint p included
  have hblank : p.blank ∈ l.rules := by
    rw [p.rules_eq]
    exact .head _
  have hlast : p.last ∈ l.rules := by
    rw [p.rules_eq]
    exact .tail _ (.head _)
  obtain ⟨s, hinput, -, hsource, -, hok⟩ := h.autofix_eq p hlint
    (fun o ho => (h.rule_of_mem_kept hblank ho).trans p.blank_name)
    (fun o ho => (h.rule_of_mem_kept hlast ho).trans p.last_name) hrest
  exact ⟨s, hinput, hsource, hok⟩

end Groups

end Linter

end TemplateLint
