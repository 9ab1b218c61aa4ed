import Mathlib.Data.List.Perm.Basic
import TemplateLint.Proofs.Fixing
/-!
# Calls — a pass, fixer by fixer

A pass hands every offense to the fixer of its rule, if that has one, and
takes what the fixer gives back if it is of the right kind. Here the pass is
given by the calls it makes (`Linter.calls`): the source is what is left of
the input after one call and the next, and every offense is either fixed or
left, once (`Linter.autofix_accounts`). Nothing is asked of the fixers.
-/

namespace TemplateLint

/-- A call of the fixer of a rule, for an offense. -/
structure FixCall where
  bound : BoundRule
  offense : Offense

/-- A phase of fixing: what a fixer is handed, and what is taken of the things
it gives back. Where it gives back nothing, nothing is taken. -/
structure Phase (α : Type) where
  give : α → RuleInput
  take : Replacement → Option α
  take_nothing : take .nothing = none

namespace Phase

/-- The phase of the rules on documents. -/
def onDocument : Phase Document :=
  ⟨.document, Linter.takeDocument, rfl⟩

/-- The phase of the rules on plain source. -/
def onText : Phase Text :=
  ⟨.text, Linter.takeText, rfl⟩

variable {α : Type} (p : Phase α) (context : Context)

/-! ## Calls, one after the other -/

/-- What a call puts in the place of an input. There is none if the fixer
crashes, or gives back anything of the wrong kind. -/
def answer? (input : α) (c : FixCall) : Option α :=
  match c.bound.rule.fixer with
  | none => none
  | some fixer =>
    match fixer c.offense (p.give input) context with
    | .ok replacement => p.take replacement
    | .error _ => none

/-- What is logged of a call. -/
def logOf (input : α) (c : FixCall) : Log :=
  (Linter.callFixer c.bound c.offense (p.give input) context).2

/-- What calls make of an input, one after the other. A call without an answer
leaves it exactly as it was. -/
def applied (input : α) (calls : List FixCall) : α :=
  calls.foldl (fun input c => (p.answer? context input c).getD input) input

/-- The offenses that calls fix: those of the calls with an answer. -/
def fixedBy : α → List FixCall → List Offense
  | _, [] => []
  | input, c :: calls =>
    match p.answer? context input c with
    | some input' => c.offense :: fixedBy input' calls
    | none => fixedBy input calls

/-- The offenses that calls leave. -/
def leftBy : α → List FixCall → List Offense
  | _, [] => []
  | input, c :: calls =>
    match p.answer? context input c with
    | some input' => leftBy input' calls
    | none => c.offense :: leftBy input calls

/-- What is logged of calls. -/
def loggedBy : α → List FixCall → Log
  | _, [] => []
  | input, c :: calls =>
    p.logOf context input c ++ loggedBy ((p.answer? context input c).getD input) calls

/-- **Every call fixes its offense or leaves it.** -/
theorem fixedBy_append_leftBy_perm (input : α) (calls : List FixCall) :
    (p.fixedBy context input calls ++ p.leftBy context input calls).Perm
      (calls.map FixCall.offense) := by
  induction calls generalizing input with
  | nil => exact .nil
  | cons c calls ih =>
    rw [fixedBy, leftBy, List.map_cons]
    rcases p.answer? context input c with _ | input'
    · exact List.perm_middle.trans ((ih input).cons _)
    · exact (ih input').cons _

theorem take_callFixer (input : α) (c : FixCall) :
    p.take (Linter.callFixer c.bound c.offense (p.give input) context).1 =
      p.answer? context input c := by
  rw [Linter.callFixer, answer?]
  rcases c.bound.rule.fixer with _ | fixer
  · exact p.take_nothing
  · dsimp only
    rcases fixer c.offense (p.give input) context with crash | replacement
    · exact p.take_nothing
    · rfl

/-- A state of fixing after some calls. -/
def after (s : Linter.FixState α) (calls : List FixCall) : Linter.FixState α where
  input := p.applied context s.input calls
  fixed := s.fixed ++ p.fixedBy context s.input calls
  unfixed := s.unfixed ++ p.leftBy context s.input calls
  log := s.log ++ p.loggedBy context s.input calls

/-- **One offense handed to a fixer is one call.** -/
theorem fixOne_eq (s : Linter.FixState α) (c : FixCall) :
    Linter.fixOne p.give p.take context c.bound s c.offense = p.after context s [c] := by
  simp only [Linter.fixOne, take_callFixer, after, applied, fixedBy, leftBy, loggedBy, logOf,
    List.foldl_cons, List.foldl_nil, List.append_nil]
  rcases p.answer? context s.input c with _ | input
  · simp
  · simp

theorem after_cons (s : Linter.FixState α) (c : FixCall) (calls : List FixCall) :
    p.after context s (c :: calls) = p.after context (p.after context s [c]) calls := by
  simp only [after, applied, fixedBy, leftBy, loggedBy, List.foldl_cons, List.foldl_nil,
    List.append_nil]
  rcases p.answer? context s.input c with _ | input
  · simp
  · simp

theorem foldl_after (s : Linter.FixState α) (calls : List FixCall) :
    calls.foldl (fun s c => p.after context s [c]) s = p.after context s calls := by
  induction calls generalizing s with
  | nil => simp [after, applied, fixedBy, leftBy, loggedBy]
  | cons c calls ih => rw [List.foldl_cons, ih, ← after_cons]

/-- The calls of the fixer of a group, the one for the last offense first. -/
def callsOf (g : Linter.FixGroup) : List FixCall :=
  (Linter.bottomUp g.offenses).map (FixCall.mk g.bound)

/-- **The groups of a phase, call by call.** -/
theorem foldl_fixGroup_eq (s : Linter.FixState α) (groups : List Linter.FixGroup) :
    groups.foldl (Linter.fixGroup p.give p.take context) s =
      p.after context s (groups.flatMap callsOf) := by
  rw [← foldl_after, List.foldl_flatMap]
  congr 1
  funext s g
  rw [callsOf, List.foldl_map, Linter.fixGroup]
  congr 1
  funext s o
  exact p.fixOne_eq context s ⟨g.bound, o⟩

end Phase

/-! ## Lists by key -/

theorem nodup_eraseDups {α : Type} [DecidableEq α] (keys : List α) : keys.eraseDups.Nodup := by
  induction hn : keys.length using Nat.strongRecOn generalizing keys with
  | ind n ih =>
    cases keys with
    | nil => exact List.nodup_nil
    | cons key keys =>
      rw [List.eraseDups_cons, List.nodup_cons]
      refine ⟨by simp, ih _ ?_ _ rfl⟩
      have hle := List.length_filter_le (fun k => !k == key) keys
      rw [List.length_cons] at hn
      omega

/-- **Grouping loses nothing.** The groups of distinct keys hold what has one of
these keys. -/
theorem flatMap_filter_perm {α β : Type} [DecidableEq β] (key : α → β) (items : List α)
    {keys : List β} (hkeys : keys.Nodup) :
    (keys.flatMap fun k => items.filter fun a => key a == k).Perm
      (items.filter fun a => decide (key a ∈ keys)) := by
  induction keys with
  | nil => simp
  | cons k keys ih =>
    obtain ⟨hfresh, hkeys⟩ := List.nodup_cons.1 hkeys
    have hsplit := List.filter_append_perm (fun a => key a == k)
      (items.filter fun a => decide (key a ∈ k :: keys))
    rw [List.filter_filter, List.filter_filter] at hsplit
    rw [List.flatMap_cons]
    refine (List.Perm.append (.of_eq (List.filter_congr fun a _ => ?_))
      ((ih hkeys).trans (.of_eq (List.filter_congr fun a _ => ?_)))).trans hsplit
    · grind
    · grind

namespace Linter

variable {l : Linter} {offenses : List Offense}

/-! ## The calls of a pass -/

/-- The calls of the fixers of the rules of a kind, rule by rule. -/
def calls (l : Linter) (kind : RuleKind) (offenses : List Offense) : List FixCall :=
  ((l.fixGroups offenses).filter fun g => g.bound.rule.kind = kind).flatMap Phase.callsOf

/-- The calls of the fixers of the rules on documents. Without a printer there
are none. -/
def documentCalls (l : Linter) (offenses : List Offense) : List FixCall :=
  if l.print.isNone then [] else l.calls .parser offenses

/-- The calls of the fixers of the rules on plain source. -/
def textCalls (l : Linter) (offenses : List Offense) : List FixCall :=
  l.calls .source offenses

/-- The offenses that rules of a kind have a fixer for. -/
def fixableBy (l : Linter) (kind : RuleKind) (offenses : List Offense) : List Offense :=
  offenses.filter fun o => (l.fixable? o).any fun b => b.rule.kind = kind

/-- The offenses with a fixer that no phase calls: that of a rule that looks
neither at documents nor at plain source. -/
def overlooked (l : Linter) (offenses : List Offense) : List Offense :=
  offenses.filter fun o => (l.fixable? o).any fun b =>
    b.rule.kind ≠ .parser ∧ b.rule.kind ≠ .source

theorem name_of_rule? {name : String} {b : BoundRule} (h : l.rule? name = some b) :
    b.name = name := by
  have hname := List.find?_some h
  exact eq_of_beq hname

/-- An offense in a group is of the rule of the group, which has a fixer. -/
theorem fixable?_of_mem_fixGroups {g : FixGroup} (hg : g ∈ l.fixGroups offenses) {o : Offense}
    (ho : o ∈ g.offenses) : o ∈ offenses ∧ l.fixable? o = some g.bound := by
  simp only [fixGroups, List.mem_filterMap, List.mem_eraseDups, List.mem_map, List.mem_filter,
    Option.map_eq_some_iff] at hg
  obtain ⟨_, ⟨first, ⟨-, hfirst⟩, rfl⟩, b, hrule, rfl⟩ := hg
  obtain ⟨hmem, hname⟩ := List.mem_filter.1 ho
  obtain ⟨b', hfixable⟩ := Option.isSome_iff_exists.1 hfirst
  obtain rfl : b = b' := by
    rw [fixable?, hrule] at hfixable
    exact Option.some.inj (Option.filter_eq_some_iff.1 hfixable).1
  refine ⟨hmem, ?_⟩
  rw [fixable?, eq_of_beq hname]
  exact hfixable

theorem bound_mem_of_mem_fixGroups {g : FixGroup} (hg : g ∈ l.fixGroups offenses) :
    g.bound ∈ l.rules := by
  obtain ⟨name, -, hg⟩ := List.mem_filterMap.1 hg
  obtain ⟨b, hrule, rfl⟩ := Option.map_eq_some_iff.1 hg
  exact List.mem_of_find?_eq_some hrule

/-- Groups of rules by name, of which those of a kind are picked. -/
theorem flatMap_groups (l : Linter) (kind : RuleKind) (group : String → List Offense)
    (names : List String) :
    ((names.filterMap fun name => (l.rule? name).map fun b => FixGroup.mk b (group name)).filter
        fun g => g.bound.rule.kind = kind).flatMap FixGroup.offenses =
      (names.filter fun name => (l.rule? name).any fun b => b.rule.kind = kind).flatMap group := by
  induction names with
  | nil => rfl
  | cons name names ih =>
    rcases hrule : l.rule? name with _ | b
    · simp [hrule, ih]
    · by_cases hkind : b.rule.kind = kind
      · simp [hrule, hkind, ih]
      · simp [hrule, hkind, ih]

/-- **The groups of a kind hold its offenses.** -/
theorem flatMap_fixGroups_perm (l : Linter) (kind : RuleKind) (offenses : List Offense) :
    (((l.fixGroups offenses).filter fun g => g.bound.rule.kind = kind).flatMap
      FixGroup.offenses).Perm (l.fixableBy kind offenses) := by
  rw [fixGroups, flatMap_groups]
  refine (flatMap_filter_perm Offense.rule offenses
    ((nodup_eraseDups _).filter _)).trans (.of_eq (List.filter_congr fun o ho => ?_))
  rw [Bool.eq_iff_iff, decide_eq_true_iff, List.mem_filter, List.mem_eraseDups, List.mem_map]
  constructor
  · rintro ⟨⟨other, hother, hname⟩, hkind⟩
    obtain ⟨b, hb⟩ := Option.isSome_iff_exists.1 (List.mem_filter.1 hother).2
    rw [fixable?, hname] at hb
    rw [(Option.filter_eq_some_iff.1 hb).1] at hkind
    rw [fixable?, hb]
    exact hkind
  · intro hkind
    obtain ⟨b, hb, hkind⟩ := (Option.any_eq_true _ _).1 hkind
    refine ⟨⟨o, List.mem_filter.2 ⟨ho, Option.isSome_iff_exists.2 ⟨b, hb⟩⟩, rfl⟩, ?_⟩
    rw [fixable?] at hb
    rw [(Option.filter_eq_some_iff.1 hb).1]
    exact hkind

/-- **The calls of a kind are for its offenses**, one for each. -/
theorem calls_perm (l : Linter) (kind : RuleKind) (offenses : List Offense) :
    ((l.calls kind offenses).map FixCall.offense).Perm (l.fixableBy kind offenses) := by
  refine List.Perm.trans ?_ (flatMap_fixGroups_perm l kind offenses)
  rw [calls, List.map_flatMap]
  refine List.Perm.flatMap_left _ fun g _ => ?_
  rw [Phase.callsOf, List.map_map]
  exact (List.Perm.of_eq (List.map_id' _)).trans (List.mergeSort_perm _ _)

theorem fixable?_of_mem_calls {kind : RuleKind} {c : FixCall} (hc : c ∈ l.calls kind offenses) :
    c.offense ∈ offenses ∧ l.fixable? c.offense = some c.bound ∧ c.bound.rule.kind = kind := by
  obtain ⟨g, hg, hc⟩ := List.mem_flatMap.1 hc
  obtain ⟨hg, hkind⟩ := List.mem_filter.1 hg
  obtain ⟨o, ho, rfl⟩ := List.mem_map.1 hc
  obtain ⟨hmem, hfixable⟩ := fixable?_of_mem_fixGroups hg (List.mem_mergeSort.1 ho)
  exact ⟨hmem, hfixable, of_decide_eq_true hkind⟩

/-- Rule by rule, the call for the offense that starts last comes first. -/
theorem pairwise_calls (l : Linter) (kind : RuleKind) (offenses : List Offense) :
    (l.calls kind offenses).Pairwise fun c c' =>
      c.bound.name = c'.bound.name → c'.offense.start ≤ c.offense.start := by
  -- Groups are of different rules.
  have hnames : (l.fixGroups offenses).Pairwise fun g g' => g.bound.name ≠ g'.bound.name := by
    refine List.Pairwise.filterMap _ (fun name name' hne g hg g' hg' heq => hne ?_)
      (nodup_eraseDups _)
    obtain ⟨b, hb, rfl⟩ := Option.map_eq_some_iff.1 hg
    obtain ⟨b', hb', rfl⟩ := Option.map_eq_some_iff.1 hg'
    exact (name_of_rule? hb).symm.trans (heq.trans (name_of_rule? hb'))
  refine List.pairwise_flatMap.2
    ⟨fun g _ => ?_, (hnames.filter _).imp fun hne c hc c' hc' heq => ?_⟩
  · refine List.pairwise_map.2 ((pairwise_bottomUp g.offenses).imp fun hle _ => ?_)
    exact of_decide_eq_true hle
  · obtain ⟨o, -, rfl⟩ := List.mem_map.1 hc
    obtain ⟨o', -, rfl⟩ := List.mem_map.1 hc'
    exact absurd heq hne

/-- **Every offense has a fixer of one kind, or none, or is overlooked.** -/
theorem perm_overlooked (l : Linter) (offenses : List Offense) :
    ((offenses.filter fun o => (l.fixable? o).isNone) ++
      (l.fixableBy .parser offenses ++ (l.fixableBy .source offenses ++
        l.overlooked offenses))).Perm offenses := by
  have hrest := List.filter_append_perm (fun o => (l.fixable? o).isNone) offenses
  have hparser := List.filter_append_perm
    (fun o => (l.fixable? o).any fun b => b.rule.kind = .parser)
    (offenses.filter fun o => !(l.fixable? o).isNone)
  have hsource := List.filter_append_perm
    (fun o => (l.fixable? o).any fun b => b.rule.kind = .source)
    ((offenses.filter fun o => !(l.fixable? o).isNone).filter fun o =>
      !(l.fixable? o).any fun b => b.rule.kind = .parser)
  refine (List.Perm.append_left _ (.trans (List.Perm.append (.of_eq ?_)
    (.trans (List.Perm.append (.of_eq ?_) (.of_eq ?_)) hsource)) hparser)).trans hrest
  all_goals
    simp only [fixableBy, overlooked, List.filter_filter]
    refine List.filter_congr fun o _ => ?_
    rcases l.fixable? o with _ | b
    · rfl
    · cases hkind : b.rule.kind <;> simp [hkind]

theorem overlooked_eq_nil (hkinds : ∀ b ∈ l.rules, b.rule.kind = .parser ∨ b.rule.kind = .source)
    (offenses : List Offense) : l.overlooked offenses = [] := by
  refine List.filter_eq_nil_iff.2 fun o _ hany => ?_
  obtain ⟨b, hfixable, hkind⟩ := (Option.any_eq_true _ _).1 hany
  have hmem : b ∈ l.rules := List.mem_of_find?_eq_some (Option.filter_eq_some_iff.1 hfixable).1
  obtain ⟨hparser, hsource⟩ := of_decide_eq_true hkind
  exact (hkinds b hmem).elim hparser hsource

/-- Where every rule looks at documents or at plain source, nothing is
overlooked. -/
theorem perm_of_kinds (hkinds : ∀ b ∈ l.rules, b.rule.kind = .parser ∨ b.rule.kind = .source)
    (offenses : List Offense) :
    ((offenses.filter fun o => (l.fixable? o).isNone) ++
      (l.fixableBy .parser offenses ++ l.fixableBy .source offenses)).Perm offenses := by
  have hperm := perm_overlooked l offenses
  rwa [overlooked_eq_nil hkinds, List.append_nil] at hperm

/-! ## A pass, call by call -/

/-- **The phase of the rules on documents**, call by call. -/
theorem fixedDocument_calls (l : Linter) (d : Document) (context : Context) (linted : LintResult) :
    ∃ left, l.fixedDocument d context linted =
        ⟨Phase.onDocument.applied context d (l.documentCalls linted.offenses),
          Phase.onDocument.fixedBy context d (l.documentCalls linted.offenses), left,
          linted.log ++
            Phase.onDocument.loggedBy context d (l.documentCalls linted.offenses)⟩ ∧
      (Phase.onDocument.fixedBy context d (l.documentCalls linted.offenses) ++ left).Perm
        ((linted.offenses.filter fun o => (l.fixable? o).isNone) ++
          l.fixableBy .parser linted.offenses) := by
  rcases hprint : l.print with _ | print
  · have hnone : l.documentCalls linted.offenses = [] := by
      rw [documentCalls, hprint]
      rfl
    refine ⟨(linted.offenses.filter fun o => (l.fixable? o).isNone) ++
      ((l.fixGroups linted.offenses).filter fun g => g.bound.rule.kind = .parser).flatMap
        FixGroup.offenses, ?_, ?_⟩
    · rw [hnone, fixedDocument, fixDocument, if_pos (by rw [hprint]; rfl), Phase.loggedBy,
        List.append_nil]
      rfl
    · rw [hnone, Phase.fixedBy, List.nil_append]
      exact List.Perm.append_left _ (flatMap_fixGroups_perm l .parser linted.offenses)
  · have hsome : l.documentCalls linted.offenses = l.calls .parser linted.offenses := by
      rw [documentCalls, hprint]
      rfl
    have hphase := Phase.onDocument.foldl_fixGroup_eq context
      ⟨d, [], linted.offenses.filter fun o => (l.fixable? o).isNone, linted.log⟩
      ((l.fixGroups linted.offenses).filter fun g => g.bound.rule.kind = .parser)
    refine ⟨(linted.offenses.filter fun o => (l.fixable? o).isNone) ++
      Phase.onDocument.leftBy context d (l.calls .parser linted.offenses), ?_, ?_⟩
    · rw [hsome, fixedDocument, fixDocument, if_neg (by rw [hprint]; exact Bool.false_ne_true)]
      exact hphase
    · rw [hsome]
      have hcalls := (Phase.onDocument.fixedBy_append_leftBy_perm context d
        (l.calls .parser linted.offenses)).trans (calls_perm l .parser linted.offenses)
      refine List.perm_append_comm.trans ?_
      rw [List.append_assoc]
      exact List.Perm.append_left _ (List.perm_append_comm.trans hcalls)

/-- **The phase of the rules on plain source**, call by call. -/
theorem finish_calls (l : Linter) (context : Context) (linted : LintResult)
    (parsed : FixState Document) (source : Text) :
    l.finish context linted parsed source =
      ⟨Phase.onText.applied context source (l.textCalls linted.offenses),
        parsed.fixed ++ Phase.onText.fixedBy context source (l.textCalls linted.offenses),
        parsed.unfixed ++ Phase.onText.leftBy context source (l.textCalls linted.offenses),
        parsed.log ++ Phase.onText.loggedBy context source (l.textCalls linted.offenses)⟩ := by
  have hphase := Phase.onText.foldl_fixGroup_eq context
    ⟨source, parsed.fixed, parsed.unfixed, parsed.log⟩
    ((l.fixGroups linted.offenses).filter fun g => g.bound.rule.kind = .source)
  rw [finish]
  simp only [fixText]
  exact congrArg (fun s => AutofixResult.mk s.input s.fixed s.unfixed s.log) hphase

/-- **Every offense is fixed, left or overlooked**, whatever source stands between
the phases. -/
theorem perm_finish (l : Linter) (d : Document) (context : Context) (linted : LintResult)
    (source : Text) :
    let result := l.finish context linted (l.fixedDocument d context linted) source
    (result.fixed ++ (result.unfixed ++ l.overlooked linted.offenses)).Perm linted.offenses := by
  obtain ⟨left, hparsed, hleft⟩ := fixedDocument_calls l d context linted
  have htext := (Phase.onText.fixedBy_append_leftBy_perm context source
    (l.textCalls linted.offenses)).trans (calls_perm l .source linted.offenses)
  have hparts := (hleft.append htext).append_right (l.overlooked linted.offenses)
  have hall := perm_overlooked l linted.offenses
  rw [finish_calls, hparsed]
  simp only [List.append_assoc] at hparts ⊢
  exact ((List.perm_append_comm_assoc _ _ _).append_left _).trans (hparts.trans hall)

/-- **What the calls of a kind of rules are**: one for each offense that such a
rule has a fixer for, to that fixer, and for no other offense. Within a rule
the offense that starts last comes first. -/
structure Calling (l : Linter) (kind : RuleKind) (offenses : List Offense)
    (calls : List FixCall) : Prop where
  perm : (calls.map FixCall.offense).Perm (l.fixableBy kind offenses)
  bound : ∀ c ∈ calls, c.offense ∈ offenses ∧ l.fixable? c.offense = some c.bound ∧
    c.bound.rule.kind = kind
  bottomUp : calls.Pairwise fun c c' =>
    c.bound.name = c'.bound.name → c'.offense.start ≤ c.offense.start

theorem calling_calls (l : Linter) (kind : RuleKind) (offenses : List Offense) :
    l.Calling kind offenses (l.calls kind offenses) :=
  ⟨calls_perm l kind offenses, fun _ hc => fixable?_of_mem_calls hc,
    pairwise_calls l kind offenses⟩

/-- Without offenses there is nothing to call a fixer for. -/
theorem calls_nil (l : Linter) (kind : RuleKind) : l.calls kind [] = [] :=
  List.map_eq_nil_iff.1 (List.perm_nil.1 (calls_perm l kind []))

/-- **The source between the phases** is what comes of the calls of the rules on
documents, printed if one of them fixed something. -/
theorem exists_printed? {s : FixState Document}
    (hprint : ∀ print, l.print = some print → ∀ d, ∃ source, print d = .ok source)
    (hprinter : s.fixed ≠ [] → l.print.isSome) :
    ∃ source, l.printed? s = .ok source ∧ (s.fixed = [] → source = s.input.source) ∧
      (s.fixed ≠ [] → ∃ print, l.print = some print ∧ print s.input = .ok source) := by
  by_cases hfixed : s.fixed = []
  · exact ⟨_, printed?_of_fixed_eq_nil hfixed, fun _ => rfl, fun h => absurd hfixed h⟩
  · obtain ⟨print, hsome⟩ := Option.isSome_iff_exists.1 (hprinter hfixed)
    obtain ⟨source, hsource⟩ := hprint print hsome s.input
    refine ⟨source, ?_, fun h => absurd h hfixed, fun _ => ⟨print, hsome, hsource⟩⟩
    rw [printed?, hsome]
    exact (if_neg (mt List.isEmpty_iff.1 hfixed)).trans hsource

/-- **A pass is its calls.** Every offense of linting is fixed or left, once.
The source is what is left of the document after the calls of the rules on
documents, printed if one of them fixed something, after the calls of the rules
on plain source. -/
structure Accounts (l : Linter) (d : Document) (context : Context) (linted : LintResult)
    (result : AutofixResult) (between : Text) : Prop where
  perm : (result.fixed ++ result.unfixed).Perm linted.offenses
  documentCalls : l.print.isSome →
    l.Calling .parser linted.offenses (l.documentCalls linted.offenses)
  noCalls : l.print = none → l.documentCalls linted.offenses = []
  textCalls : l.Calling .source linted.offenses (l.textCalls linted.offenses)
  kept : Phase.onDocument.fixedBy context d (l.documentCalls linted.offenses) = [] →
    between = d.source
  printed : Phase.onDocument.fixedBy context d (l.documentCalls linted.offenses) ≠ [] →
    ∃ print, l.print = some print ∧
      print (Phase.onDocument.applied context d (l.documentCalls linted.offenses)) = .ok between
  source : result.source =
    Phase.onText.applied context between (l.textCalls linted.offenses)
  fixed : result.fixed =
    Phase.onDocument.fixedBy context d (l.documentCalls linted.offenses) ++
      Phase.onText.fixedBy context between (l.textCalls linted.offenses)
  log : result.log = linted.log ++
    Phase.onDocument.loggedBy context d (l.documentCalls linted.offenses) ++
      Phase.onText.loggedBy context between (l.textCalls linted.offenses)

/-- A pass over what linting finds nothing in. -/
theorem accounts_of_clean (l : Linter) (d : Document) (context : Context) {linted : LintResult}
    (hclean : linted.offenses = []) :
    l.Accounts d context linted { source := d.source, log := linted.log } d.source := by
  have hdocument : l.documentCalls linted.offenses = [] := by
    rw [documentCalls, hclean, calls_nil, ite_self]
  have htext : l.textCalls linted.offenses = [] := by rw [Linter.textCalls, hclean, calls_nil]
  constructor
  · rw [hclean]
    exact .nil
  · intro hprint
    rw [hdocument, hclean, ← l.calls_nil .parser]
    exact calling_calls l .parser []
  · exact fun _ => hdocument
  · exact calling_calls l .source linted.offenses
  · exact fun _ => rfl
  · rw [hdocument]
    exact fun h => absurd rfl h
  · rw [htext, Phase.applied, List.foldl_nil]
  · rw [hdocument, htext]
    rfl
  · rw [hdocument, htext, Phase.loggedBy, Phase.loggedBy, List.append_nil, List.append_nil]

/-- Where linting finds something and the document is printed, the pass comes to
its end. -/
theorem autofix?_eq_finish {l : Linter} {d : Document} {fileName : Option String}
    {disabled : List String} {linted : LintResult} {source : Text}
    (hkinds : ∀ b ∈ l.rules, b.rule.kind = .parser ∨ b.rule.kind = .source)
    (hlint : l.lint? d fileName disabled = .ok linted) (hfound : linted.offenses ≠ [])
    (hprinted : l.printed? (l.fixedDocument d (l.context fileName disabled) linted) = .ok source) :
    l.autofix? d fileName disabled = .ok (l.finish (l.context fileName disabled) linted
      (l.fixedDocument d (l.context fileName disabled) linted) source) := by
  have hkind : ¬ ((l.fixGroups linted.offenses).any fun g => g.bound.rule.kind = .missing) := by
    rw [List.any_eq_true]
    rintro ⟨g, hg, hmissing⟩
    have hmissing := of_decide_eq_true hmissing
    rcases hkinds _ (bound_mem_of_mem_fixGroups hg) with hkind | hkind
    · exact nomatch hkind.symm.trans hmissing
    · exact nomatch hkind.symm.trans hmissing
  rw [autofix?, hlint]
  simp only [bind, Except.bind]
  rw [if_neg (mt List.isEmpty_iff.1 hfound)]
  simp only [pure, Except.pure]
  rw [if_neg hkind, hprinted]

/-- **A pass loses no offense and makes none up, and a failed fixer changes
nothing.** If linting does not break off, fixing does not. Of the fixers nothing
is assumed, and of the printer only that it prints. -/
theorem autofix_accounts {l : Linter} {d : Document} {fileName : Option String}
    {disabled : List String} {linted : LintResult}
    (hkinds : ∀ b ∈ l.rules, b.rule.kind = .parser ∨ b.rule.kind = .source)
    (hprint : ∀ print, l.print = some print → ∀ d, ∃ source, print d = .ok source)
    (hlint : l.lint? d fileName disabled = .ok linted) :
    ∃ result between, l.autofix? d fileName disabled = .ok result ∧
      (∀ source, disabled = [] → l.read? source = .ok d →
        l.autofixSource? source fileName = .ok result) ∧
      l.Accounts d (l.context fileName disabled) linted result between := by
  suffices hdocument : ∃ result between, l.autofix? d fileName disabled = .ok result ∧
      l.Accounts d (l.context fileName disabled) linted result between by
    obtain ⟨result, between, hresult, haccounts⟩ := hdocument
    refine ⟨result, between, hresult, fun source hdisabled hread => ?_, haccounts⟩
    rw [autofixSource?, hread, ← hdisabled]
    exact hresult
  by_cases hclean : linted.offenses = []
  · refine ⟨_, _, ?_, accounts_of_clean l d _ hclean⟩
    rw [autofix?, hlint]
    exact if_pos (List.isEmpty_iff.2 hclean)
  obtain ⟨left, hparsed, hleft⟩ := fixedDocument_calls l d (l.context fileName disabled) linted
  have hunprinted : l.print = none → l.documentCalls linted.offenses = [] := fun hnone => by
    rw [documentCalls, hnone]
    rfl
  obtain ⟨between, hbetween, hkept, hprinted⟩ :=
    exists_printed? (s := l.fixedDocument d (l.context fileName disabled) linted) hprint
      fun hfixed => by
        rw [hparsed] at hfixed
        refine Option.isSome_iff_ne_none.2 fun hnone => hfixed ?_
        rw [hunprinted hnone, Phase.fixedBy]
  have hfinish := autofix?_eq_finish hkinds hlint hclean hbetween
  have hinput := @input_fixedDocument l d (l.context fileName disabled) linted
  rw [finish_calls, hparsed] at hfinish
  rw [hparsed] at hkept hprinted hinput
  refine ⟨_, between, hfinish, ?_, fun hprint => ?_, hunprinted, calling_calls l .source _,
    fun hnone => ?_, hprinted, rfl, rfl, rfl⟩
  · have htext := (Phase.onText.fixedBy_append_leftBy_perm (l.context fileName disabled) between
      (l.textCalls linted.offenses)).trans (calls_perm l .source linted.offenses)
    have hkind := perm_of_kinds hkinds linted.offenses
    rw [← List.append_assoc] at hkind
    refine .trans ?_ ((hleft.append htext).trans hkind)
    simp only [List.append_assoc]
    exact (List.perm_append_comm_assoc _ _ _).append_left _
  · obtain ⟨print, hsome⟩ := Option.isSome_iff_exists.1 hprint
    rw [documentCalls, hsome]
    exact calling_calls l .parser _
  · rw [hkept hnone, hinput hnone]

/-- A rule that finds something in every file, and has a fixer. -/
def restless (name : String) (kind : RuleKind)
    (fixer : RuleInput → Except Crash Replacement) : Rule where
  name
  kind
  check := fun _ _ => .ok [Offense.found name "found" .fallback]
  fixer := some fun _ input _ => fixer input

/-- Fixers of all sorts: one crashes, one empties the document, one gives back a
text for a document, one gives back nothing, and one signs the text. -/
def unsteady : Linter where
  print := some fun d => .ok d.source
  rules := [
    ⟨restless "crash" .parser fun _ => .error (.of "ValueError" "no"), {}⟩,
    ⟨restless "empty" .parser fun _ => .ok (.document (.ofText [])), {}⟩,
    ⟨restless "mistaken" .parser fun input => .ok (.text input.source), {}⟩,
    ⟨restless "idle" .source fun _ => .ok .nothing, {}⟩,
    ⟨restless "sign" .source fun input => .ok (.text (input.source ++ ['!'])), {}⟩]
  distinct := by decide

/-- Of the five offenses two are fixed, one in each phase, and the fixers that
fail leave what the others made. -/
theorem autofix_accounts_unsteady :
    ∃ result linted, unsteady.lint? (Document.parse ['a']) none [] = .ok linted ∧
      unsteady.autofix? (Document.parse ['a']) none [] = .ok result ∧
      (result.fixed ++ result.unfixed).Perm linted.offenses ∧
      result.fixed.map (·.rule) = ["empty", "sign"] ∧ result.source = ['!'] := by
  have hkinds : ∀ b ∈ unsteady.rules, b.rule.kind = .parser ∨ b.rule.kind = .source := by
    decide
  have hprint : ∀ print, unsteady.print = some print → ∀ d, ∃ source, print d = .ok source := by
    rintro print ⟨⟩ d
    exact ⟨d.source, rfl⟩
  have hlint : unsteady.lint? (Document.parse ['a']) none [] =
      .ok (unsteady.lint (Document.parse ['a']) none []) := by rfl
  have hrun : (unsteady.autofix? (Document.parse ['a']) none []).toOption.map
      (fun result => (result.fixed.map (·.rule), result.source)) =
        some (["empty", "sign"], ['!']) := by
    decide +kernel
  obtain ⟨result, between, hresult, -, haccounts⟩ := autofix_accounts hkinds hprint hlint
  rw [hresult] at hrun
  obtain ⟨hfixed, hsource⟩ := Prod.mk.inj (Option.some.inj hrun)
  exact ⟨result, _, hlint, hresult, haccounts.perm, hfixed, hsource⟩

end Linter

end TemplateLint
