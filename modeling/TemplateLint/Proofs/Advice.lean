import TemplateLint.Linter.Suppression
/-!
# Suppression — following the advice

The rule about unnecessary comments advises to remove names, and whole
comments, that got no credit. This file follows the advice everywhere at
once (`Suppression.followAdvice`) and shows that nothing else changes: the
suppression that had the credit for an offense still covers it, and what
stands behind that did not cover it before and has only lost names. Credit
is kept by line, so a name may survive where another comment of the line
earned it; it is never removed where it earned credit itself.
-/

namespace TemplateLint

namespace Suppression

/-- The name stays in the directive: it got credit on that line, or stands
with `all`, which is looked at as a whole. `all` alone stays where anything
got credit on its line. -/
def keepsName (used : Usage) (s : Suppression) (name : String) : Bool :=
  if s.directive.ruleNames = [Directive.everyRule] then used.usesAny s.position.line
  else s.directive.disablesAll || used.uses s.position.line name

/-- What is left of a suppression when the advice is followed, if any name
is left. -/
def followAdvice (used : Usage) (s : Suppression) : Option Suppression :=
  let names := s.directive.names.filter fun span => s.keepsName used span.name
  if names.isEmpty then none else some { s with directive := { s.directive with names } }

variable {used : Usage} {s s' : Suppression} {name : String}

/-- What is left stands in the same place, and lists those names that
stay. -/
theorem followAdvice_eq_some (h : s.followAdvice used = some s') :
    s'.position = s.position ∧
      ∀ name, name ∈ s'.directive.ruleNames ↔
        name ∈ s.directive.ruleNames ∧ s.keepsName used name := by
  simp only [followAdvice] at h
  split at h
  · cases h
  · cases h
    refine ⟨rfl, fun name => ?_⟩
    simp only [Directive.ruleNames, List.mem_map, List.mem_filter]
    constructor
    · rintro ⟨span, ⟨hspan, hkeeps⟩, rfl⟩
      exact ⟨⟨span, hspan, rfl⟩, hkeeps⟩
    · rintro ⟨⟨span, hspan, rfl⟩, hkeeps⟩
      exact ⟨span, ⟨hspan, hkeeps⟩, rfl⟩

/-- Something is left if any name stays. -/
theorem exists_followAdvice (hmem : name ∈ s.directive.ruleNames)
    (hkeeps : s.keepsName used name) : ∃ s', s.followAdvice used = some s' := by
  obtain ⟨span, hspan, rfl⟩ := List.mem_map.1 hmem
  have hne : (s.directive.names.filter fun span => s.keepsName used span.name) ≠ [] :=
    List.ne_nil_of_mem (List.mem_filter.2 ⟨hspan, hkeeps⟩)
  exact ⟨_, if_neg (by simpa using hne)⟩

/-! ## The credit -/

theorem usesAny_of_uses {line : Nat} (h : used.uses line name) : used.usesAny line := by
  rw [Usage.uses, List.contains_iff_mem] at h
  exact List.any_eq_true.2 ⟨_, h, beq_self_eq_true _⟩

/-- A suppression that has earned credit for a rule still suppresses the
rule. -/
theorem followAdvice_disables (hdisables : s.directive.disables name)
    (hused : used.uses s.position.line name) :
    ∃ s', s.followAdvice used = some s' ∧ s'.directive.disables name := by
  simp only [Directive.disables, Directive.disablesAll, Bool.or_eq_true,
    List.contains_iff_mem] at hdisables
  rcases hdisables with hall | hname
  · -- `all` stays, whether it stands alone or not.
    have hkeeps : s.keepsName used Directive.everyRule := by
      unfold keepsName
      split
      · exact usesAny_of_uses hused
      · simp [Directive.disablesAll, hall]
    obtain ⟨s', hs'⟩ := exists_followAdvice hall hkeeps
    have hmem := ((followAdvice_eq_some hs').2 _).2 ⟨hall, hkeeps⟩
    exact ⟨s', hs', by simp [Directive.disables, Directive.disablesAll, hmem]⟩
  · have hkeeps : s.keepsName used name := by
      unfold keepsName
      split
      · exact usesAny_of_uses hused
      · rw [hused, Bool.or_true]
    obtain ⟨s', hs'⟩ := exists_followAdvice hname hkeeps
    have hmem := ((followAdvice_eq_some hs').2 _).2 ⟨hname, hkeeps⟩
    exact ⟨s', hs', by simp [Directive.disables, hmem]⟩

/-- Following the advice lets a suppression cover nothing new. -/
theorem covers_of_followAdvice {scope : DisableScope} {o : Offense}
    (h : s.followAdvice used = some s') (hcovers : s'.covers scope o) : s.covers scope o := by
  obtain ⟨hposition, hnames⟩ := followAdvice_eq_some h
  simp only [covers, Directive.disables, Directive.disablesAll, Bool.and_eq_true, Bool.or_eq_true,
    List.contains_iff_mem, hnames, hposition] at hcovers ⊢
  exact ⟨hcovers.1.imp And.left And.left, hcovers.2⟩

variable {scope : DisableScope} {suppressions : List Suppression} {offenses : List Offense}

/-- The first suppression of a list that covers an offense is found in the
same place after the advice is followed, if it has credit for it. -/
theorem find?_followAdvice {o : Offense}
    (hused : ∀ s, suppressions.find? (·.covers scope o) = some s →
      used.uses s.position.line o.rule) :
    ((suppressions.filterMap (followAdvice used)).find? (·.covers scope o)).map (·.position) =
      (suppressions.find? (·.covers scope o)).map (·.position) := by
  induction suppressions with
  | nil => rfl
  | cons s suppressions ih =>
    -- The one with the credit stays and covers; one that does not cover will not.
    by_cases hcovers : s.covers scope o
    · have hcredit := hused s (List.find?_cons_of_pos hcovers)
      obtain ⟨hdisables, hreaches⟩ := Bool.and_eq_true_iff.1 hcovers
      obtain ⟨s', hs', hdisables'⟩ := followAdvice_disables hdisables hcredit
      have hposition := (followAdvice_eq_some hs').1
      have hcovers' : s'.covers scope o := by
        rw [covers, hdisables', hposition, hreaches, Bool.and_self]
      rw [List.filterMap_cons_some hs', List.find?_cons, List.find?_cons, hcovers, hcovers']
      exact congrArg some hposition
    · rw [Bool.not_eq_true] at hcovers
      rw [List.find?_cons, hcovers] at hused ⊢
      cases hs' : s.followAdvice used with
      | none => rw [List.filterMap_cons_none hs', ih hused]
      | some s' =>
        have hcovers' : s'.covers scope o = false := by
          rw [← Bool.not_eq_true] at hcovers ⊢
          exact fun h => hcovers (covers_of_followAdvice hs' h)
        rw [List.filterMap_cons_some hs', List.find?_cons, hcovers', ih hused]

/-- **The credit stays where it was.** -/
theorem credited?_followAdvice {o : Offense}
    (hused : ∀ s, credited? scope suppressions o = some s → used.uses s.position.line o.rule) :
    (credited? scope (suppressions.filterMap (followAdvice used)) o).map (·.position) =
      (credited? scope suppressions o).map (·.position) := by
  unfold credited? at hused ⊢
  split
  · rfl
  · rename_i hexempt
    rw [if_neg hexempt] at hused
    rw [← List.filterMap_reverse]
    exact find?_followAdvice hused

/-! ## Filtering -/

/-- What is recorded is the line of each credit, with the rule of the
offense. -/
theorem uses_filter {o : Offense} (ho : o ∈ offenses)
    (hs : credited? scope suppressions o = some s) :
    (filter scope suppressions offenses).usage.uses s.position.line o.rule := by
  rw [Usage.uses, List.contains_iff_mem]
  induction offenses with
  | nil => cases ho
  | cons o' offenses ih =>
    rw [filter]
    rcases List.mem_cons.1 ho with rfl | ho
    · simp [hs]
    · cases credited? scope suppressions o' with
      | none => exact ih ho
      | some s => exact List.mem_cons_of_mem _ (ih ho)

/-- Filtering only asks where the suppression stands that has the
credit. -/
theorem filter_congr {suppressions' : List Suppression}
    (h : ∀ o ∈ offenses, (credited? scope suppressions' o).map (·.position) =
      (credited? scope suppressions o).map (·.position)) :
    filter scope suppressions' offenses = filter scope suppressions offenses := by
  induction offenses with
  | nil => rfl
  | cons o offenses ih =>
    have hrest := ih fun o' ho' => h o' (.tail _ ho')
    have hfirst := h o (.head _)
    rw [filter, filter, hrest]
    cases hs : credited? scope suppressions o with
    | none =>
      rw [hs, Option.map_none, Option.map_eq_none_iff] at hfirst
      rw [hfirst]
    | some s =>
      rw [hs, Option.map_some, Option.map_eq_some_iff] at hfirst
      obtain ⟨s', hs', hposition⟩ := hfirst
      simp only [hs', hposition]

/-- **Following the advice changes nothing that is reported**, nor what is
credited to which line. -/
theorem filter_followAdvice :
    filter scope (suppressions.filterMap (followAdvice (filter scope suppressions offenses).usage))
      offenses = filter scope suppressions offenses :=
  filter_congr fun _ ho => credited?_followAdvice fun _ hs => uses_filter ho hs

/-! ## The advice -/

/-- Names one after the other, as they are shown. -/
def listed (names : List String) : String :=
  ", ".intercalate (names.map fun name => s!"`{name}`")

/-- What an offense about an unnecessary comment says, and the names it
says it of. -/
inductive Advises : String → List String → Prop where
  /-- A comment for all rules is of no use. -/
  | everything :
    Advises "No offenses to disable. Remove the `herb:disable all` comment."
      [Directive.everyRule]
  /-- One name is of no use, and others are. -/
  | amongOthers (name : String) :
    Advises s!"No offenses from `{name}` to disable. Remove it from the `herb:disable` comment."
      [name]
  /-- The only known name is of no use. -/
  | alone (name : String) :
    Advises s!"No offenses from `{name}` to disable. Remove the `herb:disable` comment." [name]
  /-- None of several known names is of use. -/
  | together (names : List String) (several : 2 ≤ names.length) :
    Advises (s!"No offenses from rules {listed names} to disable. "
      ++ "Remove them from the `herb:disable` comment.") names

/-- The name is in the directive, and following the advice removes it. -/
def Removes (used : Usage) (s : Suppression) (name : String) : Prop :=
  name ∈ s.directive.ruleNames ∧
    ∀ s', s.followAdvice used = some s' → name ∉ s'.directive.ruleNames

theorem removes_of_not_keepsName (hmem : name ∈ s.directive.ruleNames)
    (h : s.keepsName used name = false) : s.Removes used name :=
  ⟨hmem, fun _ hs' hmem' => by simp [((followAdvice_eq_some hs').2 _).1 hmem'] at h⟩

variable {c : DisableComment} {known ruleNames : List String} {o : Offense}

/-- A known name without credit is removed. -/
theorem removes_of_mem_idleNames (hall : c.directive.disablesAll = false) {span : NameSpan}
    (h : span ∈ DisableComments.idleNames known used c) :
    (ofComment c).Removes used span.name := by
  obtain ⟨hmem, hidle⟩ := List.mem_filter.1 h
  obtain ⟨-, hunused⟩ := Bool.and_eq_true_iff.1 hidle
  refine removes_of_not_keepsName (List.mem_map_of_mem hmem) ?_
  have halone : c.directive.ruleNames ≠ [Directive.everyRule] := by
    intro hnames
    simp [Directive.disablesAll, hnames] at hall
  simpa [keepsName, halone, ofComment, hall] using hunused

theorem advises_idleNameOffense (span : NameSpan) :
    Advises (DisableComments.idleNameOffense c span).message [span.name] := by
  have h : (DisableComments.idleNameOffense c span).message =
      s!"No offenses from `{span.name}` to disable. Remove it from the `herb:disable` comment." := by
    apply String.toList_inj.1
    simp [DisableComments.idleNameOffense, Offense.found, toString]
  rw [h]
  exact .amongOthers span.name

theorem advises_idleComment (name : String) :
    Advises (DisableComments.idleComment s!"from `{name}`" "the `herb:disable`" c).message
      [name] := by
  have h : (DisableComments.idleComment s!"from `{name}`" "the `herb:disable`" c).message =
      s!"No offenses from `{name}` to disable. Remove the `herb:disable` comment." := by
    apply String.toList_inj.1
    simp [DisableComments.idleComment, Offense.found, toString]
  rw [h]
  exact .alone name

/-- What is neither empty nor a single name is several. -/
theorem two_le_length : ∀ {spans : List NameSpan}, (spans = [] → False) →
    (∀ span, spans = [span] → False) → 2 ≤ spans.length
  | [], hnil, _ => (hnil rfl).elim
  | [span], _, hone => (hone span rfl).elim
  | _ :: _ :: _, _, _ => Nat.le_add_left 2 _

theorem advises_idleComments {spans : List NameSpan} (several : 2 ≤ spans.length) :
    let names := ", ".intercalate (spans.map fun span => s!"`{span.name}`")
    Advises (DisableComments.idleComment s!"from rules {names}"
      "them from the `herb:disable`" c).message (spans.map (·.name)) := by
  intro names
  have hnames : names = listed (spans.map (·.name)) := by
    rw [listed, List.map_map, Function.comp_def]
  have h : (DisableComments.idleComment s!"from rules {names}"
      "them from the `herb:disable`" c).message =
      s!"No offenses from rules {names} to disable. "
        ++ "Remove them from the `herb:disable` comment." := by
    apply String.toList_inj.1
    simp [DisableComments.idleComment, Offense.found, toString]
  rw [h, hnames]
  exact .together _ (by rwa [List.length_map])

/-- **The advice is about names that it removes**, and about nothing
else. -/
theorem exists_advises (ho : o ∈ DisableComments.unnecessaryOffenses ruleNames used c) :
    ∃ names, Advises o.message names ∧ ∀ name ∈ names, (ofComment c).Removes used name := by
  unfold DisableComments.unnecessaryOffenses at ho
  split at ho
  · rename_i hall
    split at ho
    · cases ho
    · rename_i hidle
      cases List.mem_singleton.1 ho
      simp only [Bool.or_eq_true, decide_eq_true_eq, not_or, Nat.not_lt, Bool.not_eq_true] at hidle
      refine ⟨[Directive.everyRule], .everything, fun name hname => ?_⟩
      cases List.mem_singleton.1 hname
      have hmem : Directive.everyRule ∈ c.directive.ruleNames := by
        simpa [Directive.disablesAll] using hall
      have halone : c.directive.ruleNames = [Directive.everyRule] := by
        obtain ⟨only, honly⟩ := List.length_eq_one_iff.1
          (Nat.le_antisymm hidle.1 (List.length_pos_of_mem hmem))
        rw [honly, List.mem_singleton] at hmem
        rw [honly, hmem]
      exact removes_of_not_keepsName hmem (by simp [keepsName, ofComment, halone, hidle.2])
  · rename_i hall
    rw [Bool.not_eq_true] at hall
    simp only [DisableComments.idleOffenses] at ho
    split at ho
    · obtain ⟨span, hspan, rfl⟩ := List.mem_map.1 ho
      refine ⟨[span.name], advises_idleNameOffense span, fun name hname => ?_⟩
      cases List.mem_singleton.1 hname
      exact removes_of_mem_idleNames hall hspan
    · split at ho
      · cases ho
      · rename_i span hspan
        cases List.mem_singleton.1 ho
        refine ⟨[span.name], advises_idleComment span.name, fun name hname => ?_⟩
        cases List.mem_singleton.1 hname
        exact removes_of_mem_idleNames hall (hspan ▸ List.mem_singleton_self span)
      · rename_i spans hnil hone
        cases List.mem_singleton.1 ho
        refine ⟨_, advises_idleComments ?_, fun name hname => ?_⟩
        · exact two_le_length hnil hone
        · obtain ⟨span, hspan, rfl⟩ := List.mem_map.1 hname
          exact removes_of_mem_idleNames hall hspan

/-- **The advice is safe to follow.** When every directive loses the names
without credit at once, the same offenses are kept, the same number is
ignored, and the same is credited to each line; and what an offense of the
rule says of a comment, it says of names that the comment loses. -/
theorem advice_safe (scope : DisableScope) (suppressions : List Suppression)
    (offenses : List Offense) :
    let filtered := filter scope suppressions offenses
    filter scope (suppressions.filterMap (followAdvice filtered.usage)) offenses = filtered ∧
      ∀ ruleNames c, ∀ o ∈ DisableComments.unnecessaryOffenses ruleNames filtered.usage c,
        ∃ names, Advises o.message names ∧
          ∀ name ∈ names, (ofComment c).Removes filtered.usage name :=
  ⟨filter_followAdvice, fun _ _ _ ho => exists_advises ho⟩

/-- Two comments with the same names on one line: one name earned credit
there, and the other is advised against. -/
theorem advice_safe_sharedLine :
    let c : DisableComment := ⟨⟨.fallback, ⟨[], .fallback⟩⟩, ⟨[⟨"a", 0, 1⟩, ⟨"b", 2, 1⟩], []⟩⟩
    let offenses := [Offense.found "a" "found" .fallback]
    let filtered := filter .line [ofComment c, ofComment c] offenses
    let o := DisableComments.idleNameOffense c ⟨"b", 2, 1⟩
    o ∈ DisableComments.unnecessaryOffenses ["a", "b"] filtered.usage c ∧
      filter .line ([ofComment c, ofComment c].filterMap (followAdvice filtered.usage)) offenses =
        filtered ∧
      ∃ names, Advises o.message names ∧
        ∀ name ∈ names, (ofComment c).Removes filtered.usage name := by
  intro c offenses filtered o
  have ho : o ∈ DisableComments.unnecessaryOffenses ["a", "b"] filtered.usage c :=
    List.mem_singleton.2 rfl
  obtain ⟨hfilter, hadvice⟩ := advice_safe .line [ofComment c, ofComment c] offenses
  exact ⟨ho, hfilter, hadvice ["a", "b"] c o ho⟩

end Suppression

end TemplateLint
