import TemplateLint.Linter.Basic
/-!
# Rules — what the library's rules have in common

Every rule that comes with the library reports under its own name, agrees
to run whenever it is asked, and has a text for a name. Only the two rules
about newlines have a fixer. `Linter.RunsBuiltins` is the linter of these
rules, whatever they are set to.
-/

namespace TemplateLint

/-- The offense is reported under a name, and that is a text. -/
def Offense.ReportedBy (o : Offense) (name : String) : Prop :=
  o.rule = name ∧ o.instead = []

/-- A rule that only reports under its own name. -/
def Rule.SpeaksForItself (r : Rule) : Prop :=
  ∀ input context offenses, r.check input context = .ok offenses →
    ∀ o ∈ offenses, o.ReportedBy r.name

theorem Offense.reportedBy_found (name message : String) (location : Location) :
    (Offense.found name message location).ReportedBy name :=
  ⟨rfl, rfl⟩

theorem Offense.reportedBy_bind {o : Offense} {name : String} {severity : Severity} :
    (o.bind severity).ReportedBy name ↔ o.ReportedBy name := by
  unfold Offense.bind
  split <;> rfl

/-! ## Rule by rule -/

section Rules

variable {name : String} {severity : Severity}

theorem speaksForItself_onDocument {offenses : Document → Context → List Offense}
    (h : ∀ d context, ∀ o ∈ offenses d context, o.ReportedBy name) :
    (Rule.onDocument name severity offenses).SpeaksForItself := by
  intro input context found hfound
  cases input with
  | document d =>
    cases hfound
    exact h d context
  | text t =>
    cases hfound
    simp

theorem speaksForItself_aboutComments {offenses : Comment → Context → List Offense}
    (h : ∀ c context, ∀ o ∈ offenses c context, o.ReportedBy name) :
    (DisableComments.aboutComments name severity offenses).SpeaksForItself := by
  refine speaksForItself_onDocument fun d context o ho => ?_
  split at ho
  · cases ho
  · obtain ⟨c, -, ho⟩ := List.mem_flatMap.1 ho
    exact h c context o ho

theorem speaksForItself_aboutDirectives {offenses : DisableComment → Context → List Offense}
    (h : ∀ c context, ∀ o ∈ offenses c context, o.ReportedBy name) :
    (DisableComments.aboutDirectives name severity offenses).SpeaksForItself := by
  refine speaksForItself_aboutComments fun c context o ho => ?_
  split at ho
  · cases ho
  · exact h _ context o ho

end Rules

namespace Newlines

theorem reportedBy_blankLinesOffense (source : Text) (start stop : Nat) :
    (blankLinesOffense source start stop).ReportedBy blankLinesName :=
  ⟨rfl, rfl⟩

theorem speaksForItself_blankLines : blankLines.SpeaksForItself := by
  intro input context offenses h o ho
  cases h
  obtain ⟨range, -, rfl⟩ := List.mem_map.1 ho
  exact reportedBy_blankLinesOffense _ _ _

theorem reportedBy_endOfFile {source : Text} {o : Offense} (h : o ∈ endOfFileOffenses source) :
    o.ReportedBy endOfFileName := by
  unfold endOfFileOffenses at h
  split at h
  · cases h
  · split at h
    · cases List.mem_singleton.1 h
      exact Offense.reportedBy_found _ _ _
    · split at h
      · cases List.mem_singleton.1 h
        exact Offense.reportedBy_found _ _ _
      · cases h

theorem speaksForItself_endOfFile : endOfFile.SpeaksForItself := by
  intro input context offenses h o ho
  cases h
  split at ho
  · exact reportedBy_endOfFile ho
  · cases ho

end Newlines

namespace DisableComments

theorem speaksForItself_malformed : malformed.SpeaksForItself := by
  refine speaksForItself_aboutComments fun c context o ho => ?_
  obtain ⟨flaw, -, rfl⟩ := List.mem_map.1 ho
  exact Offense.reportedBy_found _ _ _

theorem speaksForItself_missing : missing.SpeaksForItself := by
  refine speaksForItself_aboutComments fun c context o ho => ?_
  unfold missingOffenses at ho
  split at ho
  · cases List.mem_singleton.1 ho
    exact Offense.reportedBy_found _ _ _
  · cases ho

theorem speaksForItself_duplicate : duplicate.SpeaksForItself := by
  refine speaksForItself_aboutDirectives fun c context o ho => ?_
  obtain ⟨span, -, rfl⟩ := List.mem_map.1 ho
  exact Offense.reportedBy_found _ _ _

theorem speaksForItself_redundant : redundant.SpeaksForItself := by
  refine speaksForItself_aboutDirectives fun c context o ho => ?_
  unfold redundantOffenses at ho
  split at ho
  · obtain ⟨span, -, rfl⟩ := List.mem_map.1 ho
    exact Offense.reportedBy_found _ _ _
  · cases ho

theorem reportedBy_idle {known : List String} {usage : Usage} {c : DisableComment} {o : Offense}
    (h : o ∈ idleOffenses known usage c) : o.ReportedBy unnecessaryName := by
  simp only [idleOffenses] at h
  split at h
  · obtain ⟨span, -, rfl⟩ := List.mem_map.1 h
    exact Offense.reportedBy_found _ _ _
  · split at h
    · cases h
    all_goals
      cases List.mem_singleton.1 h
      exact Offense.reportedBy_found _ _ _

theorem speaksForItself_unnecessary : unnecessary.SpeaksForItself := by
  refine speaksForItself_aboutDirectives fun c context o ho => ?_
  split at ho
  · cases ho
  · split at ho
    · cases ho
    · unfold unnecessaryOffenses at ho
      split at ho
      · split at ho
        · cases ho
        · cases List.mem_singleton.1 ho
          exact Offense.reportedBy_found _ _ _
      · exact reportedBy_idle ho

theorem speaksForItself_knownOnly : knownOnly.SpeaksForItself := by
  refine speaksForItself_aboutDirectives fun c context o ho => ?_
  split at ho
  · cases ho
  · obtain ⟨span, -, rfl⟩ := List.mem_map.1 ho
    exact Offense.reportedBy_found _ _ _

theorem speaksForItself_unknown : unknown.SpeaksForItself := by
  intro input context offenses h
  simp only [unknown, bind, Except.bind] at h
  split at h
  · cases h
  · rename_i found hfound
    split at h
    · split at h
      · cases h
        simp
      · cases h
    · cases h
      exact speaksForItself_knownOnly input context _ hfound

end DisableComments

theorem Tags.reportedBy_offenses {kind : String} {opening : Text} {name : Token} {o : Offense}
    (h : o ∈ Tags.offenses kind opening name) : o.ReportedBy Tags.ruleName := by
  unfold Tags.offenses at h
  split at h
  · cases h
  · cases List.mem_singleton.1 h
    exact Offense.reportedBy_found _ _ _

theorem Tags.reportedBy_offensesBelow {depth : Nat} {nodes : List Node} {o : Offense}
    (h : o ∈ Tags.offensesBelow depth nodes) : o.ReportedBy Tags.ruleName := by
  -- Opening and closing tags are looked at alike.
  fun_induction Tags.offensesBelow depth nodes with
  | case1 => cases h
  | case2 depth name _ _ _ _ ih | case3 depth name _ _ _ _ ih =>
    rcases List.mem_append.1 h with h | h
    · split at h
      · exact reportedBy_offenses h
      · cases h
    · exact ih h
  | case4 _ _ _ _ _ ih => exact ih h

theorem Tags.speaksForItself_lowercase : Tags.lowercase.SpeaksForItself := by
  refine speaksForItself_onDocument fun d context o ho => ?_
  split at ho
  · cases ho
  · exact reportedBy_offensesBelow ho

theorem ParseErrors.speaksForItself_reported : ParseErrors.reported.SpeaksForItself := by
  refine speaksForItself_onDocument fun d context o ho => ?_
  obtain ⟨e, -, rfl⟩ := List.mem_map.1 ho
  exact ⟨rfl, rfl⟩

/-- **Every rule of the library reports under its own name.** -/
theorem Rule.speaksForItself_of_mem_builtins {r : Rule} (h : r ∈ Rule.builtins) :
    r.SpeaksForItself := by
  simp only [Rule.builtins, List.mem_cons, List.not_mem_nil, or_false] at h
  rcases h with rfl | rfl | rfl | rfl | rfl | rfl | rfl | rfl | rfl | rfl
  · exact Newlines.speaksForItself_blankLines
  · exact Newlines.speaksForItself_endOfFile
  · exact DisableComments.speaksForItself_malformed
  · exact DisableComments.speaksForItself_missing
  · exact DisableComments.speaksForItself_duplicate
  · exact DisableComments.speaksForItself_redundant
  · exact DisableComments.speaksForItself_unnecessary
  · exact DisableComments.speaksForItself_unknown
  · exact Tags.speaksForItself_lowercase
  · exact ParseErrors.speaksForItself_reported

/-! ## Their linter -/

namespace Linter

/-- The linter of the library's rules, each set as it comes. -/
def standard (equipment : Equipment) : Linter :=
  { equipment with
    rules := Rule.builtins.map fun r => ⟨r, r.settings⟩
    distinct := by decide }

/-- The linter runs the rules of the library, whatever they are set to. -/
def RunsBuiltins (l : Linter) : Prop :=
  l.rules.map (·.rule) = Rule.builtins

theorem rules_of_resolve {change : String → RuleSettings → Except OverrideError RuleSettings}
    {rules : List Rule} {bound : List BoundRule} (h : resolve change rules = .ok bound) :
    bound.map (·.rule) = rules := by
  induction rules generalizing bound with
  | nil =>
    cases h
    rfl
  | cons rule rules ih =>
    simp only [resolve, bind, Except.bind] at h
    split at h
    · cases h
    · split at h
      · cases h
      · rename_i rest hrest
        cases h
        simp [ih hrest]

/-- Overrides change what the rules are set to, and nothing else. -/
theorem runsBuiltins_of_ofRules?
    {change : String → RuleSettings → Except OverrideError RuleSettings} {equipment : Equipment}
    {l : Linter} (h : ofRules? Rule.builtins change equipment = .ok l) :
    l.RunsBuiltins ∧ l.toEquipment = equipment := by
  unfold ofRules? at h
  split at h
  · cases h
  · split at h
    · cases h
    · rename_i bound hbound
      cases h
      exact ⟨rules_of_resolve hbound, rfl⟩

variable {l : Linter} {d : Document} {context : Context} {b : BoundRule}

theorem RunsBuiltins.mem (h : l.RunsBuiltins) (hb : b ∈ l.rules) : b.rule ∈ Rule.builtins :=
  h ▸ List.mem_map_of_mem hb

/-- What a rule comes to is reported under its name, a crash included. -/
theorem reportedBy_of_mem_offensesOf (hspeaks : b.rule.SpeaksForItself)
    (htitle : b.rule.instead = []) {o : Offense} (ho : o ∈ offensesOf d context b) :
    o.ReportedBy b.name := by
  unfold offensesOf at ho
  split at ho
  · rename_i offenses hcheck
    obtain ⟨found, hfound, rfl⟩ := List.mem_map.1 ho
    exact Offense.reportedBy_bind.2 (hspeaks _ _ _ hcheck found hfound)
  · cases List.mem_singleton.1 ho
    exact ⟨rfl, htitle⟩

/-- The rules of the library have texts for names, look at documents or at
text, and agree to run. -/
theorem plain_of_mem_builtins {r : Rule} (h : r ∈ Rule.builtins) :
    r.instead = [] ∧ r.kind ≠ .missing ∧ ∀ input context, r.agrees input context = .ok true := by
  simp only [Rule.builtins, List.mem_cons, List.not_mem_nil, or_false] at h
  rcases h with rfl | rfl | rfl | rfl | rfl | rfl | rfl | rfl | rfl | rfl
  all_goals exact ⟨rfl, by decide, fun _ _ => rfl⟩

/-- What a rule of the library comes to is reported under its name. -/
theorem reportedBy_of_mem_builtins (hb : b.rule ∈ Rule.builtins) {o : Offense}
    (ho : o ∈ offensesOf d context b) : o.ReportedBy b.name :=
  reportedBy_of_mem_offensesOf (Rule.speaksForItself_of_mem_builtins hb)
    (plain_of_mem_builtins hb).1 ho

theorem RunsBuiltins.reportedBy (h : l.RunsBuiltins) (hb : b ∈ l.rules) {o : Offense}
    (ho : o ∈ offensesOf d context b) : o.ReportedBy b.name :=
  reportedBy_of_mem_builtins (h.mem hb) ho

/-- Asking a rule of the library fails only if the file name cannot be
matched, whatever the document is. -/
theorem askingFailure?_eq_none_iff (hb : b.rule ∈ Rule.builtins) :
    askingFailure? d context b = none ↔
      b.name ∈ context.disabled ∨ (b.settings.appliesTo? context.fileName).isSome := by
  obtain ⟨-, hkind, hagrees⟩ := plain_of_mem_builtins hb
  by_cases hdisabled : b.name ∈ context.disabled
  · simp [askingFailure?, hdisabled]
  · rcases happlies : b.settings.appliesTo? context.fileName with _ | _ | _ <;>
      simp [askingFailure?, hdisabled, happlies, hkind, hagrees]

end Linter

end TemplateLint
