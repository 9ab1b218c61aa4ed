import Mathlib.Logic.Basic
import TemplateLint.Rule.Import
/-!
# Imports — when a file of custom rules gives its rule

Whatever importing a file comes to, the file gives a rule or a reason why not.
It gives one exactly if it is imported, one of its values defines the rule, and
no other defines any (`Import.rule?_eq_ok_iff`). A value defines a rule if it is
a class of the file's own that can be made, and what it makes is that rule
(`Global.Defines`): a class that is only imported does not count, one that
cannot be made does not either, and one with two names counts twice. Otherwise
the failure of the import is the reason, or the names of the rules that are
defined instead of one (`Import.rule?_eq_error_iff`).
-/

namespace TemplateLint

/-! ## What a value defines -/

/-- **An instance is a rule.** -/
structure Instance.IsRule (i : Instance) : Prop where
  named : i.rule.isNamed
  title : i.rule.title.string? = some i.rule.name
  nonempty : i.rule.name ≠ ""
  kind : i.rule.kind = .parser ∨ i.rule.kind = .source
  check : i.hasCheck

theorem Instance.isRule_iff {i : Instance} : i.isRule ↔ i.IsRule := by
  simp only [isRule, Bool.and_eq_true, Bool.or_eq_true, decide_eq_true_eq]
  constructor
  · rintro ⟨⟨⟨⟨hnamed, htitle⟩, hnonempty⟩, hkind⟩, hcheck⟩
    exact ⟨hnamed, htitle, hnonempty, hkind, hcheck⟩
  · rintro ⟨hnamed, htitle, hnonempty, hkind, hcheck⟩
    exact ⟨⟨⟨⟨hnamed, htitle⟩, hnonempty⟩, hkind⟩, hcheck⟩

namespace Global

/-- **A value defines a rule**: it is a class of its file's own, it can be made, and
what it makes is that rule. -/
inductive Defines : Global → Rule → Prop
  | made {c : RuleClass} {i : Instance} : c.isOwn → c.made = .ok i → i.IsRule →
      Defines (.ofClass c) i.rule

/-- **The rules that some values define**, in order. -/
inductive Define : List Global → List Rule → Prop
  | nil : Define [] []
  | one {g : Global} {r : Rule} {globals : List Global} {rules : List Rule} :
      g.Defines r → Define globals rules → Define (g :: globals) (r :: rules)
  | none {g : Global} {globals : List Global} {rules : List Rule} :
      (∀ r, ¬ g.Defines r) → Define globals rules → Define (g :: globals) rules

variable {g : Global} {r : Rule} {globals : List Global} {rules : List Rule}

theorem rule?_eq_some_iff : g.rule? = some r ↔ g.Defines r := by
  cases g with
  | noClass => exact iff_of_false nofun nofun
  | ofClass c =>
    obtain ⟨isOwn, made⟩ := c
    rw [rule?]
    constructor
    · intro h
      obtain ⟨hown, h⟩ := Option.ite_none_right_eq_some.1 h
      obtain ⟨i, hi, rfl⟩ := Option.map_eq_some_iff.1 h
      obtain ⟨hmade, hrule⟩ := Option.filter_eq_some_iff.1 hi
      -- A class that cannot be made has no instance to judge.
      cases made with
      | error crash => cases hmade
      | ok made =>
        obtain rfl := Option.some.inj hmade
        exact .made hown rfl (Instance.isRule_iff.1 hrule)
    · rintro ⟨hown, rfl, hrule⟩
      rw [if_pos hown, Except.toOption, Option.filter_some, if_pos (Instance.isRule_iff.2 hrule),
        Option.map_some]

theorem rule?_eq_none_iff : g.rule? = none ↔ ∀ r, ¬ g.Defines r := by
  rw [Option.eq_none_iff_forall_ne_some]
  exact forall_congr' fun r => not_congr rule?_eq_some_iff

/-- The rules that are found among values are those that they define. -/
theorem define_iff : Define globals rules ↔ globals.filterMap rule? = rules := by
  induction globals generalizing rules with
  | nil =>
    rw [List.filterMap_nil]
    constructor
    · rintro ⟨⟩
      rfl
    · rintro rfl
      exact .nil
  | cons g globals ih =>
    rw [List.filterMap_cons]
    -- The first value defines no rule, or one, and there is one constructor for each.
    rcases hg : g.rule? with _ | r
    · have hnone := rule?_eq_none_iff.1 hg
      rw [← ih]
      constructor
      · intro h
        cases h with
        | one hr _ => exact absurd hr (hnone _)
        | none _ h => exact h
      · exact .none hnone
    · have hr := rule?_eq_some_iff.1 hg
      constructor
      · intro h
        cases h with
        | one hr' h => rw [ih.1 h, Option.some.inj (hg.symm.trans (rule?_eq_some_iff.2 hr'))]
        | none hnone _ => exact absurd hr (hnone r)
      · rintro rfl
        exact .one hr (ih.2 rfl)

/-- Values define nothing but one rule if one of them defines it and no other
defines any. -/
theorem define_singleton_iff : Define globals [r] ↔
    ∃ before g after, globals = before ++ g :: after ∧ g.Defines r ∧
      ∀ other ∈ before ++ after, ∀ r', ¬ other.Defines r' := by
  rw [define_iff, List.filterMap_eq_cons_iff]
  simp only [List.filterMap_eq_nil_iff, rule?_eq_some_iff, rule?_eq_none_iff]
  constructor
  · rintro ⟨before, g, after, rfl, hbefore, hg, hafter⟩
    refine ⟨before, g, after, rfl, hg, fun other hother => ?_⟩
    exact (List.mem_append.1 hother).elim (hbefore other) (hafter other)
  · rintro ⟨before, g, after, rfl, hg, hothers⟩
    exact ⟨before, g, after, rfl, fun other h => hothers other (List.mem_append_left _ h), hg,
      fun other h => hothers other (List.mem_append_right _ h)⟩

end Global

/-! ## What a file gives -/

namespace Import

/-- **A file gives a rule**: it is imported, one of its values defines the rule, and
no other defines any. -/
inductive Gives : Import → Rule → Prop
  | one {before after : List Global} {g : Global} {r : Rule} : g.Defines r →
      (∀ other ∈ before ++ after, ∀ r', ¬ other.Defines r') →
      Gives (.done (before ++ g :: after)) r

/-- **Why a file gives no rule.** -/
inductive Refuses (file : String) : Import → Error → Prop
  /-- Files of its kind cannot be imported. -/
  | unsupported : Refuses file .unsupported (.failed (unsupportedCrash file))
  /-- It breaks down. -/
  | failed (crash : Crash) : Refuses file (.failed crash) (.failed crash)
  /-- Its values define no rule, or more than one. -/
  | notOne {globals : List Global} {rules : List Rule} : Global.Define globals rules →
      rules.length ≠ 1 → Refuses file (.done globals) (.notOne (rules.map (·.name)))

variable {m : Import} {file : String} {r : Rule} {e : Error}

theorem gives_iff : m.Gives r ↔ ∃ globals, m = .done globals ∧ Global.Define globals [r] := by
  constructor
  · rintro ⟨hg, hothers⟩
    exact ⟨_, rfl, Global.define_singleton_iff.2 ⟨_, _, _, rfl, hg, hothers⟩⟩
  · rintro ⟨globals, rfl, hdefine⟩
    obtain ⟨before, g, after, rfl, hg, hothers⟩ := Global.define_singleton_iff.1 hdefine
    exact .one hg hothers

/-- What a file gives is a rule. -/
theorem Gives.exists_isRule (h : m.Gives r) : ∃ i : Instance, i.IsRule ∧ i.rule = r := by
  obtain ⟨⟨-, -, hrule⟩, -⟩ := h
  exact ⟨_, hrule, rfl⟩

/-- **A file has the rule that it gives**, and no other file has one. -/
theorem rule?_eq_ok_iff : m.rule? file = .ok r ↔ m.Gives r := by
  rw [gives_iff]
  cases m with
  | unsupported => exact iff_of_false nofun nofun
  | failed crash => exact iff_of_false nofun nofun
  | done globals =>
    simp only [rule?, done.injEq, exists_eq_left', Global.define_iff]
    split
    · rename_i rule hone
      rw [hone, Except.ok.injEq, List.cons.injEq, and_iff_left rfl]
    · rename_i hmany
      exact iff_of_false nofun (hmany r)

/-- **Two values that define rules are one too many**, even if they are one class
with two names. -/
theorem not_gives_of_two {before between after : List Global} {g g' : Global} {r' : Rule}
    (hg : g.Defines r) (hg' : g'.Defines r') (rule : Rule) :
    ¬ (done (before ++ g :: (between ++ g' :: after))).Gives rule := by
  rw [gives_iff]
  rintro ⟨globals, heq, hdefine⟩
  obtain rfl := done.inj heq
  have hfound := Global.rule?_eq_some_iff.2 hg
  have hfound' := Global.rule?_eq_some_iff.2 hg'
  have hlength := congrArg List.length (Global.define_iff.1 hdefine)
  simp only [List.filterMap_append, List.filterMap_cons, hfound, hfound', List.length_append,
    List.length_cons, List.length_nil] at hlength
  omega

/-- **A file without a rule says why.** -/
theorem rule?_eq_error_iff : m.rule? file = .error e ↔ m.Refuses file e := by
  cases m with
  | unsupported =>
    constructor
    · rintro ⟨⟩
      exact .unsupported
    · rintro ⟨⟩
      rfl
  | failed crash =>
    constructor
    · rintro ⟨⟩
      exact .failed crash
    · rintro ⟨⟩
      rfl
  | done globals =>
    rw [rule?]
    constructor
    · intro h
      split at h
      · cases h
      · rename_i hmany
        cases h
        refine .notOne (Global.define_iff.2 rfl) fun hlength => ?_
        obtain ⟨r, hr⟩ := List.length_eq_one_iff.1 hlength
        exact hmany r hr
    · intro h
      cases h with
      | notOne hdefine hlength =>
        rw [Global.define_iff.1 hdefine]
        split
        · exact absurd rfl hlength
        · rfl

/-- **Every import gives a rule or a reason why not**, and never both. -/
theorem gives_or_refuses (m : Import) (file : String) :
    (∃ r, m.Gives r ∧ ∀ e, ¬ m.Refuses file e) ∨ ∃ e, m.Refuses file e ∧ ∀ r, ¬ m.Gives r := by
  rcases h : m.rule? file with e | r
  · refine .inr ⟨e, rule?_eq_error_iff.1 h, fun r hr => ?_⟩
    exact nomatch h.symm.trans (rule?_eq_ok_iff.2 hr)
  · refine .inl ⟨r, rule?_eq_ok_iff.1 h, fun e he => ?_⟩
    exact nomatch h.symm.trans (rule?_eq_error_iff.2 he)

end Import

end TemplateLint
