import Mathlib.Data.List.Basic
import Mathlib.Data.List.Forall2
import Mathlib.Data.List.Nodup
import TemplateLint.Proofs.ReadBack
import TemplateLint.Proofs.Text
/-!
# Problems — each key of a table is judged on its own

The problems with a table of settings are those of its keys, one after another,
and what is wrong with a key is what is wrong with the table that holds this key
alone (`Settings.problems_eq`). In the same way the problems with the overrides
are those of the entries. So a change to one key, or to one entry, leaves all that
is said of the others as it is (`Settings.problems_change`,
`Settings.problems_change_entries`). A table without problems is read as settings
that can be used as they are (`Project.ofTable?_reportsAll`).
-/

namespace TemplateLint

namespace Settings

/-- The keys of settings, in the order in which they are judged. -/
def keys : List String :=
  ["include", "exclude", "custom_rules", "output_format", "disable_scope",
    "ignore_disable_comments", "parser", "printer", "max_fix_iterations", "jobs", "rules"]

/-- **What is wrong with the value under a key**, whatever else is in the table. -/
def problemsUnder (t : Table) (key : String) : List SettingsProblem :=
  (t.get? key).elim [] fun v => problems [(key, v)]

/-- What is wrong with some overrides. -/
def entryProblems (entries : Table) : List SettingsProblem :=
  problems [("rules", .table entries)]

variable {t t' : Table} {key : String}

/-! ## Key by key -/

theorem problems_checked {α : Type} (t : Table) (key : String) (default : α)
    (read : Value → Option α) (problem : SettingsProblem) :
    (checked t key default read problem).problems =
      (t.get? key).elim [] fun v => if (read v).isSome then [] else [problem] := by
  unfold checked
  rcases t.get? key with _ | v
  · rfl
  · dsimp only [Option.elim]
    rcases read v with _ | a
    · rfl
    · rfl

/-- What is wrong with the value in the place of the overrides. -/
def problemsOfRules : Value → List SettingsProblem
  | .table entries => entries.flatMap fun entry => (override entry.1 entry.2).problems
  | _ => [.notTable "rules"]

theorem problems_overrides (t : Table) :
    (overrides t).problems = (t.get? "rules").elim [] problemsOfRules := by
  unfold overrides
  rcases t.get? "rules" with _ | v
  · rfl
  · cases v with
    | _ => rfl

/-- **The problems with a table** are those of its keys, one key after another. -/
theorem problems_eq (t : Table) : problems t = keys.flatMap (problemsUnder t) := by
  -- Each part looks under its own key, where a table of another key holds nothing.
  simp [keys, problemsUnder, problems, check, patterns, word, positive, reference,
    problems_checked, problems_overrides, Table.get?_cons, Table.get?_nil]

/-- The problems with overrides are those of the entries. -/
theorem entryProblems_eq (entries : Table) :
    entryProblems entries = entries.flatMap fun entry => (override entry.1 entry.2).problems := by
  simp [entryProblems, problems, check, patterns, word, positive, reference, problems_checked,
    problems_overrides, problemsOfRules, Table.get?_cons, Table.get?_nil]

theorem entryProblems_append (entries entries' : Table) :
    entryProblems (entries ++ entries') = entryProblems entries ++ entryProblems entries' := by
  rw [entryProblems_eq, entryProblems_eq, entryProblems_eq, List.flatMap_append]

theorem entryProblems_eq_flatMap (entries : Table) :
    entryProblems entries = entries.flatMap fun entry => entryProblems [entry] := by
  simp only [entryProblems_eq, List.flatMap_singleton]

theorem problemsUnder_rules {entries : Table} (h : t.get? "rules" = some (.table entries)) :
    problemsUnder t "rules" = entryProblems entries := by
  rw [problemsUnder, h]
  rfl

/-! ## Changes -/

theorem problemsUnder_congr (h : t'.get? key = t.get? key) :
    problemsUnder t' key = problemsUnder t key := by
  rw [problemsUnder, problemsUnder, h]

/-- Nothing is wrong with a key that no settings have. -/
theorem problemsUnder_eq_nil (hkey : key ∉ keys) (t : Table) : problemsUnder t key = [] := by
  unfold problemsUnder
  rcases t.get? key with _ | v
  · rfl
  · change problems [(key, v)] = []
    rw [problems_eq, List.flatMap_eq_nil_iff]
    intro other hother
    have hne : other ≠ key := fun heq => hkey (heq ▸ hother)
    rw [problemsUnder, Table.get?_cons, if_neg hne]
    rfl

/-- **A change to one key** leaves what is wrong with the others as it is. -/
theorem problems_change (h : ∀ other, other ≠ key → t'.get? other = t.get? other) :
    ∃ before after, problems t = before ++ problemsUnder t key ++ after ∧
      problems t' = before ++ problemsUnder t' key ++ after := by
  have hsame : ∀ others : List String, key ∉ others →
      others.flatMap (problemsUnder t') = others.flatMap (problemsUnder t) := by
    intro others hkey
    refine List.flatMap_congr fun other hother => problemsUnder_congr (h other ?_)
    exact fun heq => hkey (heq ▸ hother)
  by_cases hkey : key ∈ keys
  · obtain ⟨earlier, later, hkeys⟩ := List.append_of_mem hkey
    have hdistinct : (earlier ++ key :: later).Nodup := by
      rw [← hkeys]
      decide
    obtain ⟨hearlier, hlater⟩ := not_or.1 fun hmem =>
      (List.nodup_middle.1 hdistinct).notMem (List.mem_append.2 hmem)
    refine ⟨earlier.flatMap (problemsUnder t), later.flatMap (problemsUnder t), ?_, ?_⟩
    · rw [problems_eq, hkeys, List.flatMap_append, List.flatMap_cons, List.append_assoc]
    · rw [problems_eq, hkeys, List.flatMap_append, List.flatMap_cons, List.append_assoc,
        hsame earlier hearlier, hsame later hlater]
  · refine ⟨problems t, [], ?_, ?_⟩
    · rw [problemsUnder_eq_nil hkey, List.append_nil, List.append_nil]
    · rw [problemsUnder_eq_nil hkey, List.append_nil, List.append_nil, problems_eq, problems_eq,
        hsame keys hkey]

/-- **A change to some entries** of the overrides leaves what is wrong with the others
as it is, whether entries are changed, added or removed. -/
theorem problems_change_entries {earlier later changed changed' : Table}
    (h : ∀ other, other ≠ "rules" → t'.get? other = t.get? other)
    (hrules : t.get? "rules" = some (.table (earlier ++ changed ++ later)))
    (hrules' : t'.get? "rules" = some (.table (earlier ++ changed' ++ later))) :
    ∃ before after, problems t = before ++ entryProblems changed ++ after ∧
      problems t' = before ++ entryProblems changed' ++ after := by
  obtain ⟨before, after, ht, ht'⟩ := problems_change h
  rw [problemsUnder_rules hrules, entryProblems_append, entryProblems_append] at ht
  rw [problemsUnder_rules hrules', entryProblems_append, entryProblems_append] at ht'
  refine ⟨before ++ entryProblems earlier, entryProblems later ++ after, ?_, ?_⟩
  · simpa only [List.append_assoc] using ht
  · simpa only [List.append_assoc] using ht'

/-! ## Settings without problems -/

/-- **A text names a callable**: a module and the callable with a colon between them,
neither of them empty, and no further colon. -/
def NamesCallable (s : String) : Prop :=
  ∃ module callable : Text, s.toList = module ++ ':' :: callable ∧ module ≠ [] ∧ callable ≠ [] ∧
    ':' ∉ module ∧ ':' ∉ callable

theorem isReference_iff {s : String} : isReference s ↔ NamesCallable s := by
  unfold isReference
  constructor
  · intro h
    split at h
    · rename_i module callable hsplit
      rw [Bool.and_eq_true, Bool.not_eq_true', Bool.not_eq_true', List.isEmpty_eq_false_iff,
        List.isEmpty_eq_false_iff] at h
      have hjoined := Text.intercalate_splitAt ':' s.toList
      have hpieces : ∀ piece ∈ Text.splitAt ':' s.toList, ':' ∉ piece :=
        fun _ hpiece => Text.notMem_of_mem_splitAt hpiece
      rw [hsplit] at hjoined hpieces
      rw [List.intercalate_cons_cons, List.intercalate_singleton, List.append_assoc] at hjoined
      exact ⟨module, callable, hjoined.symm, h.1, h.2, hpieces _ (.head _),
        hpieces _ (.tail _ (.head _))⟩
    · cases h
  · rintro ⟨module, callable, hs, hmodule, hcallable, hcolon, hcolon'⟩
    have hsplit : Text.splitAt ':' s.toList = [module, callable] := by
      rw [hs, Text.splitAt_append, Text.splitAt_of_notMem hcolon, Text.splitAt_of_notMem hcolon']
      rfl
    rw [hsplit]
    simp [hmodule, hcallable]

/-- **A value is written for an override**, in one of three forms. -/
inductive IsOverride : Value → RuleOverride → Prop
  /-- A truth value says whether the rule runs. -/
  | switch (b : Bool) : IsOverride (.bool b) { enabled := some b }
  /-- A word is the severity. -/
  | word {s : String} {severity : Severity} : severityOf? (.str s) = some severity →
      IsOverride (.str s) { severity := some severity }
  /-- A table has keys of an override only, each with what the override holds. -/
  | table {t : Table} {o : RuleOverride} : (∀ key ∈ t.keys, key ∈ overrideKeys) →
      o.Holds t.get? → IsOverride (.table t) o

theorem unknownKeys_eq_nil_iff : unknownKeys t = [] ↔ ∀ key ∈ t.keys, key ∈ overrideKeys := by
  have hempty : unknownKeys t = [] ↔
      t.keys.filter (fun key => !overrideKeys.contains key) = [] := by
    rw [unknownKeys, ← List.length_eq_zero_iff, List.length_mergeSort, List.length_eq_zero_iff]
  rw [hempty, List.filter_eq_nil_iff]
  simp

/-- **What passes is written for the override** that it is read as. -/
theorem isOverride_of_problems {rule : String} {v : Value} (h : (override rule v).problems = []) :
    IsOverride v (override rule v).value := by
  have hholds := holds_override h
  cases v with
  | bool b => exact .switch b
  | str s =>
    unfold override at h ⊢
    rcases hseverity : severityOf? (.str s) with _ | severity
    · simp only [hseverity] at h
      exact absurd h (List.cons_ne_nil _ _)
    · simp only [hseverity]
      exact .word hseverity
  | table t =>
    change (overrideTable rule t).problems = [] at h
    simp only [overrideTable, List.append_eq_nil_iff] at h
    have hunknown : unknownKeys t = [] := by
      have hproblems := h.1.1.1.1.1
      split at hproblems
      · rename_i hempty
        exact List.isEmpty_iff.1 hempty
      · exact absurd hproblems (List.cons_ne_nil _ _)
    exact .table (unknownKeys_eq_nil_iff.1 hunknown) hholds
  | _ => exact absurd h (List.cons_ne_nil _ _)

/-- **Settings that can be used as they are**, given the table that they are read
from. -/
structure IsUsable (s : Settings) (t : Table) : Prop where
  jobs : 1 ≤ s.jobs
  passes : 1 ≤ s.passes
  parser : ∀ reference ∈ s.parser, NamesCallable reference
  printer : ∀ reference ∈ s.printer, NamesCallable reference
  /-- Each entry is written for the override of its rule. -/
  rules : ∃ entries, (t.get? "rules").getD (.table []) = .table entries ∧
    List.Forall₂ (fun entry named => entry.1 = named.1 ∧ IsOverride entry.2 named.2) entries s.rules

theorem isUsable_check (h : problems t = []) : (check t).value.IsUsable t where
  jobs := (isSound_check t).jobs
  passes := (isSound_check t).passes
  parser reference h := isReference_iff.1 ((isSound_check t).parser reference h)
  printer reference h := isReference_iff.1 ((isSound_check t).printer reference h)
  rules := by
    have hproblems : (overrides t).problems = [] := by
      simp only [problems, check, List.append_eq_nil_iff] at h
      exact h.2
    change ∃ entries, _ ∧ List.Forall₂ _ entries (overrides t).value
    unfold overrides at hproblems ⊢
    rcases hrules : t.get? "rules" with _ | v
    · exact ⟨[], rfl, .nil⟩
    · simp only [hrules] at hproblems
      cases v with
      | table entries =>
        have hentries := List.flatMap_eq_nil_iff.1 hproblems
        refine ⟨entries, rfl, List.forall₂_map_right_iff.2 ?_⟩
        exact List.forall₂_same.2 fun entry hentry =>
          ⟨rfl, isOverride_of_problems (hentries entry hentry)⟩
      | _ => exact absurd hproblems (List.cons_ne_nil _ _)

/-- **A table is judged key by key**, and entry by entry. -/
structure IsJudgedByKey (t : Table) : Prop where
  /-- The problems are those of the keys, one key after another. -/
  keys : problems t = keys.flatMap (problemsUnder t)
  /-- Those of the overrides are those of the entries, one entry after another. -/
  entries : ∀ entries, t.get? "rules" = some (.table entries) →
    problemsUnder t "rules" = entries.flatMap fun entry => entryProblems [entry]
  /-- What is wrong with other keys stays as it is when a key is changed. -/
  change : ∀ (key : String) (t' : Table), (∀ other, other ≠ key → t'.get? other = t.get? other) →
    ∃ before after, problems t = before ++ problemsUnder t key ++ after ∧
      problems t' = before ++ problemsUnder t' key ++ after
  /-- What is wrong with other entries stays as it is when some are changed. -/
  changeEntries : ∀ (earlier later changed changed' t' : Table),
    (∀ other, other ≠ "rules" → t'.get? other = t.get? other) →
    t.get? "rules" = some (.table (earlier ++ changed ++ later)) →
    t'.get? "rules" = some (.table (earlier ++ changed' ++ later)) →
    ∃ before after, problems t = before ++ entryProblems changed ++ after ∧
      problems t' = before ++ entryProblems changed' ++ after

theorem isJudgedByKey (t : Table) : IsJudgedByKey t where
  keys := problems_eq t
  entries entries hrules := (problemsUnder_rules hrules).trans (entryProblems_eq_flatMap entries)
  change _ _ := problems_change
  changeEntries _ _ _ _ _ := problems_change_entries

theorem problems_eq_nil_iff : problems t = [] ↔ ∀ key ∈ keys, problemsUnder t key = [] := by
  rw [problems_eq, List.flatMap_eq_nil_iff]

end Settings

namespace Project

open Settings

/-- **All that is wrong with a table is reported, and nothing else.** Each key is
judged on its own; where nothing is wrong with any key the table is read as settings
that can be used, and else the error tells of all that is wrong, key after key. -/
theorem ofTable?_reportsAll (t : Table) (file : Option Path) :
    IsJudgedByKey t ∧
      (((∀ key ∈ keys, problemsUnder t key = []) ∧
          ∃ s, ofTable? t file = .ok ⟨s, file⟩ ∧ s.IsUsable t) ∨
        ((∃ key ∈ keys, problemsUnder t key ≠ []) ∧
          ofTable? t file = .error (.invalid file (problems t)) ∧
          (ProjectError.invalid file (problems t)).message =
            SettingsProblem.report (keys.flatMap (problemsUnder t)))) := by
  refine ⟨isJudgedByKey t, ?_⟩
  by_cases hnone : problems t = []
  · have hok : Settings.ofTable? t = .ok (check t).value :=
      if_pos (List.isEmpty_iff.2 hnone)
    refine .inl ⟨problems_eq_nil_iff.1 hnone, _, ?_, isUsable_check hnone⟩
    rw [ofTable?, hok]
  · have herror : Settings.ofTable? t = .error (problems t) :=
      if_neg fun hempty => hnone (List.isEmpty_iff.1 hempty)
    have hsome : ∃ key ∈ keys, problemsUnder t key ≠ [] := by
      rw [problems_eq_nil_iff] at hnone
      simpa only [not_forall, exists_prop] using hnone
    refine .inr ⟨hsome, ?_, ?_⟩
    · rw [ofTable?, herror]
    · exact congrArg SettingsProblem.report (problems_eq t)

/-- A truth value is no number, and of two entries only the one that is no override is
told of. -/
example : problems [("jobs", .bool true),
    ("rules", .table [("a", .str "ERROR"), ("b", .int 3)])] =
      [.notPositive "jobs", .notOverride "rules.b"] := by
  decide +kernel

end Project

end TemplateLint
