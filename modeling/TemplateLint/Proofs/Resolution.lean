import TemplateLint.Run.Basic
import TemplateLint.Settings.Listing
import TemplateLint.Proofs.Builtins
import TemplateLint.Proofs.Imports
/-!
# Resolution — from settings that pass to a linter

Settings are checked once, as they are read. From settings that pass, and
whatever custom rules are found, a linter can always be built: no name is
taken twice, and every override can be laid over the settings of its rule.
What the linter has for a rule is what the settings say of it, and the
default for all that they do not say (`Settings.linter?_resolves`).
-/

namespace TemplateLint

namespace Table

theorem get?_cons (field : String × Value) (t : Table) (key : String) :
    get? (field :: t) key = if key = field.1 then some field.2 else get? t key := by
  obtain ⟨name, v⟩ := field
  rw [get?, List.lookup_cons, get?]
  by_cases h : key = name
  · rw [if_pos h, h, beq_self_eq_true]
  · rw [if_neg h, beq_eq_false_iff_ne.2 h]

theorem get?_nil (key : String) : get? [] key = none :=
  rfl

theorem get?_append (t t' : Table) (key : String) :
    get? (t ++ t') key = (get? t key).or (get? t' key) := by
  induction t with
  | nil => rfl
  | cons field t ih =>
    rw [List.cons_append, get?_cons, get?_cons, ih]
    split
    · rfl
    · rfl

theorem lookup_map {α β : Type} (f : String → α → β) (entries : List (String × α))
    (key : String) :
    (entries.map fun e => (e.1, f e.1 e.2)).lookup key = (entries.lookup key).map (f key) := by
  induction entries with
  | nil => rfl
  | cons e entries ih =>
    rw [List.map_cons, List.lookup_cons, List.lookup_cons, ih]
    by_cases h : key = e.1
    · rw [h, beq_self_eq_true]
      rfl
    · rw [beq_eq_false_iff_ne.2 h]

theorem isSome_get? (t : Table) (key : String) :
    (get? t key).isSome = t.any fun field => field.1 == key := by
  induction t with
  | nil => rfl
  | cons field t ih =>
    rw [get?_cons, List.any_cons, ← ih]
    by_cases h : key = field.1
    · rw [if_pos h, h, beq_self_eq_true]
      rfl
    · rw [if_neg h, beq_eq_false_iff_ne.2 (Ne.symm h), Bool.false_or]

theorem get?_replace (t : Table) (key : String) (v : Value) (other : String) :
    get? (t.map fun field => if field.1 == key then (key, v) else field) other =
      if other = key then (get? t key).map fun _ => v else get? t other := by
  induction t with
  | nil => simp [get?]
  | cons field t ih =>
    rw [List.map_cons, get?_cons, ih, get?_cons, get?_cons]
    grind

/-- **What is put is found**, and nothing else is changed. -/
theorem get?_put (t : Table) (key : String) (v : Value) (other : String) :
    (t.put key v).get? other = if other = key then some v else t.get? other := by
  have hkey := isSome_get? t key
  unfold put
  split
  · rename_i hany
    obtain ⟨old, hold⟩ := Option.isSome_iff_exists.1 (hkey.trans hany)
    rw [get?_replace, hold]
    rfl
  · rename_i hany
    have hnone : get? t key = none := Option.not_isSome_iff_eq_none.1 (hkey ▸ hany)
    rw [get?_append, get?_cons, get?_nil]
    split
    · rename_i heq
      rw [heq, hnone]
      rfl
    · exact Option.or_none

/-- **The last field wins.** Under a key stands what was laid over it last. -/
theorem get?_overlay (t upper : Table) (key : String) :
    (t.overlay upper).get? key = (get? upper.reverse key).or (t.get? key) := by
  induction upper generalizing t with
  | nil => rfl
  | cons field upper ih =>
    obtain ⟨name, v⟩ := field
    have hstep : t.overlay ((name, v) :: upper) = (t.put name v).overlay upper := rfl
    rw [hstep, ih, get?_put, List.reverse_cons, get?_append, Option.or_assoc, get?_cons]
    congr 1
    split
    · rfl
    · rfl

end Table

/-! ## What is said of a rule -/

namespace Settings

/-- What a value in the place of an override says under a key: a truth value says
whether the rule runs, a text how bad its offenses are, and a table what stands
in it. -/
def saidBy (v : Value) (key : String) : Option Value :=
  match v with
  | .bool b => if key = "enabled" then some (.bool b) else none
  | .str s => if key = "severity" then some (.str s) else none
  | v => v.field? key

/-- What a table of settings says of a rule under a key of an override. -/
def said? (t : Table) (rule key : String) : Option Value :=
  ((t.get? "rules").bind (·.field? rule)).bind (saidBy · key)

end Settings

/-- **What a rule is set to**, given its default and what is said of it under the
keys of an override: what is said, and the default where nothing is said.
Options are set one by one. -/
structure RuleSettings.Resolves (default result : RuleSettings) (said? : String → Option Value) :
    Prop where
  enabled : ∀ b, default.enabled = .bool b → result.enabled = (said? "enabled").getD (.bool b)
  severity : (said? "severity").elim (some default.severity) Settings.severityOf? =
    some result.severity
  included : .list result.included = (said? "include").getD (.list default.included)
  excluded : .list result.excluded = (said? "exclude").getD (.list default.excluded)
  options : ∃ upper, (said? "options").getD (.table []) = .table upper ∧
    ∀ key, result.options.get? key = (Table.get? upper.reverse key).or (default.options.get? key)

namespace RuleOverride

/-- An override holds what is said under its keys, and nothing else. -/
structure Holds (o : RuleOverride) (said? : String → Option Value) : Prop where
  enabled : said? "enabled" = o.enabled.map .bool
  severity : (said? "severity").map Settings.severityOf? = o.severity.map some
  options : said? "options" = o.options.map .table
  included : said? "include" = o.included.map .strings
  excluded : said? "exclude" = o.excluded.map .strings

/-- **Overlaying an override resolves what it holds.** -/
theorem Holds.resolves {o : RuleOverride} {said? : String → Option Value} (h : o.Holds said?)
    (default : RuleSettings) : default.Resolves (default.overriddenBy o) said? where
  enabled b hb := by
    rw [h.enabled, RuleSettings.overriddenBy, RuleSettings.isEnabled, hb]
    rcases henabled : o.enabled with _ | b'
    · exact ite_self _
    · rw [if_neg (by rw [isEmpty, henabled]; exact nofun)]
      rfl
  severity := by
    have hseverity := h.severity
    rw [RuleSettings.overriddenBy]
    rcases hsaid : said? "severity" with _ | v <;> rcases ho : o.severity with _ | severity <;>
      rw [hsaid, ho] at hseverity
    · rfl
    · cases hseverity
    · cases hseverity
    · exact Option.some.inj hseverity
  included := by
    rw [h.included, RuleSettings.overriddenBy]
    rcases o.included with _ | patterns
    · rfl
    · rfl
  excluded := by
    rw [h.excluded, RuleSettings.overriddenBy]
    rcases o.excluded with _ | patterns
    · rfl
    · rfl
  options := by
    refine ⟨o.options.getD [], ?_, fun key => ?_⟩
    · rw [h.options]
      rcases o.options with _ | upper
      · rfl
      · rfl
    · exact Table.get?_overlay _ _ _

end RuleOverride

/-! ## Overrides that pass -/

namespace Settings

/-- A part without a problem is the default, or what was read. -/
theorem checked_eq_of_problems {α : Type} {t : Table} {key : String} {default : α}
    {read : Value → Option α} {problem : SettingsProblem}
    (h : (checked t key default read problem).problems = []) :
    (t.get? key).elim (some default) read = some (checked t key default read problem).value := by
  unfold checked at h ⊢
  rcases hget : t.get? key with _ | v
  · rfl
  · rcases hread : read v with _ | a
    · simp only [hget, hread] at h
      exact absurd h (List.cons_ne_nil _ _)
    · simp only [hread, Option.elim]

/-- A part of an override without a problem is there if the key is. -/
theorem map_read_of_problems {α : Type} {rule : String} {t : Table} {key : String}
    {read : Value → Option α} {problem : String → SettingsProblem}
    (h : (overridePart rule t key read problem).problems = []) :
    (t.get? key).map read = (overridePart rule t key read problem).value.map some := by
  have hchecked := checked_eq_of_problems h
  change _ = some (overridePart rule t key read problem).value at hchecked
  rcases hget : t.get? key with _ | v
  · rw [hget] at hchecked
    rw [← Option.some.inj hchecked]
    rfl
  · rw [hget] at hchecked
    obtain ⟨a, ha, hvalue⟩ := Option.map_eq_some_iff.1 hchecked
    rw [← hvalue]
    exact congrArg some ha

/-- A part is what stands there, where reading only takes a value apart. -/
theorem get?_of_map_read {α : Type} {v? : Option Value} {part : Option α} {read : Value → Option α}
    {make : α → Value} (hread : ∀ v a, read v = some a → v = make a)
    (h : v?.map read = part.map some) : v? = part.map make := by
  rcases v? with _ | v <;> rcases part with _ | a
  · rfl
  · cases h
  · cases h
  · exact congrArg some (hread v a (Option.some.inj h))

theorem eq_bool_of_bool? (v : Value) (b : Bool) (h : v.bool? = some b) : v = .bool b := by
  cases v with
  | bool b' => rw [Option.some.inj h]
  | _ => cases h

theorem eq_table_of_table? (v : Value) (t : Table) (h : v.table? = some t) : v = .table t := by
  cases v with
  | table t' => rw [Option.some.inj h]
  | _ => cases h

theorem eq_map_str_of_mapM {values : List Value} {items : List String}
    (h : values.mapM Value.string? = some items) : values = items.map .str := by
  induction values generalizing items with
  | nil =>
    cases h
    rfl
  | cons value values ih =>
    rw [List.mapM_cons] at h
    obtain ⟨s, hs, h⟩ := Option.bind_eq_some_iff.1 h
    obtain ⟨rest, hrest, h⟩ := Option.bind_eq_some_iff.1 h
    cases h
    rw [List.map_cons, ← ih hrest]
    cases value with
    | str s' => rw [Option.some.inj hs]
    | _ => cases hs

theorem eq_strings_of_strings? (v : Value) (items : List String) (h : v.strings? = some items) :
    v = .strings items := by
  obtain ⟨values, hlist, hitems⟩ := Option.bind_eq_some_iff.1 h
  cases v with
  | list values' =>
    cases hlist
    rw [eq_map_str_of_mapM hitems, Value.strings]
  | _ => cases hlist

/-- **An override that passes holds what the value says.** -/
theorem holds_override {rule : String} {v : Value} (h : (override rule v).problems = []) :
    (override rule v).value.Holds (saidBy v) := by
  cases v with
  | bool b => exact ⟨rfl, rfl, rfl, rfl, rfl⟩
  | str s =>
    unfold override at h ⊢
    rcases hseverity : severityOf? (.str s) with _ | severity
    · simp only [hseverity] at h
      exact absurd h (List.cons_ne_nil _ _)
    · simp only [hseverity]
      exact ⟨rfl, congrArg some hseverity, rfl, rfl, rfl⟩
  | table t =>
    change (overrideTable rule t).problems = [] at h
    simp only [overrideTable, List.append_eq_nil_iff] at h
    obtain ⟨⟨⟨⟨⟨-, henabled⟩, hseverity⟩, hoptions⟩, hincluded⟩, hexcluded⟩ := h
    exact ⟨get?_of_map_read eq_bool_of_bool? (map_read_of_problems henabled),
      map_read_of_problems hseverity,
      get?_of_map_read eq_table_of_table? (map_read_of_problems hoptions),
      get?_of_map_read eq_strings_of_strings? (map_read_of_problems hincluded),
      get?_of_map_read eq_strings_of_strings? (map_read_of_problems hexcluded)⟩
  | _ => exact absurd h (List.cons_ne_nil _ _)

/-- Without an override nothing is said. -/
theorem holds_empty : RuleOverride.Holds {} fun _ => none :=
  ⟨rfl, rfl, rfl, rfl, rfl⟩

theorem holds_overrides {t : Table} (h : (overrides t).problems = []) (rule : String) :
    (((overrides t).value.lookup rule).getD {}).Holds (said? t rule) := by
  unfold overrides at h ⊢
  unfold said?
  rcases hrules : t.get? "rules" with _ | v
  · exact holds_empty
  · simp only [hrules] at h ⊢
    cases v with
    | table entries =>
      simp only [Option.bind_some, Value.field?, Value.table?] at h ⊢
      rw [Table.lookup_map fun name v => (override name v).value]
      change RuleOverride.Holds _ fun key => (entries.lookup rule).bind (saidBy · key)
      rcases hentry : entries.lookup rule with _ | v
      · exact holds_empty
      · obtain ⟨before, after, rfl, -⟩ := List.lookup_eq_some_iff.1 hentry
        exact holds_override (List.flatMap_eq_nil_iff.1 h (rule, v) (by simp))
    | _ => exact absurd h (List.cons_ne_nil _ _)

/-- **Settings that pass hold what is said of each rule.** -/
theorem holds_of_ofTable? {t : Table} {s : Settings} (h : ofTable? t = .ok s) (rule : String) :
    ((s.override? rule).getD {}).Holds (said? t rule) := by
  unfold ofTable? at h
  split at h
  · rename_i hempty
    cases h
    have hproblems : (overrides t).problems = [] := by
      have hall := List.isEmpty_iff.1 hempty
      simp only [problems, check, List.append_eq_nil_iff] at hall
      exact hall.2
    exact holds_overrides hproblems rule
  · cases h

end Settings

/-! ## Overrides that may fail -/

namespace RuleOverride

theorem get?_part {α : Type} (part : Option α) (name : String) (make : α → Value) (key : String) :
    Table.get? (part.toList.map fun a => (name, make a)) key =
      if key = name then part.map make else none := by
  rcases part with _ | a
  · exact (ite_self _).symm
  · exact Table.get?_cons (name, make a) [] key

/-- The parts of an override stand in its table, each under its key. -/
theorem get?_toTable (o : RuleOverride) :
    Table.get? o.toTable "enabled" = o.enabled.map .bool ∧
      Table.get? o.toTable "severity" = o.severity.map (fun s => .str s.word) ∧
      Table.get? o.toTable "options" = o.options.map .table ∧
      Table.get? o.toTable "include" = o.included.map .strings ∧
      Table.get? o.toTable "exclude" = o.excluded.map .strings := by
  simp [toTable, Table.get?_append, get?_part]

theorem toTable_eq_nil_iff (o : RuleOverride) : o.toTable = [] ↔ o.isEmpty := by
  simp [toTable, isEmpty, and_assoc]

theorem severityOf?_word (severity : Severity) :
    RuleSettings.severityOf? (.str severity.word) = .ok severity := by
  cases severity with
  | error => rfl
  | warning => rfl

/-- What stands under a key is read, if it was written to be. -/
theorem readD_eq_ok {α β : Type} {fields : Table} {key : String} {part : Option α}
    {make : α → Value} (read : Value → Except OverrideError β) (made : α → β)
    (hget : Table.get? fields key = part.map make) (hread : ∀ a, read (make a) = .ok (made a))
    (default : β) :
    RuleSettings.readD fields key default read = .ok ((part.map made).getD default) := by
  rw [RuleSettings.readD, hget]
  rcases part with _ | a
  · rfl
  · exact hread a

/-- **Laying an override over settings never fails**, and does what it says. -/
theorem changedBy?_toTable (s : RuleSettings) (o : RuleOverride) :
    s.changedBy? (.table o.toTable) = .ok (s.overriddenBy o) := by
  by_cases hempty : o.isEmpty
  · rw [(toTable_eq_nil_iff o).2 hempty]
    obtain ⟨enabled, severity, options, included, excluded⟩ := o
    simp only [isEmpty, Bool.and_eq_true, Option.isNone_iff_eq_none] at hempty
    obtain ⟨⟨⟨⟨rfl, rfl⟩, rfl⟩, rfl⟩, rfl⟩ := hempty
    rfl
  · have htruthy : (Value.table o.toTable).isTruthy = true := by
      rw [Value.isTruthy, Bool.not_eq_true', List.isEmpty_eq_false_iff]
      exact mt (toTable_eq_nil_iff o).1 hempty
    obtain ⟨henabled, hseverity, hoptions, hincluded, hexcluded⟩ := o.get?_toTable
    have hyes : (Table.get? o.toTable "enabled").elim s.isEnabled Value.isTruthy =
        o.enabled.getD s.isEnabled := by
      rw [henabled]
      rcases o.enabled with _ | b
      · rfl
      · rfl
    rw [RuleSettings.changedBy?, htruthy]
    simp only [readD_eq_ok RuleSettings.optionsOf? id hoptions (fun _ => rfl),
      readD_eq_ok RuleSettings.severityOf? id hseverity severityOf?_word,
      readD_eq_ok RuleSettings.patternsOf? (·.map .str) hincluded (fun _ => rfl),
      readD_eq_ok RuleSettings.patternsOf? (·.map .str) hexcluded (fun _ => rfl), hyes]
    rw [RuleSettings.overriddenBy, if_neg hempty]
    simp [bind, Except.bind, pure, Except.pure]

end RuleOverride

namespace Settings

/-- The overrides of settings as a value, by the names of rules. -/
def overridesValue (s : Settings) : Value :=
  .table (s.rules.map fun e => (e.1, .table e.2.toTable))

/-- **No override of settings fails**, whatever it is laid over. -/
theorem changedAmong?_overridesValue (s : Settings) (rule : String) (settings : RuleSettings) :
    RuleSettings.changedAmong? s.overridesValue rule settings =
      .ok (settings.overriddenBy ((s.override? rule).getD {})) := by
  have hget : Table.get? (s.rules.map fun e => (e.1, Value.table e.2.toTable)) rule =
      (s.override? rule).map fun o => .table o.toTable :=
    Table.lookup_map (fun _ (o : RuleOverride) => Value.table o.toTable) s.rules rule
  unfold RuleSettings.changedAmong?
  split
  · rename_i hfalsy
    have hrules : s.rules = [] := by
      simpa [overridesValue, Value.isTruthy] using hfalsy
    rw [override?, hrules]
    exact RuleOverride.changedBy?_toTable settings {}
  · simp only [overridesValue, hget]
    rcases s.override? rule with _ | o
    · exact RuleOverride.changedBy?_toTable settings {}
    · exact RuleOverride.changedBy?_toTable settings o

end Settings

/-! ## Names -/

namespace Linter

/-- A rule whose name can be a key: it has one, which is no list and no table. -/
def IsNamed (r : Rule) : Prop :=
  r.isNamed ∧ r.title.isPlain

/-- **Rules with different names make no trouble.** -/
theorem nameFault?_eq_none {seen : List String} {rules : List Rule}
    (hnamed : ∀ r ∈ rules, IsNamed r) (hnodup : (rules.map (·.name)).Nodup)
    (hfresh : ∀ r ∈ rules, r.name ∉ seen) : nameFault? seen rules = none := by
  induction rules generalizing seen with
  | nil => rfl
  | cons rule rules ih =>
    obtain ⟨hname, hplain⟩ := hnamed rule (.head _)
    obtain ⟨hdistinct, hnodup⟩ := List.nodup_cons.1 hnodup
    have hseen : seen.contains rule.name = false := by
      simpa using hfresh rule (.head _)
    rw [nameFault?, hname, hplain, hseen]
    refine ih (fun r hr => hnamed r (.tail _ hr)) hnodup fun r hr hmem => ?_
    rcases List.mem_cons.1 hmem with heq | hmem
    · exact hdistinct (List.mem_map.2 ⟨r, hr, heq⟩)
    · exact hfresh r (.tail _ hr) hmem

theorem resolve_ok (change : String → RuleSettings → RuleSettings) (rules : List Rule) :
    resolve (fun rule settings => .ok (change rule settings)) rules =
      .ok (rules.map fun r => ⟨r, change r.name r.settings⟩) := by
  induction rules with
  | nil => rfl
  | cons rule rules ih =>
    rw [resolve, ih]
    rfl

/-- **Rules with different names make a linter**, if nothing fails to change what
they are set to. -/
theorem exists_ofRules? {rules : List Rule} (hnamed : ∀ r ∈ rules, IsNamed r)
    (hnodup : (rules.map (·.name)).Nodup) (change : String → RuleSettings → RuleSettings)
    (equipment : Equipment) :
    ∃ l, ofRules? rules (fun rule settings => .ok (change rule settings)) equipment = .ok l ∧
      l.rules = rules.map fun r => ⟨r, change r.name r.settings⟩ := by
  have hfault : nameFault? [] rules = none :=
    nameFault?_eq_none hnamed hnodup fun _ _ => List.not_mem_nil
  unfold ofRules?
  split
  · rename_i e he
    exact absurd (hfault.symm.trans he) nofun
  · split
    · rename_i e he
      exact absurd ((resolve_ok change rules).symm.trans he) nofun
    · rename_i bound hbound
      exact ⟨_, rfl, (Except.ok.inj ((resolve_ok change rules).symm.trans hbound)).symm⟩

end Linter

/-- An instance that is a rule has a text for a name. -/
theorem Instance.IsRule.isNamed {i : Instance} (h : i.IsRule) : Linter.IsNamed i.rule := by
  refine ⟨h.named, ?_⟩
  have htitle := h.title
  cases hvalue : i.rule.title with
  | str s => rfl
  | _ =>
    rw [hvalue] at htitle
    cases htitle

namespace CustomRules

variable {imports : Path → Import} {file : Path} {r : Rule}

theorem ruleIn?_eq_ok_iff : ruleIn? imports file = .ok r ↔ (imports file).Gives r :=
  Import.rule?_eq_ok_iff

/-- A file gives a rule with a text for a name. -/
theorem isNamed_of_ruleIn? (h : ruleIn? imports file = .ok r) : Linter.IsNamed r := by
  obtain ⟨i, hrule, rfl⟩ := (ruleIn?_eq_ok_iff.1 h).exists_isRule
  exact hrule.isNamed

/-- **Loading keeps names apart.** The rules that are kept have names, which differ
from each other and from those known before. -/
theorem load_distinct (imports : Path → Import) (known : List KnownRule) (files : List Path) :
    (∀ r ∈ (load imports known files).loaded.map (·.rule), Linter.IsNamed r ∧
      r.name ∉ known.map (·.name)) ∧
      (((load imports known files).loaded.map (·.rule)).map (·.name)).Nodup := by
  induction files generalizing known with
  | nil => exact ⟨nofun, List.nodup_nil⟩
  | cons file files ih =>
    unfold load
    split
    · exact ih known
    · rename_i rule hrule
      split
      · exact ih known
      · -- The rule is known to those behind it.
        rename_i hfresh
        have hunknown : rule.name ∉ known.map (·.name) := fun hmem => by
          obtain ⟨k, hk, hname⟩ := List.mem_map.1 hmem
          exact List.find?_eq_none.1 hfresh k hk (beq_iff_eq.2 hname)
        obtain ⟨hrules, hnodup⟩ := ih (⟨rule.name, file.toString⟩ :: known)
        refine ⟨fun r hr => ?_, List.nodup_cons.2 ⟨fun hmem => ?_, hnodup⟩⟩
        · rcases List.mem_cons.1 hr with rfl | hr
          · exact ⟨isNamed_of_ruleIn? hrule, hunknown⟩
          · exact ⟨(hrules r hr).1, fun hmem => (hrules r hr).2 (.tail _ hmem)⟩
        · obtain ⟨r, hr, hname⟩ := List.mem_map.1 hmem
          exact (hrules r hr).2 (List.mem_cons.2 (.inl hname))

end CustomRules

/-- The rules of the library have different names. -/
theorem Linter.isNamed_of_mem_builtins {r : Rule} (h : r ∈ Rule.builtins) : Linter.IsNamed r := by
  have hall : ∀ r ∈ Rule.builtins, r.isNamed ∧ r.title.isPlain := by
    decide
  exact hall r h

/-! ## The linter of settings -/

namespace Settings

/-- The rules of the library and what is loaded beside them. -/
def allRules (imports : Path → Import) (home : String) (files : List Path) : List Rule :=
  Rule.builtins ++
    (CustomRules.load imports (Rule.builtins.map (KnownRule.ofBuiltin home)).reverse
      files).loaded.map (·.rule)

theorem allRules_distinct (imports : Path → Import) (home : String) (files : List Path) :
    (∀ r ∈ allRules imports home files, Linter.IsNamed r) ∧
      ((allRules imports home files).map (·.name)).Nodup := by
  obtain ⟨hrules, hnodup⟩ :=
    CustomRules.load_distinct imports (Rule.builtins.map (KnownRule.ofBuiltin home)).reverse files
  refine ⟨fun r hr => ?_, ?_⟩
  · rcases List.mem_append.1 hr with hr | hr
    · exact Linter.isNamed_of_mem_builtins hr
    · exact (hrules r hr).1
  · rw [allRules, List.map_append, List.nodup_append]
    refine ⟨by decide, hnodup, fun name hname name' hname' heq => ?_⟩
    obtain ⟨r, hr, rfl⟩ := List.mem_map.1 hname'
    refine (hrules r hr).2 ?_
    rw [List.map_reverse, List.mem_reverse, List.map_map, ← heq]
    exact hname

/-- **What is loaded makes a linter**, with any settings. -/
theorem exists_linter? (s : Settings) (imports : Path → Import) (home : String)
    (files : List Path) (equipment : Equipment) :
    ∃ l, s.linter? ((CustomRules.load imports (Rule.builtins.map (KnownRule.ofBuiltin home)).reverse
        files).loaded.map (·.rule)) equipment = .ok l ∧
      l.rules = (allRules imports home files).map fun r =>
        ⟨r, r.settings.overriddenBy ((s.override? r.name).getD {})⟩ := by
  obtain ⟨hnamed, hnodup⟩ := allRules_distinct imports home files
  exact Linter.exists_ofRules? hnamed hnodup
    (fun rule settings => settings.overriddenBy ((s.override? rule).getD {})) _

/-- **Settings that pass always make a linter.** Whatever files of custom rules
there are, and whatever importing them comes to, the rules that are loaded have
names of their own, beside the rules of the library too. No override fails, and
each rule is set to what the settings say of it, and to its default where they
say nothing. -/
theorem linter?_resolves {t : Table} {s : Settings} (hs : ofTable? t = .ok s)
    (imports : Path → Import) (home : String) (files : List Path) (equipment : Equipment) :
    let custom := (CustomRules.load imports (Rule.builtins.map (KnownRule.ofBuiltin home)).reverse
      files).loaded.map (·.rule)
    ∃ l, s.linter? custom equipment = .ok l ∧
      Linter.ofRules? (Rule.builtins ++ custom) (RuleSettings.changedAmong? s.overridesValue)
        { equipment with scope := s.scope, ignoresComments := s.ignoresComments } = .ok l ∧
      l.rules.map (·.rule) = Rule.builtins ++ custom ∧
      ∀ b ∈ l.rules, b.rule.settings.Resolves b.settings (said? t b.name) := by
  intro custom
  obtain ⟨l, hl, hrules⟩ := s.exists_linter? imports home files equipment
  have hchange : RuleSettings.changedAmong? s.overridesValue =
      fun rule settings => .ok (settings.overriddenBy ((s.override? rule).getD {})) := by
    funext rule settings
    exact changedAmong?_overridesValue s rule settings
  refine ⟨l, hl, hchange ▸ hl, ?_, fun b hb => ?_⟩
  · rw [hrules, List.map_map]
    exact List.map_id _
  · rw [hrules] at hb
    obtain ⟨r, -, rfl⟩ := List.mem_map.1 hb
    exact (holds_of_ofTable? hs r.name).resolves r.settings

/-- A file with a class of its own beside one that it imports, and settings for the
rule that it makes: the offenses of the rule are warnings, and it has the option
that is set. -/
theorem linter?_resolves_ownRule :
    let t : Table := [("rules", .table [("erb-no-extra-newline", .str "WARNING"),
      ("own", .table [("severity", .str "Warning"), ("options", .table [("limit", .int 2)])])])]
    let made (name : String) : Except Crash Instance :=
      .ok ⟨{ name, kind := .source, check := fun _ _ => .ok [] }, true⟩
    let imports : Path → Import := fun _ =>
      .done [.noClass, .ofClass ⟨false, made "imported"⟩, .ofClass ⟨true, made "own"⟩]
    let custom := (CustomRules.load imports (Rule.builtins.map (KnownRule.ofBuiltin "")).reverse
      [⟨.root, [['r', '.', 'p', 'y']]⟩]).loaded.map (·.rule)
    ∃ l, (check t).value.linter? custom {} = .ok l ∧
      ∃ b ∈ l.rules, b.name = "own" ∧ b.settings.severity = .warning ∧
        b.settings.options.get? "limit" = some (.int 2) := by
  intro t made imports custom
  have hs : ofTable? t = .ok (check t).value := if_pos (by decide +kernel)
  obtain ⟨l, hl, -, hrules, hresolves⟩ :=
    linter?_resolves hs imports "" [⟨.root, [['r', '.', 'p', 'y']]⟩] {}
  have hown : "own" ∈ (Rule.builtins ++ custom).map (·.name) := by
    decide +kernel
  rw [← hrules, List.map_map] at hown
  obtain ⟨b, hb, hname⟩ := List.mem_map.1 hown
  have hname : b.name = "own" := hname
  obtain ⟨-, hseverity, -, -, upper, hupper, hoptions⟩ := hresolves b hb
  rw [hname] at hseverity hupper
  refine ⟨l, hl, b, hb, hname, ?_, ?_⟩
  · have hwarning : severityOf? (.str "Warning") = some .warning := by
      decide
    exact (Option.some.inj (hwarning.symm.trans hseverity)).symm
  · obtain rfl : [("limit", .int 2)] = upper := Value.table.inj hupper
    exact hoptions "limit"

end Settings

/-! ## Runs -/

section Except

variable {α β ε ε' : Type} {x : Except ε α}

theorem error_of_bind {f : α → Except ε β} {e : ε} (h : (x >>= f) = .error e) :
    x = .error e ∨ ∃ a, x = .ok a ∧ f a = .error e := by
  cases x with
  | error e' => exact .inl (congrArg Except.error (Except.error.inj h))
  | ok a => exact .inr ⟨a, rfl, h⟩

theorem error_of_mapError {f : ε → ε'} {e : ε'} (h : x.mapError f = .error e) :
    ∃ e', x = .error e' ∧ f e' = e := by
  cases x with
  | error e' => exact ⟨e', rfl, Except.error.inj h⟩
  | ok a => cases h

theorem ok_of_mapError {f : ε → ε'} {a : α} (h : x.mapError f = .ok a) : x = .ok a := by
  cases x with
  | error e => cases h
  | ok a' => exact congrArg Except.ok (Except.ok.inj h)

end Except

namespace CustomRules

/-- What is loaded below a directory is what some files give. -/
theorem exists_loaded_of_loadAll {imports : Path → Import} {root : FileTree} {directory : Path}
    {patterns : List String} {known : List KnownRule} {loading : Loading}
    (h : loadAll imports root directory patterns known = .ok loading) :
    ∃ files, loading.loaded = (load imports known.reverse files).loaded := by
  simp only [loadAll, bind, Except.bind] at h
  split at h
  · cases h
  · cases h
    exact ⟨_, rfl⟩

end CustomRules

namespace Setup

theorem error_of_plugin? {modules : List Module} {reference : Option String}
    {failure : RunFailure} (h : plugin? modules reference = .error failure) :
    ∃ e, failure.error = .plugin e := by
  unfold plugin? at h
  split at h
  · cases h
  · split at h
    · cases h
    · cases h
      exact ⟨_, rfl⟩

/-- **No run breaks off over its rules.** A parser may be missing and a search may
fail, but what is loaded makes a linter. -/
theorem error_ofProject?_ne {w : Workspace} {p : Project} {failure : RunFailure}
    (h : ofProject? w p = .error failure) (e : LinterError) : failure.error ≠ .rules e := by
  intro hrules
  rcases error_of_bind h with hparser | ⟨parser, -, h⟩
  · obtain ⟨e', he'⟩ := error_of_plugin? hparser
    exact nomatch he'.symm.trans hrules
  rcases error_of_bind h with hprinter | ⟨printer, -, h⟩
  · obtain ⟨e', he'⟩ := error_of_plugin? hprinter
    exact nomatch he'.symm.trans hrules
  rcases error_of_bind h with hsearch | ⟨loading, hload, h⟩
  · obtain ⟨e', -, rfl⟩ := error_of_mapError hsearch
    exact nomatch hrules
  rcases error_of_bind h with hlinter | ⟨l, -, h⟩
  · obtain ⟨e', he', -⟩ := error_of_mapError hlinter
    obtain ⟨files, hfiles⟩ := CustomRules.exists_loaded_of_loadAll (ok_of_mapError hload)
    obtain ⟨l, hl, -⟩ := p.settings.exists_linter? w.imports w.home files
      { parse := parser.map Callable.parse, print := printer.map Callable.print }
    rw [hfiles] at he'
    exact nomatch hl.symm.trans he'
  · cases h

end Setup

end TemplateLint
