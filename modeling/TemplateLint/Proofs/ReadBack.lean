import TemplateLint.Proofs.Resolution
import TemplateLint.Settings.File
/-!
# Reading back — a listing of settings is a table of settings

The settings of a project are listed as a table, in which every key is written
out: a shorthand for an override has become a table, a word stands for each
choice, and nothing for a plugin that there is none of. What is listed is read
as the settings it was made from (`Settings.check_toTable`). It has a JSON
form if what the settings were read from has one, so that a listing in JSON is
a file of the same settings (`Project.ofTable?_toValue`).
-/

namespace TemplateLint

/-! ## Values with a JSON form -/

namespace Value

/-- The value has a JSON form: no moment is in it, and no whole number of too
many digits. -/
def IsRepresentable (v : Value) : Prop :=
  ∀ leaf ∈ v.leaves, leaf.isMoment = false ∧ leaf.isOversized = false

instance (v : Value) : Decidable v.IsRepresentable :=
  inferInstanceAs (Decidable (∀ leaf ∈ v.leaves, leaf.isMoment = false ∧ leaf.isOversized = false))

theorem mem_fieldLeaves {fields : Table} {leaf : Value} :
    leaf ∈ fieldLeaves fields ↔ ∃ field ∈ fields, leaf ∈ field.2.leaves := by
  induction fields with
  | nil => simp [fieldLeaves]
  | cons field fields ih => simp [fieldLeaves, ih]

theorem mem_leavesOf {items : List Value} {leaf : Value} :
    leaf ∈ leavesOf items ↔ ∃ v ∈ items, leaf ∈ v.leaves := by
  induction items with
  | nil => simp [leavesOf]
  | cons v items ih => simp [leavesOf, ih]

theorem isRepresentable_table_iff {fields : Table} :
    (table fields).IsRepresentable ↔ ∀ field ∈ fields, field.2.IsRepresentable := by
  refine ⟨fun h field hfield leaf hleaf => ?_, fun h leaf hleaf => ?_⟩
  · exact h leaf (mem_fieldLeaves.2 ⟨field, hfield, hleaf⟩)
  · obtain ⟨field, hfield, hleaf⟩ := mem_fieldLeaves.1 hleaf
    exact h field hfield leaf hleaf

theorem isRepresentable_list_iff {items : List Value} :
    (list items).IsRepresentable ↔ ∀ v ∈ items, v.IsRepresentable := by
  refine ⟨fun h v hv leaf hleaf => ?_, fun h leaf hleaf => ?_⟩
  · exact h leaf (mem_leavesOf.2 ⟨v, hv, hleaf⟩)
  · obtain ⟨v, hv, hleaf⟩ := mem_leavesOf.1 hleaf
    exact h v hv leaf hleaf

theorem isRepresentable_iff_of_isPlain {v : Value} (h : v.isPlain) :
    v.IsRepresentable ↔ v.isMoment = false ∧ v.isOversized = false := by
  have hleaves : v.leaves = [v] := by
    cases v with
    | list | table => cases h
    | _ => rfl
  simp [IsRepresentable, hleaves]

theorem isRepresentable_str (s : String) : (str s).IsRepresentable :=
  (isRepresentable_iff_of_isPlain rfl).2 ⟨rfl, rfl⟩

/-- A number below the most digits has fewer digits. -/
theorem isRepresentable_natCast {n : Nat} (h : n < mostDigits) : (int n).IsRepresentable := by
  have hpow : ∀ digits, n < digits → n < Nat.pow 10 digits :=
    fun digits hn => Nat.lt_trans hn (Nat.lt_pow_self (by decide))
  refine (isRepresentable_iff_of_isPlain rfl).2 ⟨rfl, ?_⟩
  rw [isOversized, Int.natAbs_natCast]
  exact decide_eq_false (Nat.not_le.2 (hpow _ h))

theorem isRepresentable_strings (items : List String) : (strings items).IsRepresentable := by
  refine isRepresentable_list_iff.2 fun v hv => ?_
  obtain ⟨s, -, rfl⟩ := List.mem_map.1 hv
  exact isRepresentable_str s

theorem isRepresentable_ofOption (s : Option String) : (ofOption s).IsRepresentable := by
  cases s with
  | none => exact (isRepresentable_iff_of_isPlain rfl).2 ⟨rfl, rfl⟩
  | some s => exact isRepresentable_str s

theorem IsRepresentable.of_get? {t : Table} (h : (table t).IsRepresentable) {key : String}
    {v : Value} (hv : t.get? key = some v) : v.IsRepresentable := by
  obtain ⟨before, after, rfl, -⟩ := List.lookup_eq_some_iff.1 hv
  exact isRepresentable_table_iff.1 h (key, v) (by simp)

mutual

/-- **A value without a moment is written.** -/
theorem exists_jsonAt? {v : Value} (h : ∀ leaf ∈ v.leaves, leaf.isMoment = false)
    (indented : Bool) (depth : Nat) : ∃ text, jsonAt? indented depth v = some text := by
  cases v with
  | moment m => exact absurd (h (.moment m) (.head _)) (by simp [isMoment])
  | list items =>
    have hitems : ∀ leaf ∈ leavesOf items, leaf.isMoment = false := h
    obtain ⟨pieces, hpieces⟩ := exists_jsonItems? hitems indented (depth + 1)
    exact ⟨_, by rw [jsonAt?, hpieces]; rfl⟩
  | table fields =>
    have hfields : ∀ leaf ∈ fieldLeaves fields, leaf.isMoment = false := h
    obtain ⟨pieces, hpieces⟩ := exists_jsonFields? hfields indented (depth + 1)
    exact ⟨_, by rw [jsonAt?, hpieces]; rfl⟩
  | _ => exact ⟨_, rfl⟩

/-- The same, for the items of a list. -/
theorem exists_jsonItems? {items : List Value}
    (h : ∀ leaf ∈ leavesOf items, leaf.isMoment = false) (indented : Bool) (depth : Nat) :
    ∃ pieces, jsonItems? indented depth items = some pieces := by
  cases items with
  | nil => exact ⟨[], rfl⟩
  | cons v items =>
    obtain ⟨hfirst, hrest⟩ := List.forall_mem_append.1 h
    obtain ⟨text, htext⟩ := exists_jsonAt? hfirst indented depth
    obtain ⟨pieces, hpieces⟩ := exists_jsonItems? hrest indented depth
    exact ⟨_, by rw [jsonItems?, htext, hpieces]; rfl⟩

/-- The same, for the fields of a table. -/
theorem exists_jsonFields? {fields : Table}
    (h : ∀ leaf ∈ fieldLeaves fields, leaf.isMoment = false) (indented : Bool) (depth : Nat) :
    ∃ pieces, jsonFields? indented depth fields = some pieces := by
  cases fields with
  | nil => exact ⟨[], rfl⟩
  | cons field fields =>
    obtain ⟨key, v⟩ := field
    obtain ⟨hfirst, hrest⟩ := List.forall_mem_append.1 h
    obtain ⟨text, htext⟩ := exists_jsonAt? hfirst indented depth
    obtain ⟨pieces, hpieces⟩ := exists_jsonFields? hrest indented depth
    exact ⟨_, by rw [jsonFields?, htext, hpieces]; rfl⟩

end

end Value

/-! ## Settings that are read -/

namespace Settings

/-- What is read holds if the default holds and what stands there does. -/
theorem checked_rec {α : Type} {P : α → Prop} {t : Table} {key : String} {default : α}
    {read : Value → Option α} {problem : SettingsProblem} (hdefault : P default)
    (hread : ∀ v a, t.get? key = some v → read v = some a → P a) :
    P (checked t key default read problem).value := by
  unfold checked
  rcases hget : t.get? key with _ | v
  · exact hdefault
  · rcases ha : read v with _ | a
    · simpa only [ha] using hdefault
    · simpa only [ha] using hread v a hget ha

/-- **Settings that can be read**: plugins have the form of a reference, and there
is some pass and some job. -/
structure IsSound (s : Settings) : Prop where
  parser : ∀ reference ∈ s.parser, isReference reference
  printer : ∀ reference ∈ s.printer, isReference reference
  passes : 1 ≤ s.passes
  jobs : 1 ≤ s.jobs

theorem isReference_of_reference {t : Table} {key : String} :
    ∀ r ∈ (reference t key).value, isReference r := by
  refine checked_rec (P := fun value => ∀ r ∈ value, isReference r) nofun fun v value _ hv => ?_
  split at hv
  · cases hv
    exact nofun
  · split at hv
    · rename_i hreference
      cases hv
      intro r hr
      cases hr
      exact hreference
    · cases hv
  · cases hv

/-- A number that is read is above zero, and the number that is written. -/
theorem positive_rec {P : Nat → Prop} {t : Table} {key : String} {default : Nat}
    (hdefault : P default)
    (hread : ∀ n : Nat, t.get? key = some (.int n) → 1 ≤ n → P n) :
    P (positive t key default).value := by
  refine checked_rec hdefault fun v n hget hn => ?_
  obtain ⟨i, hi, hn⟩ := Option.bind_eq_some_iff.1 hn
  simp only [Option.ite_none_left_eq_some, Option.some.injEq] at hn
  obtain ⟨hpos, rfl⟩ := hn
  refine hread i.toNat ?_ (by omega)
  cases v with
  | int i' =>
    cases hi
    rw [hget, Int.toNat_of_nonneg (by omega)]
  | _ => cases hi

/-- **Whatever is read is sound.** What is wrong with a table does not matter here: a
part that cannot be read is the default, which is sound too. -/
theorem isSound_check (t : Table) : (check t).value.IsSound where
  parser := isReference_of_reference
  printer := isReference_of_reference
  passes := positive_rec (P := (1 ≤ ·)) (by decide) fun _ _ hn => hn
  jobs := positive_rec (P := (1 ≤ ·)) (by decide) fun _ _ hn => hn

end Settings

/-! ## Tables of settings -/

theorem Value.strings?_strings (items : List String) : (strings items).strings? = some items := by
  change (items.map str).mapM string? = some items
  induction items with
  | nil => rfl
  | cons s items ih =>
    rw [List.map_cons, List.mapM_cons, ih]
    rfl

namespace Settings

/-- What stands under a key is read, if it is what a reading gives back. -/
theorem checked_eq_of_get? {α : Type} {t : Table} {key : String} {default : α}
    {read : Value → Option α} {problem : SettingsProblem} {v : Value} {a : α}
    (hget : t.get? key = some v) (hread : read v = some a) :
    checked t key default read problem = { value := a } := by
  rw [checked, hget]
  simp only [hread]

theorem overridePart_eq {α : Type} {rule key : String} {t : Table} {read : Value → Option α}
    {problem : String → SettingsProblem} {part : Option α} {make : α → Value}
    (hget : t.get? key = part.map make) (hread : ∀ a, read (make a) = some a) :
    overridePart rule t key read problem = { value := part } := by
  rcases part with _ | a
  · rw [overridePart, checked, hget]
    rfl
  · exact checked_eq_of_get? hget (by rw [hread]; rfl)

/-- A table of an override has no other keys. -/
theorem unknownKeys_toTable (o : RuleOverride) : unknownKeys o.toTable = [] := by
  have hkeys : o.toTable.keys.filter (fun key => !overrideKeys.contains key) = [] := by
    refine List.filter_eq_nil_iff.2 fun key hkey => ?_
    simp only [RuleOverride.toTable, Table.keys, List.map_append, List.map_map, List.mem_append,
      List.mem_map, Function.comp_apply] at hkey
    rcases hkey with (((⟨_, _, rfl⟩ | ⟨_, _, rfl⟩) | ⟨_, _, rfl⟩) | ⟨_, _, rfl⟩) | ⟨_, _, rfl⟩ <;>
      decide
  rw [unknownKeys, hkeys, List.mergeSort_nil]

theorem severityOf?_word (severity : Severity) :
    severityOf? (.str severity.word) = some severity := by
  cases severity with
  | error => decide
  | warning => decide

/-- **The table of an override is read as the override.** -/
theorem overrideTable_toTable (rule : String) (o : RuleOverride) :
    overrideTable rule o.toTable = { value := o } := by
  obtain ⟨henabled, hseverity, hoptions, hincluded, hexcluded⟩ := o.get?_toTable
  rw [overrideTable, unknownKeys_toTable, overridePart_eq henabled fun _ => rfl,
    overridePart_eq hseverity severityOf?_word, overridePart_eq hoptions fun _ => rfl,
    overridePart_eq hincluded Value.strings?_strings,
    overridePart_eq hexcluded Value.strings?_strings]
  rfl

theorem overrides_eq {t : Table} {rules : List (String × RuleOverride)}
    (hget : t.get? "rules" =
      some (.table (rules.map fun entry => (entry.1, .table entry.2.toTable)))) :
    overrides t = { value := rules } := by
  have hentry : ∀ rule (o : RuleOverride), override rule (.table o.toTable) = { value := o } :=
    overrideTable_toTable
  rw [overrides, hget]
  simp [Function.comp_def, List.flatMap_map, hentry]

theorem patterns_eq {t : Table} {key : String} {default items : List String}
    (hget : t.get? key = some (.strings items)) : patterns t key default = { value := items } :=
  checked_eq_of_get? hget (Value.strings?_strings items)

theorem word_eq {α : Type} {t : Table} {key w : String} {default a : α}
    {ofWord? : String → Option α} {words : List String} (hget : t.get? key = some (.str w))
    (hword : ofWord? w = some a) : word t key default ofWord? words = { value := a } :=
  checked_eq_of_get? hget hword

theorem reference_eq {t : Table} {key : String} {r : Option String}
    (hget : t.get? key = some (.ofOption r)) (hr : ∀ s ∈ r, isReference s) :
    reference t key = { value := r } := by
  refine checked_eq_of_get? hget ?_
  rcases r with _ | s
  · rfl
  · exact if_pos (hr s rfl)

theorem positive_eq {t : Table} {key : String} {default n : Nat}
    (hget : t.get? key = some (.int n)) (hn : 1 ≤ n) : positive t key default = { value := n } := by
  refine checked_eq_of_get? hget ?_
  rw [Value.int?, Option.bind_some, if_neg (by omega), Int.toNat_natCast]

/-- **The table of settings is read as the settings**, with the file they stand in
or without. -/
theorem check_toTable {s : Settings} (hs : s.IsSound) (v : Value) :
    check (("config_path", v) :: s.toTable) = { value := s } := by
  let t : Table := ("config_path", v) :: s.toTable
  have hincluded : t.get? "include" = some (.strings s.included) := rfl
  have hexcluded : t.get? "exclude" = some (.strings s.excluded) := rfl
  have hcustom : t.get? "custom_rules" = some (.strings s.customRules) := rfl
  have hformat : t.get? "output_format" = some (.str s.format.word) := rfl
  have hscope : t.get? "disable_scope" = some (.str s.scope.word) := rfl
  have hignores : t.get? "ignore_disable_comments" = some (.bool s.ignoresComments) := rfl
  have hignored : Value.bool? (.bool s.ignoresComments) = some s.ignoresComments := rfl
  have hparser : t.get? "parser" = some (.ofOption s.parser) := rfl
  have hprinter : t.get? "printer" = some (.ofOption s.printer) := rfl
  have hpasses : t.get? "max_fix_iterations" = some (.int s.passes) := rfl
  have hjobs : t.get? "jobs" = some (.int s.jobs) := rfl
  have hrules : t.get? "rules" =
      some (.table (s.rules.map fun entry => (entry.1, .table entry.2.toTable))) := rfl
  have hformatWord : OutputFormat.ofWord? s.format.word = some s.format := by
    cases s.format with
    | _ => rfl
  have hscopeWord : DisableScope.ofWord? s.scope.word = some s.scope := by
    cases s.scope with
    | _ => rfl
  -- Each key is read on its own, so that no key stands in the way of another.
  change check t = _
  simp only [check, patterns_eq hincluded, patterns_eq hexcluded, patterns_eq hcustom,
    word_eq hformat hformatWord, word_eq hscope hscopeWord,
    checked_eq_of_get? hignores hignored, reference_eq hparser hs.parser,
    reference_eq hprinter hs.printer, positive_eq hpasses hs.passes, positive_eq hjobs hs.jobs,
    overrides_eq hrules]
  rfl

/-! ## Settings with a JSON form -/

/-- The options of an override are those it is read from. -/
theorem isRepresentable_options {rule : String} {v : Value} (h : v.IsRepresentable) :
    ∀ options ∈ (override rule v).value.options, (Value.table options).IsRepresentable := by
  cases v with
  | table t =>
    -- Only a table has options, and it has them under a key, as they are.
    refine checked_rec (P := fun part => ∀ options ∈ part, (Value.table options).IsRepresentable)
      nofun fun v part hget hpart options hoptions => ?_
    obtain ⟨read, hread, rfl⟩ := Option.map_eq_some_iff.1 hpart
    cases hoptions
    obtain rfl := eq_table_of_table? v options hread
    exact h.of_get? hget
  | str s =>
    rw [override]
    split
    · exact nofun
    · exact nofun
  | _ => exact nofun

theorem isRepresentable_toTable_override {o : RuleOverride}
    (h : ∀ options ∈ o.options, (Value.table options).IsRepresentable) :
    (Value.table o.toTable).IsRepresentable := by
  refine Value.isRepresentable_table_iff.2 fun field hfield => ?_
  simp only [RuleOverride.toTable, List.mem_append, List.mem_map, Option.mem_toList] at hfield
  obtain (((⟨b, -, rfl⟩ | ⟨severity, -, rfl⟩) | ⟨options, hoptions, rfl⟩) | ⟨items, -, rfl⟩) |
    ⟨items, -, rfl⟩ := hfield
  · exact (Value.isRepresentable_iff_of_isPlain rfl).2 ⟨rfl, rfl⟩
  · exact Value.isRepresentable_str _
  · exact h options hoptions
  · exact Value.isRepresentable_strings items
  · exact Value.isRepresentable_strings items

theorem isRepresentable_overrides {t : Table} (h : (Value.table t).IsRepresentable) :
    ∀ entry ∈ (overrides t).value, (Value.table entry.2.toTable).IsRepresentable := by
  unfold overrides
  split
  · exact nofun
  · rename_i entries hget
    intro entry hentry
    obtain ⟨given, hgiven, rfl⟩ := List.mem_map.1 hentry
    have hv := Value.isRepresentable_table_iff.1 (h.of_get? hget) given hgiven
    exact isRepresentable_toTable_override (isRepresentable_options hv)
  · exact nofun

theorem isRepresentable_positive {t : Table} (h : (Value.table t).IsRepresentable) {key : String}
    {default : Nat} (hdefault : default < Value.mostDigits) :
    (Value.int (positive t key default).value).IsRepresentable :=
  positive_rec (P := fun n => (Value.int n).IsRepresentable)
    (Value.isRepresentable_natCast hdefault) fun _ hget _ => h.of_get? hget

/-- **Settings have a JSON form** if what they are read from has one. -/
theorem isRepresentable_toTable {t : Table} (h : (Value.table t).IsRepresentable) :
    (Value.table (check t).value.toTable).IsRepresentable := by
  have hrules : (Value.table ((check t).value.rules.map fun entry =>
      (entry.1, .table entry.2.toTable))).IsRepresentable := by
    refine Value.isRepresentable_table_iff.2 fun field hfield => ?_
    obtain ⟨entry, hentry, rfl⟩ := List.mem_map.1 hfield
    exact isRepresentable_overrides h entry hentry
  refine Value.isRepresentable_table_iff.2 ?_
  simp only [toTable, List.forall_mem_cons]
  exact ⟨Value.isRepresentable_strings _, Value.isRepresentable_strings _,
    Value.isRepresentable_str _, Value.isRepresentable_str _,
    (Value.isRepresentable_iff_of_isPlain rfl).2 ⟨rfl, rfl⟩, Value.isRepresentable_ofOption _,
    Value.isRepresentable_ofOption _, Value.isRepresentable_strings _,
    isRepresentable_positive h (by decide), isRepresentable_positive h (by decide), hrules, nofun⟩

end Settings

namespace Project

theorem exists_json? {p : Project} (h : p.toValue.IsRepresentable) :
    ∃ text, p.json? = some text ∧ p.toValue.jsonIndented? = some text := by
  have hflaw : p.jsonFlaw? = none := by
    refine List.find?_eq_none.2 fun leaf hleaf => ?_
    obtain ⟨hmoment, hoversized⟩ := h leaf hleaf
    simp [hmoment, hoversized]
  obtain ⟨text, htext⟩ := Value.exists_jsonAt? (fun leaf hleaf => (h leaf hleaf).1) true 0
  have hjson : p.toValue.jsonIndented? = some (String.ofList text) := by
    rw [Value.jsonIndented?, htext]
    rfl
  exact ⟨String.ofList text, by rw [json?, hflaw]; exact hjson, hjson⟩

/-- **A listing of settings is a file of the same settings.** What is read from a
table with a JSON form is listed as JSON, and what is listed is read without a
problem, as the settings that it lists. -/
theorem ofTable?_toValue {t : Table} {file : Option Path} {p : Project}
    (h : ofTable? t file = .ok p) (hjson : (Value.table t).IsRepresentable) :
    ∃ fields text, p.toValue = .table fields ∧ p.json? = some text ∧
      p.toValue.jsonIndented? = some text ∧
      ∀ file', ofTable? fields file' = .ok { p with file := file' } := by
  -- Settings that pass are what the check gives, so that they are sound and have a form.
  have hsettings : p = ⟨(Settings.check t).value, file⟩ := by
    rw [ofTable?, Settings.ofTable?] at h
    split at h
    · rename_i settings hok
      split at hok
      · cases hok
        exact (Except.ok.inj h).symm
      · cases hok
    · cases h
  have hrepresentable : p.toValue.IsRepresentable := by
    rw [toValue, hsettings]
    exact Value.isRepresentable_table_iff.2 (List.forall_mem_cons.2
      ⟨Value.isRepresentable_ofOption _,
        Value.isRepresentable_table_iff.1 (Settings.isRepresentable_toTable hjson)⟩)
  obtain ⟨text, htext, hindented⟩ := exists_json? hrepresentable
  refine ⟨_, text, rfl, htext, hindented, fun file' => ?_⟩
  have hcheck := Settings.check_toTable (hsettings ▸ Settings.isSound_check t : p.settings.IsSound)
    (.ofOption (p.file.map Path.toString))
  rw [ofTable?, Settings.ofTable?, Settings.problems, hcheck]
  rfl

/-- Overrides in each of their forms, options in options, and numbers and plugins
that are set are all listed, and read again. -/
theorem ofTable?_toValue_everyForm :
    let limits : Value := .table [("lines", .list [.int 2, .null])]
    let t : Table := [("jobs", .int 4), ("parser", .str "erb:parse"),
      ("disable_scope", .str "line"),
      ("rules", .table [("a", .bool false), ("b", .str "WARNING"), ("c", .table []),
        ("d", .table [("exclude", .strings ["x/**"]), ("severity", .str "Error"),
          ("options", .table [("limits", limits)])])])]
    ∃ p fields text, ofTable? t (some ⟨.root, ["pyproject.toml".toList]⟩) = .ok p ∧
      p.toValue = .table fields ∧ p.json? = some text ∧ p.toValue.jsonIndented? = some text ∧
      ofTable? fields none = .ok { p with file := none } := by
  intro limits t
  have hp : ofTable? t (some ⟨.root, ["pyproject.toml".toList]⟩) =
      .ok ⟨(Settings.check t).value, some ⟨.root, ["pyproject.toml".toList]⟩⟩ := by
    have hs : Settings.ofTable? t = .ok (Settings.check t).value := if_pos (by decide +kernel)
    rw [ofTable?, hs]
  have hjson : (Value.table t).IsRepresentable := by
    decide +kernel
  obtain ⟨fields, text, hfields, htext, hindented, hread⟩ := ofTable?_toValue hp hjson
  exact ⟨_, fields, text, hp, hfields, htext, hindented, hread none⟩

end Project

end TemplateLint
