import TemplateLint.Proofs.Checks
import TemplateLint.Proofs.Completion
/-!
# Severities — every offense counts

An offense is bound to a severity as soon as the call that found it is done,
whether the rule stamped it or not, and the one that reports a crash is an error
from the start (`CheckCall.Gives`). So nothing that is reported is without a
severity (`Setup.severities_accounted`). Errors and warnings are all there is,
and the listing of a run, its summary and what it exits with agree
(`LintRun.Accounted`).
-/

namespace TemplateLint

/-- What has a severity is an error or a warning. -/
theorem countP_error_add_countP_warning {α : Type} {severity : α → Option Severity} {items : List α}
    (h : ∀ a ∈ items, (severity a).isSome) :
    (items.countP fun a => severity a = some .error) +
      (items.countP fun a => severity a = some .warning) = items.length := by
  rw [List.length_eq_countP_add_countP fun a => decide (severity a = some .error)]
  congr 1
  refine List.countP_congr fun a ha => ?_
  have hsome := h a ha
  rcases hseverity : severity a with _ | severity
  · rw [hseverity] at hsome
    cases hsome
  · cases severity with
    | error => exact iff_of_false nofun nofun
    | warning => exact iff_of_true rfl rfl

/-! ## One document -/

namespace CheckCall

/-- **What a call gives, and how severe that is.** -/
inductive Gives (c : CheckCall) : Offense → Severity → Prop
  /-- The rule crashed, which is an error. -/
  | crash {crash : Crash} :
      c.answer = .error crash → c.Gives (Linter.crashOffense c.bound.rule crash) .error
  /-- What the rule stamped as an error stays one. -/
  | stamped {found : List Offense} {o : Offense} :
      c.answer = .ok found → o ∈ found → o.severity = some .error → c.Gives o .error
  /-- Anything else gets the severity that the rule is set to. -/
  | resolved {found : List Offense} {o : Offense} :
      c.answer = .ok found → o ∈ found → o.severity ≠ some .error →
      c.Gives { o with severity := some c.bound.settings.severity } c.bound.settings.severity

variable {c : CheckCall} {o : Offense} {severity : Severity}

/-- The offense is bound to that severity. -/
theorem Gives.severity_eq (h : c.Gives o severity) : o.severity = some severity := by
  cases h with
  | crash => rfl
  | stamped _ _ hstamp => exact hstamp
  | resolved => rfl

/-- What a call comes to, it gives. -/
theorem exists_gives (h : o ∈ c.offenses) : ∃ severity, c.Gives o severity := by
  rcases hanswer : c.answer with crash | found
  · rw [offenses_of_crash hanswer, List.mem_singleton] at h
    exact ⟨.error, h ▸ .crash hanswer⟩
  · rw [offenses, hanswer] at h
    obtain ⟨raw, hraw, rfl⟩ := List.mem_map.1 h
    rw [Offense.bind]
    split
    · rename_i hstamp
      exact ⟨.error, .stamped hanswer hraw hstamp⟩
    · rename_i hstamp
      exact ⟨_, .resolved hanswer hraw hstamp⟩

end CheckCall

namespace Linter

/-- **Every offense of a result is bound.** A call of a rule of the linter gives it
with its severity, and errors and warnings are all there are. -/
structure Binds (l : Linter) (calls : List CheckCall) (result : LintResult) : Prop where
  given : ∀ o ∈ result.offenses, ∃ c ∈ calls, c.bound ∈ l.rules ∧
    ∃ severity, c.Gives o severity ∧ o.severity = some severity
  counts : result.errors + result.warnings = result.offenses.length

variable {l : Linter} {d : Document} {fileName : Option String} {disabled : List String}

/-- What is reported is given by a call, and has a severity. -/
theorem exists_call_of_mem_offenses {o : Offense} (h : o ∈ (l.lint d fileName disabled).offenses) :
    ∃ c ∈ l.checkCalls d fileName disabled, ∃ severity, c.Gives o severity := by
  rw [offenses_lint] at h
  obtain ⟨a, ha, rfl⟩ := List.mem_map.1 h
  obtain ⟨c, hc, ha⟩ := List.mem_flatMap.1 (List.mem_filter.1 ha).1
  obtain ⟨o, ho, rfl⟩ := List.mem_map.1 ha
  exact ⟨c, hc, CheckCall.exists_gives ho⟩

theorem binds_lint :
    l.Binds (l.checkCalls d fileName disabled) (l.lint d fileName disabled) where
  given o ho := by
    obtain ⟨c, hc, severity, hgives⟩ := exists_call_of_mem_offenses ho
    exact ⟨c, hc, bound_mem_of_mem_checkCalls hc, severity, hgives, hgives.severity_eq⟩
  counts := countP_error_add_countP_warning fun o ho => by
    obtain ⟨c, hc, severity, hgives⟩ := exists_call_of_mem_offenses ho
    rw [hgives.severity_eq]
    rfl

end Linter

/-! ## Many files -/

namespace Report

variable {r : Report}

/-- Every finding has a severity. -/
def AllBound (r : Report) : Prop :=
  ∀ f ∈ r, f.offense.severity.isSome

theorem AllBound.errors_add_warnings (h : r.AllBound) : r.errors + r.warnings = r.length :=
  countP_error_add_countP_warning h

theorem exitCode_eq_one_iff (r : Report) : r.exitCode = 1 ↔ 0 < r.errors := by
  have herrors : r.hasErrors ↔ 0 < r.errors := by
    rw [hasErrors, errors, countOf, List.countP_pos_iff, List.any_eq_true]
  rw [← herrors, exitCode]
  split
  · rename_i hsome
    exact iff_of_true rfl hsome
  · rename_i hnone
    exact iff_of_false Nat.zero_ne_one hnone

theorem exitCode_eq_zero (r : Report) (h : r.exitCode ≠ 1) : r.exitCode = 0 := by
  rw [exitCode] at h ⊢
  split at h
  · exact absurd rfl h
  · rename_i hnone
    rw [if_neg hnone]

/-- A run that found nothing says so. -/
theorem summary_nil (ignored : Int) :
    "No issues found.".toList <+: (summary [] ignored).toList := by
  have hfound : summary [] ignored = if ignored = 0 then "No issues found."
      else "No issues found." ++ s!" {ignored} ignored by herb:disable comments." := rfl
  rw [hfound]
  split
  · exact List.prefix_refl _
  · rw [String.toList_append]
    exact List.prefix_append _ _

/-- A run that found errors or warnings says what it found. -/
theorem summary_of_pos (h : 0 < r.errors + r.warnings) (ignored : Int) :
    "Found ".toList <+: (r.summary ignored).toList := by
  have hcounts : (countedSome r.errors "error" ++ countedSome r.warnings "warning").isEmpty =
      false := by
    rw [List.isEmpty_eq_false_iff, Ne, List.append_eq_nil_iff, countedSome, countedSome]
    rintro ⟨herrors, hwarnings⟩
    split at herrors
    · split at hwarnings
      · omega
      · cases hwarnings
    · cases herrors
  rw [summary]
  simp only [hcounts, Bool.false_eq_true, if_false]
  split
  · simp only [String.toList_append, List.append_assoc]
    exact List.prefix_append _ _
  · simp only [String.toList_append, List.append_assoc]
    exact List.prefix_append _ _

/-- **The summary says that nothing was found when that is so.** -/
theorem AllBound.summary_iff (h : r.AllBound) (ignored : Int) :
    "No issues found.".toList <+: (r.summary ignored).toList ↔ r = [] := by
  constructor
  · intro hnone
    by_contra hne
    have hpos : 0 < r.errors + r.warnings := by
      rw [h.errors_add_warnings]
      exact List.length_pos_of_ne_nil hne
    -- The two openings differ in their first letter.
    obtain ⟨rest, hrest⟩ := hnone
    obtain ⟨rest', hrest'⟩ := summary_of_pos hpos ignored
    have hheads := congrArg List.head? (hrest.trans hrest'.symm)
    cases hheads
  · rintro rfl
    exact summary_nil ignored

/-- Lines joined beforehand are joined all the same. -/
theorem intercalate_intercalate_cons (separator line last : String) (lines rest : List String) :
    separator.intercalate (separator.intercalate (line :: lines) :: last :: rest) =
      separator.intercalate (line :: lines ++ last :: rest) := by
  induction lines generalizing line with
  | nil => rfl
  | cons next lines ih =>
    have hrest := ih next
    rw [String.intercalate_cons_cons] at hrest
    rw [String.intercalate_cons_cons, String.intercalate_cons_cons, List.cons_append,
      List.cons_append, String.intercalate_cons_cons, ← List.cons_append, ← hrest]
    simp only [String.append_assoc]

theorem line_ne_empty (f : Finding) : f.line ≠ "" := by
  intro hempty
  have hlist := congrArg String.toList hempty
  simp [Finding.line] at hlist

/-- There is no text where nothing is listed. -/
theorem text_eq_empty_iff : r.text = "" ↔ r.sorted = [] := by
  rw [text]
  rcases r.sorted with _ | ⟨f, fs⟩
  · exact iff_of_true rfl rfl
  · refine iff_of_false (fun hempty => ?_) (List.cons_ne_nil _ _)
    rcases fs with _ | ⟨f', fs⟩
    · exact line_ne_empty f hempty
    · rw [List.map_cons, List.map_cons, String.intercalate_cons_cons, String.append_eq_empty_iff,
        String.append_eq_empty_iff] at hempty
      exact line_ne_empty f hempty.1.1

/-- **The text of a run** has a line for every finding, the summary and the
number of files. -/
theorem output_text (files ignored : Int) :
    r.output .text files ignored = "\n".intercalate (r.sorted.map Finding.line ++
      [r.summary ignored, "Checked " ++ counted files "file" ++ "."]) := by
  rw [output]
  split
  · rename_i hempty
    rw [text_eq_empty_iff.1 hempty]
    rfl
  · rename_i hsome
    rw [text_eq_empty_iff] at hsome
    obtain ⟨f, fs, hsorted⟩ := List.exists_cons_of_ne_nil hsome
    rw [text, hsorted, List.map_cons, List.singleton_append, intercalate_intercalate_cons]

/-- A finding with a severity is listed with it. -/
theorem AllBound.exists_line_eq (h : r.AllBound) {f : Finding} (hf : f ∈ r) :
    ∃ severity : Severity, f.offense.severity = some severity ∧
      f.line = s!"{f.file}:{f.offense.start.line}:{f.offense.start.column}: {severity.heading} " ++
        s!"[{f.offense.code}] {f.offense.message}" := by
  obtain ⟨severity, hseverity⟩ := Option.isSome_iff_exists.1 (h f hf)
  refine ⟨severity, hseverity, ?_⟩
  rw [Finding.line, hseverity]
  rfl

end Report

/-- **A run accounts for what was found in its files.** -/
structure LintRun.Accounted (completed : List FileOutcome) (run : LintRun) : Prop where
  /-- Errors and warnings are all there is. -/
  counts : run.report.errors + run.report.warnings = run.report.length
  /-- It exits with one where a file has an error, and with zero otherwise. -/
  exits_one : run.exitCode = 1 ↔
    ∃ name result, .checked name result ∈ completed ∧ 0 < result.errors
  exits_else : run.exitCode ≠ 1 → run.exitCode = 0
  /-- Every offense of every file has an entry, and nothing else has. -/
  entries : run.report.sorted.Perm (completed.flatMap FileOutcome.findings)
  text : run.output .text = "\n".intercalate (run.report.sorted.map Finding.line ++
    [run.report.summary run.ignored, "Checked " ++ Report.counted run.checked "file" ++ "."])
  /-- An entry shows the severity of its offense. -/
  headings : ∀ f ∈ run.report.sorted, ∃ severity : Severity,
    f.offense.severity = some severity ∧
      f.line = s!"{f.file}:{f.offense.start.line}:{f.offense.start.column}: {severity.heading} " ++
        s!"[{f.offense.code}] {f.offense.message}"
  summary : "No issues found.".toList <+: (run.report.summary run.ignored).toList ↔
    ∀ name result, .checked name result ∈ completed → result.offenses = []

namespace FileOutcome

variable {outcomes : List FileOutcome}

theorem mem_flatMap_findings {f : Finding} : f ∈ outcomes.flatMap findings ↔
    ∃ result, .checked f.file result ∈ outcomes ∧ f.offense ∈ result.offenses := by
  rw [List.mem_flatMap]
  constructor
  · rintro ⟨o, ho, hf⟩
    cases o with
    | checked name result =>
      obtain ⟨offense, hoffense, rfl⟩ := List.mem_map.1 hf
      exact ⟨result, ho, hoffense⟩
    | unread => cases hf
    | broken => cases hf
  · rintro ⟨result, ho, hf⟩
    exact ⟨_, ho, List.mem_map.2 ⟨f.offense, hf, rfl⟩⟩

/-- There are errors where a file has some. -/
theorem errors_flatMap_pos_iff : 0 < Report.errors (outcomes.flatMap findings) ↔
    ∃ name result, .checked name result ∈ outcomes ∧ 0 < result.errors := by
  simp only [Report.errors, Report.countOf, LintResult.errors, LintResult.countOf,
    List.countP_pos_iff, mem_flatMap_findings]
  constructor
  · rintro ⟨f, ⟨result, ho, hf⟩, herror⟩
    exact ⟨f.file, result, ho, f.offense, hf, herror⟩
  · rintro ⟨name, result, ho, offense, hoffense, herror⟩
    exact ⟨⟨name, offense⟩, ⟨result, ho, hoffense⟩, herror⟩

theorem flatMap_findings_eq_nil_iff : outcomes.flatMap findings = [] ↔
    ∀ name result, .checked name result ∈ outcomes → result.offenses = [] := by
  rw [List.eq_nil_iff_forall_not_mem]
  constructor
  · intro h name result ho
    refine List.eq_nil_iff_forall_not_mem.2 fun offense hoffense => ?_
    exact h ⟨name, offense⟩ (mem_flatMap_findings.2 ⟨result, ho, hoffense⟩)
  · intro h f hf
    obtain ⟨result, ho, hoffense⟩ := mem_flatMap_findings.1 hf
    rw [h _ _ ho] at hoffense
    cases hoffense

end FileOutcome

/-- **Offenses with severities are accounted for**, in whatever files they are. -/
theorem LintRun.accounted_ofOutcomes {completed : List FileOutcome}
    (h : ∀ name result, .checked name result ∈ completed → ∀ o ∈ result.offenses,
      o.severity.isSome) : (ofOutcomes completed).Accounted completed := by
  have hreport : (ofOutcomes completed).report = completed.flatMap FileOutcome.findings := by
    rw [ofOutcomes_eq]
  have hbound : (ofOutcomes completed).report.AllBound := by
    intro f hf
    rw [hreport] at hf
    obtain ⟨result, ho, hoffense⟩ := FileOutcome.mem_flatMap_findings.1 hf
    exact h _ _ ho _ hoffense
  have hsorted : (ofOutcomes completed).report.sorted.Perm (ofOutcomes completed).report :=
    List.mergeSort_perm _ _
  refine ⟨hbound.errors_add_warnings, ?_, ?_, hreport ▸ hsorted, Report.output_text _ _,
    fun f hf => hbound.exists_line_eq (hsorted.mem_iff.1 hf), ?_⟩
  · rw [← FileOutcome.errors_flatMap_pos_iff, ← hreport]
    exact Report.exitCode_eq_one_iff _
  · exact Report.exitCode_eq_zero _
  · rw [hbound.summary_iff, hreport, FileOutcome.flatMap_findings_eq_nil_iff]

namespace Setup

variable {s : Setup} {w : Workspace} {p : Project} {paths : List Path} {disabled : List String}

/-- The result for a file is that of linting its document. -/
theorem exists_lint_of_checked {name : String} {result : LintResult}
    (h : .checked name result ∈ s.outcomes w p paths disabled) :
    ∃ d, result = s.linter.lint d (some name) disabled := by
  obtain ⟨file, -, houtcome⟩ := List.mem_map.1 h
  unfold outcome at houtcome
  dsimp only at houtcome
  split at houtcome
  · cases houtcome
  · split at houtcome
    · rename_i hlint
      cases houtcome
      unfold Linter.lintSource? at hlint
      split at hlint
      · cases hlint
      · rename_i d _
        exact ⟨d, Linter.eq_lint_of_lint? hlint⟩
    · split at houtcome <;> cases houtcome

/-- **Every offense has a severity, and counts.** Whatever document a linter
lints, each offense it reports is given by a call of one of its rules, and is an
error or a warning. In whatever order the files of a run are done, the counts of
the run, what it exits with, its lines and its summary agree with the offenses
of its files. -/
theorem severities_accounted :
    (∀ (l : Linter) (d : Document) (fileName : Option String) (disabled : List String),
      l.Binds (l.checkCalls d fileName disabled) (l.lint d fileName disabled)) ∧
    ∀ (s : Setup) (w : Workspace) (p : Project) (paths : List Path) (disabled : List String)
      (completed : List FileOutcome) (run : LintRun),
      completed.Perm (s.outcomes w p paths disabled) →
        LintRun.ofOutcomes? completed = .ok run → run.Accounted completed := by
  refine ⟨fun l d fileName disabled => Linter.binds_lint, ?_⟩
  intro s w p paths disabled completed run hcompleted hrun
  obtain ⟨-, rfl⟩ := LintRun.ofOutcomes?_eq_ok_iff.1 hrun
  refine LintRun.accounted_ofOutcomes fun name result hresult o ho => ?_
  obtain ⟨d, rfl⟩ := exists_lint_of_checked (hcompleted.mem_iff.1 hresult)
  obtain ⟨c, -, severity, hgives⟩ := Linter.exists_call_of_mem_offenses ho
  rw [hgives.severity_eq]
  rfl

/-- A file with blank lines and one that cannot be read, the second of which is
done first. -/
theorem severities_accounted_twoFiles :
    let s : Setup := { linter := Linter.standard {} }
    let w : Workspace :=
      { root := .directory [(['a'], .file [97, 10, 10, 10, 10, 10, 98]), (['b'], .file [255])]
        here := ⟨.root, []⟩, modules := [], imports := fun _ => .done [], home := "" }
    let p : Project := ⟨{}, none⟩
    let files : List Path := [⟨.root, [['a']]⟩, ⟨.root, [['b']]⟩]
    let completed := (files.map (s.outcome w p [])).reverse
    completed.Perm (s.outcomes w p files []) ∧
      ∃ run, LintRun.ofOutcomes? completed = .ok run ∧ 0 < run.report.length ∧
        run.Accounted completed := by
  intro s w p files completed
  have hfiles : (Discovery.files w.root w.here p.settings files).Perm files :=
    (List.mergeSort_perm _ _).trans (.of_eq (by decide +kernel))
  have hcompleted : completed.Perm (s.outcomes w p files []) :=
    (List.reverse_perm _).trans (hfiles.map _).symm
  have hrun : LintRun.ofOutcomes? completed = .ok (LintRun.ofOutcomes completed) :=
    LintRun.ofOutcomes?_eq_ok_iff.2 ⟨by decide +kernel, rfl⟩
  exact ⟨hcompleted, _, hrun, by decide +kernel,
    severities_accounted.2 s w p files [] completed _ hcompleted hrun⟩

end Setup

end TemplateLint
