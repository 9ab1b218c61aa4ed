import TemplateLint.Run.Lint
import TemplateLint.Proofs.Builtins
import TemplateLint.Proofs.Paths
/-!
# Completion — the order in which files are done

Files are linted side by side, and their outcomes come in in some order.
What is found is listed by place, and places that tie are of one file, since
no two files go by one name: in which order the files were done does not
show (`Setup.completion_irrelevant`). The sort is stable, so that a list is
sorted to what it holds of each class of ties (`mergeSort_eq_of_filter_eq`).
-/

namespace TemplateLint

/-! ## Stable sorts -/

section Sorting

variable {α : Type} {le : α → α → Bool} {l l' : List α}

/-- Two things tie: each comes no later than the other. -/
def Ties (le : α → α → Bool) (a b : α) : Bool :=
  le a b && le b a

/-- **A sort keeps ties in order.** -/
theorem filter_mergeSort (htrans : ∀ a b c, le a b = true → le b c = true → le a c = true)
    (htotal : ∀ a b, (le a b || le b a) = true) (a : α) (l : List α) :
    (l.mergeSort le).filter (Ties le a) = l.filter (Ties le a) := by
  have htied : (l.filter (Ties le a)).Pairwise fun b c => le b c = true := by
    refine List.pairwise_of_forall_mem_list fun b hb c hc => ?_
    have hba := (Bool.and_eq_true_iff.1 (List.mem_filter.1 hb).2).2
    have hac := (Bool.and_eq_true_iff.1 (List.mem_filter.1 hc).2).1
    exact htrans b a c hba hac
  have hsublist : (l.filter (Ties le a)).Sublist (l.mergeSort le) :=
    List.sublist_mergeSort htrans htotal htied List.filter_sublist
  have hsublist := hsublist.filter (Ties le a)
  rw [List.filter_filter] at hsublist
  simp only [Bool.and_self] at hsublist
  exact (hsublist.eq_of_length ((List.mergeSort_perm l le).symm.filter _).length_eq).symm

theorem ties_self (hrefl : ∀ a, le a a = true) (a : α) : Ties le a a = true :=
  Bool.and_eq_true_iff.2 ⟨hrefl a, hrefl a⟩

theorem mem_iff_of_filter_ties (hrefl : ∀ a, le a a = true)
    (heq : ∀ a, l.filter (Ties le a) = l'.filter (Ties le a)) (a : α) : a ∈ l ↔ a ∈ l' := by
  have hfilter := congrArg (a ∈ ·) (heq a)
  simpa [ties_self hrefl a] using hfilter

/-- **Sorted lists are told apart by their ties.** -/
theorem eq_of_filter_ties (hrefl : ∀ a, le a a = true) (h : l.Pairwise fun a b => le a b = true)
    (h' : l'.Pairwise fun a b => le a b = true)
    (heq : ∀ a, l.filter (Ties le a) = l'.filter (Ties le a)) : l = l' := by
  induction l generalizing l' with
  | nil =>
    exact (List.eq_nil_iff_forall_not_mem.2 fun a ha =>
      nomatch (mem_iff_of_filter_ties hrefl heq a).2 ha).symm
  | cons a l ih =>
    have hmem := mem_iff_of_filter_ties hrefl heq
    rcases l' with _ | ⟨b, l'⟩
    · exact nomatch (hmem a).1 (.head _)
    · -- Each of the two heads comes no later than the other.
      have hab : Ties le a b = true := by
        refine Bool.and_eq_true_iff.2 ⟨?_, ?_⟩
        · rcases List.mem_cons.1 ((hmem b).2 (.head _)) with rfl | hb
          · exact hrefl b
          · exact List.rel_of_pairwise_cons h hb
        · rcases List.mem_cons.1 ((hmem a).1 (.head _)) with rfl | ha
          · exact hrefl a
          · exact List.rel_of_pairwise_cons h' ha
      have hhead := heq a
      rw [List.filter_cons_of_pos (ties_self hrefl a), List.filter_cons_of_pos hab] at hhead
      obtain rfl := (List.cons.inj hhead).1
      refine congrArg (a :: ·) (ih h.tail h'.tail fun c => ?_)
      have hc := heq c
      simp only [List.filter_cons] at hc
      split at hc
      · exact (List.cons.inj hc).2
      · exact hc

/-- **A sort depends on the ties alone.** -/
theorem mergeSort_eq_of_filter_eq
    (htrans : ∀ a b c, le a b = true → le b c = true → le a c = true)
    (htotal : ∀ a b, (le a b || le b a) = true)
    (heq : ∀ a, l.filter (Ties le a) = l'.filter (Ties le a)) :
    l.mergeSort le = l'.mergeSort le := by
  refine eq_of_filter_ties (fun a => (Bool.or_self _).symm.trans (htotal a a))
    (List.pairwise_mergeSort htrans htotal l) (List.pairwise_mergeSort htrans htotal l')
    fun a => ?_
  rw [filter_mergeSort htrans htotal, filter_mergeSort htrans htotal, heq]

end Sorting

/-! ## Reports -/

namespace Finding

theorem le_iff {a b : Finding} :
    a.le b = true ↔ a.file < b.file ∨ a.file = b.file ∧ a.offense.start ≤ b.offense.start := by
  simp [le]

theorem le_trans (a b c : Finding) (hab : a.le b = true) (hbc : b.le c = true) :
    a.le c = true := by
  rw [le_iff] at hab hbc ⊢
  rcases hab with hab | ⟨hab, hstart⟩
  · rcases hbc with hbc | ⟨hbc, -⟩
    · exact .inl (String.lt_trans hab hbc)
    · exact .inl (hbc ▸ hab)
  · rcases hbc with hbc | ⟨hbc, hstart'⟩
    · exact .inl (hab ▸ hbc)
    · exact .inr ⟨hab.trans hbc, Position.le_trans hstart hstart'⟩

theorem le_total (a b : Finding) : (a.le b || b.le a) = true := by
  rw [Bool.or_eq_true, le_iff, le_iff]
  by_cases heq : a.file = b.file
  · have hstart : a.offense.start ≤ b.offense.start ∨ b.offense.start ≤ a.offense.start := by
      rw [Position.le_def, Position.le_def]
      omega
    exact hstart.imp (.inr ⟨heq, ·⟩) (.inr ⟨heq.symm, ·⟩)
  · exact (String.le_total a.file b.file).imp (fun hle => .inl (Std.lt_of_le_of_ne hle heq))
      fun hle => .inl (Std.lt_of_le_of_ne hle (Ne.symm heq))

/-- Findings that tie are in one file. -/
theorem file_eq_of_ties {a b : Finding} (h : Ties le a b = true) : a.file = b.file := by
  obtain ⟨hab, hba⟩ := Bool.and_eq_true_iff.1 h
  rcases le_iff.1 hab with hab | ⟨heq, -⟩
  · rcases le_iff.1 hba with hba | ⟨heq, -⟩
    · exact absurd hba (String.lt_asymm hab)
    · exact heq.symm
  · exact heq

end Finding

namespace Report

variable {r r' : Report}

/-- Two reports show the same: they list the same, and count the same. -/
structure Alike (r r' : Report) : Prop where
  sorted : r.sorted = r'.sorted
  errors : r.errors = r'.errors
  warnings : r.warnings = r'.warnings
  exitCode : r.exitCode = r'.exitCode

/-- **Findings come in in any order, file by file.** The list does not show it,
if the findings of every file stay in order. -/
theorem alike_of_perm (hperm : r.Perm r')
    (hfiles : ∀ file, r.filter (·.file == file) = r'.filter (·.file == file)) : r.Alike r' where
  sorted := by
    refine mergeSort_eq_of_filter_eq Finding.le_trans Finding.le_total fun a => ?_
    have hties : Ties Finding.le a = fun b => Ties Finding.le a b && b.file == a.file := by
      funext b
      rcases hb : Ties Finding.le a b with _ | _
      · rfl
      · rw [Bool.true_and, Finding.file_eq_of_ties hb, beq_self_eq_true]
    rw [hties, ← List.filter_filter, ← List.filter_filter, hfiles]
  errors := hperm.countP_eq _
  warnings := hperm.countP_eq _
  exitCode := by rw [exitCode, exitCode, hasErrors, hasErrors, hperm.any_eq]

/-- Reports that are alike are printed alike. -/
theorem Alike.output (h : r.Alike r') (format : OutputFormat) (files ignored : Int) :
    r.output format files ignored = r'.output format files ignored := by
  have htext : r.text = r'.text := by rw [text, text, h.sorted]
  have hjson : r.json = r'.json := by rw [json, json, toValue, toValue, h.sorted]
  have hsummary : r.summary ignored = r'.summary ignored := by
    rw [summary, summary, h.errors, h.warnings]
  cases format with
  | json => exact hjson
  | text => rw [Report.output, Report.output, htext, hsummary]

end Report

/-! ## Outcomes -/

namespace FileOutcome

/-- What is found in the file. -/
def findings : FileOutcome → Report
  | .checked name result => result.offenses.map (Finding.mk name)
  | .unread .. | .broken .. => []

/-- The file has a text, and linting it did not break off. -/
def isChecked : FileOutcome → Bool
  | .checked .. => true
  | .unread .. | .broken .. => false

/-- There is no text in the file. -/
def isUnread : FileOutcome → Bool
  | .unread .. => true
  | .checked .. | .broken .. => false

/-- The number of offenses in the file that comments suppress. -/
def ignored : FileOutcome → Nat
  | .checked _ result => result.ignored
  | .unread .. | .broken .. => 0

/-- The warning about the file, if it has no text. -/
def warnings : FileOutcome → List String
  | .unread name e => [e.warning name]
  | .checked .. | .broken .. => []

/-- The number of offenses in some files that comments suppress. -/
def ignoredIn : List FileOutcome → Nat
  | [] => 0
  | o :: outcomes => o.ignored + ignoredIn outcomes

theorem ignoredIn_eq_of_perm {one other : List FileOutcome} (h : one.Perm other) :
    ignoredIn one = ignoredIn other := by
  induction h with
  | nil => rfl
  | cons o _ ih => rw [ignoredIn, ignoredIn, ih]
  | swap o o' outcomes => exact Nat.add_left_comm _ _ _
  | trans _ _ ih ih' => exact ih.trans ih'

theorem file_of_mem_findings {o : FileOutcome} {f : Finding} (h : f ∈ o.findings) :
    f.file = o.name := by
  cases o with
  | checked name result =>
    obtain ⟨offense, -, rfl⟩ := List.mem_map.1 h
    rfl
  | _ => cases h

end FileOutcome

namespace LintRun

variable {one other : List FileOutcome}

/-- **A result is gathered from each outcome on its own.** -/
theorem foldl_add_eq (r : LintRun) (outcomes : List FileOutcome) :
    outcomes.foldl add r =
      ⟨r.report ++ outcomes.flatMap FileOutcome.findings,
        r.checked + outcomes.countP FileOutcome.isChecked,
        r.ignored + FileOutcome.ignoredIn outcomes,
        r.warnings ++ outcomes.flatMap FileOutcome.warnings⟩ := by
  induction outcomes generalizing r with
  | nil => simp [FileOutcome.ignoredIn]
  | cons o outcomes ih =>
    rw [List.foldl_cons, ih]
    cases o with
    | checked name result =>
      simp [add, Report.add, FileOutcome.findings, FileOutcome.isChecked, FileOutcome.ignored,
        FileOutcome.ignoredIn, FileOutcome.warnings, List.countP_cons, Nat.add_assoc,
        Nat.add_comm 1]
    | unread name e =>
      simp [add, FileOutcome.findings, FileOutcome.isChecked, FileOutcome.ignored,
        FileOutcome.ignoredIn, FileOutcome.warnings]
    | broken name b =>
      simp [add, FileOutcome.findings, FileOutcome.isChecked, FileOutcome.ignored,
        FileOutcome.ignoredIn, FileOutcome.warnings]

/-- The result of some outcomes, field by field. -/
theorem ofOutcomes_eq (outcomes : List FileOutcome) :
    ofOutcomes outcomes =
      ⟨outcomes.flatMap FileOutcome.findings, outcomes.countP FileOutcome.isChecked,
        FileOutcome.ignoredIn outcomes, outcomes.flatMap FileOutcome.warnings⟩ := by
  rw [ofOutcomes, foldl_add_eq]
  simp

/-- There is a result unless the work on a file broke off. -/
theorem ofOutcomes?_eq_ok_iff {outcomes : List FileOutcome} {run : LintRun} :
    ofOutcomes? outcomes = .ok run ↔
      (∀ o ∈ outcomes, o.failure? = none) ∧ run = ofOutcomes outcomes := by
  rw [← List.findSome?_eq_none_iff, ofOutcomes?]
  rcases outcomes.findSome? FileOutcome.failure? with _ | crash
  · simp [eq_comm]
  · simp

/-- Two results show the same. The warnings may come in another order. -/
structure Alike (r r' : LintRun) : Prop where
  report : r.report.Alike r'.report
  checked : r.checked = r'.checked
  ignored : r.ignored = r'.ignored
  warnings : r.warnings.Perm r'.warnings

/-- The findings in a file are those of the outcomes that go by its name. -/
theorem filter_flatMap_findings (outcomes : List FileOutcome) (file : String) :
    (outcomes.flatMap FileOutcome.findings).filter (·.file == file) =
      (outcomes.filter (·.name == file)).flatMap FileOutcome.findings := by
  induction outcomes with
  | nil => rfl
  | cons o outcomes ih =>
    rw [List.flatMap_cons, List.filter_append, ih, List.filter_cons]
    split
    · rename_i hname
      rw [List.flatMap_cons, List.filter_eq_self.2 fun f hf => ?_]
      rw [FileOutcome.file_of_mem_findings hf]
      exact hname
    · rename_i hname
      rw [List.filter_eq_nil_iff.2 fun f hf => ?_, List.nil_append]
      rw [FileOutcome.file_of_mem_findings hf]
      exact hname

/-- **Outcomes in any order.** The results show the same, if every name stands
for one outcome. -/
theorem alike_of_perm (hperm : one.Perm other)
    (hnames : ∀ o ∈ one, ∀ o' ∈ one, o.name = o'.name → o = o') :
    (ofOutcomes one).Alike (ofOutcomes other) := by
  rw [ofOutcomes_eq, ofOutcomes_eq]
  refine ⟨Report.alike_of_perm (hperm.flatMap_right _) fun file => ?_, hperm.countP_eq _,
    FileOutcome.ignoredIn_eq_of_perm hperm, hperm.flatMap_right _⟩
  -- All outcomes under one name are the same, so that their order does not matter.
  have hfiles : one.filter (·.name == file) = other.filter (·.name == file) := by
    refine List.Perm.eq_of_pairwise (fun o o' ho ho' _ _ => ?_)
      (List.pairwise_of_forall fun _ _ => trivial) (List.pairwise_of_forall fun _ _ => trivial)
      (hperm.filter _)
    obtain ⟨ho, hname⟩ := List.mem_filter.1 ho
    obtain ⟨ho', hname'⟩ := List.mem_filter.1 ho'
    exact hnames o ho o' (hperm.mem_iff.2 ho') ((eq_of_beq hname).trans (eq_of_beq hname').symm)
  rw [filter_flatMap_findings, filter_flatMap_findings, hfiles]

end LintRun

/-! ## Runs -/

/-- Where nothing broke off, every file is checked or has no text. -/
theorem FileOutcome.countP_isChecked_add_isUnread {outcomes : List FileOutcome}
    (h : ∀ o ∈ outcomes, o.failure? = none) :
    outcomes.countP isChecked + outcomes.countP isUnread = outcomes.length := by
  rw [List.length_eq_countP_add_countP isChecked]
  congr 1
  refine List.countP_congr fun o ho => ?_
  have hfailure := h o ho
  cases o with
  | checked => exact iff_of_false nofun nofun
  | unread => exact iff_of_true rfl rfl
  | broken => cases hfailure

namespace Setup

variable {s : Setup} {w : Workspace} {p : Project} {paths : List Path} {disabled : List String}

theorem name_outcome (file : Path) : (s.outcome w p disabled file).name = w.nameOf p file := by
  unfold outcome
  dsimp only
  split
  · rfl
  · split
    · rfl
    · split
      · rfl
      · rfl

/-- **Every name stands for one outcome.** -/
theorem outcome_inj (hroot : w.root.Plain) (hhere : w.here.Plain) (habsolute : w.here.isAbsolute)
    (hpaths : ∀ path ∈ paths, path.Plain) {o o' : FileOutcome}
    (ho : o ∈ s.outcomes w p paths disabled) (ho' : o' ∈ s.outcomes w p paths disabled)
    (hname : o.name = o'.name) : o = o' := by
  obtain ⟨file, hfile, rfl⟩ := List.mem_map.1 ho
  obtain ⟨file', hfile', rfl⟩ := List.mem_map.1 ho'
  obtain ⟨hstart, hplain⟩ := Discovery.plain_of_mem_files hroot hhere habsolute hpaths hfile
  obtain ⟨hstart', hplain'⟩ := Discovery.plain_of_mem_files hroot hhere habsolute hpaths hfile'
  rw [name_outcome, name_outcome] at hname
  rw [Discovery.displayName_inj hstart hstart' hplain hplain' hname]

/-- **The order in which files are done does not show.** Whatever order the
outcomes come in, the run comes to a result if it does so in any other order.
The results list the same and count the same, they are printed alike in each
form, and they warn of the same. Every file is checked or has no text. -/
theorem completion_irrelevant (hroot : w.root.Plain) (hhere : w.here.Plain)
    (habsolute : w.here.isAbsolute) (hpaths : ∀ path ∈ paths, path.Plain)
    {one other : List FileOutcome} (hone : one.Perm (s.outcomes w p paths disabled))
    (hother : other.Perm (s.outcomes w p paths disabled)) {run : LintRun}
    (hrun : LintRun.ofOutcomes? one = .ok run) :
    ∃ run', LintRun.ofOutcomes? other = .ok run' ∧
      run.report.sorted = run'.report.sorted ∧ run.checked = run'.checked ∧
      run.ignored = run'.ignored ∧ run.exitCode = run'.exitCode ∧
      run.warnings.Perm run'.warnings ∧ (∀ format, run.output format = run'.output format) ∧
      run.checked + (Discovery.files w.root w.here p.settings paths).countP
          (fun file => (s.outcome w p disabled file).isUnread) =
        (Discovery.files w.root w.here p.settings paths).length := by
  obtain ⟨hunbroken, rfl⟩ := LintRun.ofOutcomes?_eq_ok_iff.1 hrun
  have hperm := hone.trans hother.symm
  have halike := LintRun.alike_of_perm hperm fun o ho o' ho' =>
    outcome_inj hroot hhere habsolute hpaths (hone.mem_iff.1 ho) (hone.mem_iff.1 ho')
  refine ⟨_, LintRun.ofOutcomes?_eq_ok_iff.2
    ⟨fun o ho => hunbroken o (hperm.mem_iff.2 ho), rfl⟩, halike.report.sorted, halike.checked,
    halike.ignored, halike.report.exitCode, halike.warnings, fun format => ?_, ?_⟩
  · rw [LintRun.output, LintRun.output, halike.checked, halike.ignored, halike.report.output]
  · have hcount := FileOutcome.countP_isChecked_add_isUnread hunbroken
    rw [hone.countP_eq FileOutcome.isUnread, hone.length_eq, outcomes, List.countP_map,
      List.length_map] at hcount
    rw [LintRun.ofOutcomes_eq]
    exact hcount

/-- Four files, of which one has octets that are no text and another cannot be opened,
done from the last to the first: two are checked. -/
theorem completion_irrelevant_backwards :
    let s : Setup := { linter := Linter.standard {} }
    let w : Workspace :=
      { root := .directory [(['a'], .file [97]), (['b'], .file [98, 10, 10, 10, 10, 10, 99]),
          (['c'], .file [255]), (['d'], .unreadable (.refused 13 "Permission denied"))]
        here := ⟨.root, []⟩, modules := [], imports := fun _ => .done [], home := "" }
    let p : Project := ⟨{}, none⟩
    let paths : List Path :=
      [⟨.here, [['a']]⟩, ⟨.here, [['b']]⟩, ⟨.here, [['c']]⟩, ⟨.here, [['d']]⟩]
    let outcomes := s.outcomes w p paths []
    ∃ run run', LintRun.ofOutcomes? outcomes.reverse = .ok run ∧
      LintRun.ofOutcomes? outcomes = .ok run' ∧ run.report.sorted = run'.report.sorted ∧
      (∀ format, run.output format = run'.output format) ∧ run.checked = 2 ∧ run'.checked = 2 := by
  intro s w p paths outcomes
  have hroot : w.root.Plain := by
    refine .directory (by decide) fun e he => ?_
    simp only [List.mem_cons, List.not_mem_nil, or_false] at he
    rcases he with rfl | rfl | rfl | rfl
    · exact .file _
    · exact .file _
    · exact .file _
    · exact .unreadable _
  -- What order the files are listed in does not matter for what they come to.
  let files : List Path :=
    [⟨.root, [['a']]⟩, ⟨.root, [['b']]⟩, ⟨.root, [['c']]⟩, ⟨.root, [['d']]⟩]
  have hfiles : (Discovery.files w.root w.here p.settings paths).Perm files :=
    (List.mergeSort_perm _ _).trans (.of_eq (by decide +kernel))
  have hunbroken : ∀ o ∈ outcomes.reverse, o.failure? = none := by
    intro o ho
    obtain ⟨file, hfile, rfl⟩ := List.mem_map.1 (List.mem_reverse.1 ho)
    have hall : ∀ file ∈ files, (s.outcome w p [] file).failure? = none := by
      decide +kernel
    exact hall file (hfiles.mem_iff.1 hfile)
  obtain ⟨run', hrun', hsorted, hchecked, -, -, -, houtput, hcount⟩ :=
    completion_irrelevant hroot (by decide) (by decide) (by decide) (List.reverse_perm outcomes)
      (List.Perm.refl outcomes) (LintRun.ofOutcomes?_eq_ok_iff.2 ⟨hunbroken, rfl⟩)
  have hunread : files.countP (fun file => (s.outcome w p [] file).isUnread) = 2 := by
    decide +kernel
  rw [hfiles.countP_eq, hfiles.length_eq, hunread] at hcount
  have htwo : (LintRun.ofOutcomes outcomes.reverse).checked = 2 :=
    Nat.succ.inj (Nat.succ.inj hcount)
  exact ⟨_, run', LintRun.ofOutcomes?_eq_ok_iff.2 ⟨hunbroken, rfl⟩, hrun', hsorted, houtput, htwo,
    hchecked.symm.trans htwo⟩

end Setup

end TemplateLint
