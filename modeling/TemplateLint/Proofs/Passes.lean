import TemplateLint.Proofs.Calls
import TemplateLint.Proofs.Settling
/-!
# Passes — where repeated fixing stops

Repeated fixing makes one pass after the other, each over what the last one
gave back, until one changes nothing, one breaks off, or none is left.
`Linter.Repeats` tells such a run by the passes it makes, with one rule for
each way it can go on. What holds of every run is read off these rules: it
makes no more passes than it may, it ends where repeated passes lead, and it
says that it did not settle where every pass changed something
(`Linter.fixSource_stops`). Nothing is asked of rules and printers.
-/

namespace TemplateLint

namespace Linter

variable {l : Linter} {name : Option String}

/-! ## What a pass logs -/

/-- Records that the linter itself writes. -/
def OfLinter (log : Log) : Prop :=
  ∀ r ∈ log, r.source = .linter

theorem OfLinter.nil : OfLinter [] := fun _ hr =>
  absurd hr List.not_mem_nil

theorem OfLinter.append {log log' : Log} (h : OfLinter log) (h' : OfLinter log') :
    OfLinter (log ++ log') := fun r hr =>
  (List.mem_append.1 hr).elim (h r) (h' r)

theorem ofLinter_logOf (d : Document) (context : Context) (b : BoundRule) :
    OfLinter (logOf d context b) := by
  intro r hr
  unfold logOf at hr
  split at hr
  · cases hr
  · rw [List.mem_singleton.1 hr]

theorem ofLinter_flatMap_logOf (d : Document) (context : Context) (bs : List BoundRule) :
    OfLinter (bs.flatMap (logOf d context)) := fun r hr => by
  obtain ⟨b, -, hr⟩ := List.mem_flatMap.1 hr
  exact ofLinter_logOf d context b r hr

theorem ofLinter_lint (l : Linter) (d : Document) (fileName : Option String)
    (disabled : List String) : OfLinter (l.lint d fileName disabled).log := by
  simp only [lint, settle]
  split
  · exact fun r hr => by rw [List.mem_singleton.1 hr]
  · split
    · exact ofLinter_flatMap_logOf _ _ _
    · split
      · exact ofLinter_flatMap_logOf _ _ _
      · exact (ofLinter_flatMap_logOf _ _ _).append (ofLinter_flatMap_logOf _ _ _)

theorem ofLinter_of_lint?_error {d : Document} {fileName : Option String}
    {disabled : List String} {b : Breakdown} (h : l.lint? d fileName disabled = .error b) :
    OfLinter b.log := by
  simp only [lint?, lintIncluded?] at h
  split at h
  · cases h
  · split at h
    · cases h
      exact .nil
    · split at h
      · cases h
      · cases h
        exact ofLinter_flatMap_logOf _ _ _

/-- Calls of fixers log nothing but their crashes. -/
theorem ofLinter_loggedBy {α : Type} (p : Phase α) (context : Context) (input : α)
    (calls : List FixCall) : OfLinter (p.loggedBy context input calls) := by
  induction calls generalizing input with
  | nil => exact .nil
  | cons c calls ih =>
    refine OfLinter.append (fun r hr => ?_) (ih _)
    unfold Phase.logOf callFixer at hr
    split at hr
    · cases hr
    · split at hr
      · cases hr
      · rw [List.mem_singleton.1 hr]

theorem ofLinter_fixedDocument {d : Document} {context : Context} {linted : LintResult}
    (h : OfLinter linted.log) : OfLinter (l.fixedDocument d context linted).log := by
  obtain ⟨left, hparsed, -⟩ := fixedDocument_calls l d context linted
  rw [hparsed]
  exact h.append (ofLinter_loggedBy _ _ _ _)

theorem ofLinter_finish {d : Document} {context : Context} {linted : LintResult} {source : Text}
    (h : OfLinter linted.log) :
    OfLinter (l.finish context linted (l.fixedDocument d context linted) source).log := by
  rw [finish_calls]
  exact (ofLinter_fixedDocument h).append (ofLinter_loggedBy _ _ _ _)

/-- What a pass logs, whether it comes to a result or breaks off. -/
def answerLog : Except Breakdown AutofixResult → Log
  | .ok result => result.log
  | .error b => b.log

/-- **The records of a pass are the linter's own.** -/
theorem ofLinter_autofix? (l : Linter) (d : Document) (fileName : Option String)
    (disabled : List String) : OfLinter (answerLog (l.autofix? d fileName disabled)) := by
  rcases hlint : l.lint? d fileName disabled with b | linted
  · simp only [autofix?, hlint, bind, Except.bind]
    exact ofLinter_of_lint?_error hlint
  · have hlog : OfLinter linted.log := eq_lint_of_lint? hlint ▸ ofLinter_lint l d fileName disabled
    simp only [autofix?, hlint, bind, Except.bind, pure, Except.pure, throw, throwThe,
      MonadExceptOf.throw]
    split
    · exact hlog
    · split
      · exact hlog
      · split
        · exact ofLinter_fixedDocument hlog
        · exact ofLinter_finish hlog

theorem ofLinter_autofixSource? (l : Linter) (source : Text) (name : Option String) :
    OfLinter (answerLog (l.autofixSource? source name)) := by
  unfold autofixSource?
  split
  · exact .nil
  · exact ofLinter_autofix? l _ name []

/-- No pass says for itself that the passes did not suffice. -/
theorem unsettled_not_mem {source : Text} {answer : Except Breakdown AutofixResult}
    (h : l.autofixSource? source name = answer) (passes : Int) :
    unsettled name passes ∉ answerLog answer := by
  rw [← h]
  exact fun hmem => nomatch ofLinter_autofixSource? l source name _ hmem

/-! ## What a pass accounts for -/

/-- The parser, if there is one, gives a document of the source it was given. -/
def KeepsSource (l : Linter) : Prop :=
  ∀ parse, l.parse = some parse → ∀ source d, parse source = .ok d → d.source = source

theorem KeepsSource.source_eq (h : l.KeepsSource) {source : Text} {d : Document}
    (hread : l.read? source = .ok d) : d.source = source := by
  unfold read? at hread
  split at hread
  · cases hread
    rfl
  · exact h _ ‹_› source d hread

/-- A pass that comes to a result read a document, and is the pass over it. -/
theorem exists_of_autofixSource? {source : Text} {result : AutofixResult}
    (h : l.autofixSource? source name = .ok result) :
    ∃ d, l.read? source = .ok d ∧ l.autofix? d name [] = .ok result := by
  unfold autofixSource? at h
  split at h
  · cases h
  · exact ⟨_, ‹_›, h⟩

theorem KeepsSource.source_of_fixed_eq_nil (hkeeps : l.KeepsSource) {source : Text}
    {result : AutofixResult} (h : l.autofixSource? source name = .ok result)
    (hnone : result.fixed = []) : result.source = source := by
  obtain ⟨d, hread, hfix⟩ := exists_of_autofixSource? h
  obtain rfl := eq_autofix_of_autofix? hfix
  exact (source_autofix_of_fixed_eq_nil hnone).trans (hkeeps.source_eq hread)

/-- **A pass fixes, leaves or overlooks what linting reports**, every offense
once. -/
theorem perm_autofix (l : Linter) (d : Document) (fileName : Option String)
    (disabled : List String) :
    let linted := l.lint d fileName disabled
    let result := l.autofix d fileName disabled
    (result.fixed ++ (result.unfixed ++ l.overlooked linted.offenses)).Perm linted.offenses := by
  intro linted result
  simp only [result, autofix]
  split
  · rename_i hempty
    rw [show linted.offenses = [] from List.isEmpty_iff.1 hempty]
    exact .nil
  · exact perm_finish l d _ linted _

/-- **A pass that fixes nothing leaves what linting reports**, but for what it
overlooks. -/
theorem length_unfixed {source : Text} {result : AutofixResult}
    (h : l.autofixSource? source name = .ok result) (hnone : result.fixed = []) :
    ∃ linted, l.lintSource? source name [] = .ok linted ∧
      result.unfixed.length + (l.overlooked linted.offenses).length = linted.offenses.length := by
  obtain ⟨d, hread, hfix⟩ := exists_of_autofixSource? h
  refine ⟨l.lint d name [], ?_, ?_⟩
  · rw [lintSource?, hread]
    exact lint?_of_autofix? hfix
  · obtain rfl := eq_autofix_of_autofix? hfix
    have hlength := (perm_autofix l d name []).length_eq
    rwa [hnone, List.nil_append, List.length_append] at hlength

/-! ## Passes, one after the other -/

/-- The source after so many passes, however little they change. -/
def sourceAfter? (l : Linter) (name : Option String) : Nat → Text → Except Breakdown Text
  | 0, source => .ok source
  | count + 1, source => do
    let result ← l.autofixSource? source name
    l.sourceAfter? name count result.source

theorem sourceAfter?_succ {source : Text} {result : AutofixResult}
    (h : l.autofixSource? source name = .ok result) (count : Nat) :
    l.sourceAfter? name (count + 1) source = l.sourceAfter? name count result.source := by
  rw [sourceAfter?, h]
  rfl

/-- **Where a pass changes nothing, no number of passes does.** -/
theorem sourceAfter?_of_fixed {source : Text} {result : AutofixResult}
    (h : l.autofixSource? source name = .ok result) (hsame : result.source = source) (count : Nat) :
    l.sourceAfter? name count source = .ok source := by
  induction count with
  | zero => rfl
  | succ count ih => rw [sourceAfter?_succ h, hsame, ih]

/-- A pass over a source, and what it came to. -/
structure Pass where
  source : Text
  answer : Except Breakdown AutofixResult

/-- The pass fixed something, and changed the source. -/
def Pass.Changes (p : Pass) : Prop :=
  ∃ result, p.answer = .ok result ∧ result.fixed ≠ [] ∧ result.source ≠ p.source

/-- How a pass broke off, if it did. -/
def failureOf : Except Breakdown AutofixResult → Option Crash
  | .ok _ => none
  | .error b => some b.crash

/-- What is logged of a pass that another one follows. -/
def passNote (name : Option String) (pass count : Nat) : LogRecord :=
  ⟨.debug, .runner, s!"{fixedName name}: pass {pass} fixed {count} offenses"⟩

/-- **A run of repeated fixing**, after `done` passes the last of which left
`unfixed` offenses: the passes that it makes, and what it comes to. -/
inductive Repeats (l : Linter) (name : Option String) :
    (done left unfixed : Nat) → Text → List Pass → FixOutcome → Prop
  /-- No pass is left. -/
  | exhausted (done unfixed : Nat) (source : Text) :
    Repeats l name done 0 unfixed source [] { source, unfixed, log := [unsettled name done] }
  /-- The pass breaks off. -/
  | broken (done left unfixed : Nat) {source : Text} {b : Breakdown}
      (answer : l.autofixSource? source name = .error b) :
    Repeats l name done (left + 1) unfixed source [⟨source, .error b⟩]
      { source, unfixed, log := b.log, failure := some b.crash }
  /-- The pass fixes nothing, or gives the source back. -/
  | settled (done left unfixed : Nat) {source : Text} {result : AutofixResult}
      (answer : l.autofixSource? source name = .ok result)
      (stops : result.fixed = [] ∨ result.source = source) :
    Repeats l name done (left + 1) unfixed source [⟨source, .ok result⟩]
      { source, unfixed := result.unfixed.length, log := result.log }
  /-- The pass changes something, and another one follows if it may. -/
  | again (done left unfixed : Nat) {source : Text} {result : AutofixResult} {made : List Pass}
      {outcome : FixOutcome} (answer : l.autofixSource? source name = .ok result)
      (fixed : result.fixed ≠ []) (changed : result.source ≠ source)
      (rest : Repeats l name (done + 1) left result.unfixed.length result.source made outcome) :
    Repeats l name done (left + 1) unfixed source (⟨source, .ok result⟩ :: made)
      { outcome with
        log := result.log ++ passNote name (done + 1) result.fixed.length :: outcome.log }

/-- **Repeated fixing is such a run.** -/
theorem exists_repeats (l : Linter) (name : Option String) (done left unfixed : Nat)
    (source : Text) :
    ∃ made, l.Repeats name done left unfixed source made
      (l.fixPasses name done left unfixed source) := by
  induction left generalizing done unfixed source with
  | zero => exact ⟨[], .exhausted done unfixed source⟩
  | succ left ih =>
    rw [fixPasses]
    split
    · exact ⟨_, .broken done left unfixed ‹_›⟩
    · rename_i result hanswer
      simp only
      split
      · rename_i hstops
        rw [Bool.or_eq_true, List.isEmpty_iff, decide_eq_true_iff] at hstops
        exact ⟨_, .settled done left unfixed hanswer hstops⟩
      · rename_i hgoes
        rw [Bool.or_eq_true, List.isEmpty_iff, decide_eq_true_iff, not_or] at hgoes
        obtain ⟨made, hrest⟩ := ih (done + 1) result.unfixed.length result.source
        exact ⟨_, .again done left unfixed hanswer hgoes.1 hgoes.2 hrest⟩

namespace Repeats

variable {done left unfixed : Nat} {source : Text} {made : List Pass} {outcome : FixOutcome}

/-- A run comes to what repeated fixing comes to. -/
theorem eq_fixPasses (h : l.Repeats name done left unfixed source made outcome) :
    l.fixPasses name done left unfixed source = outcome := by
  induction h with
  | exhausted => rfl
  | broken _ _ _ answer => rw [fixPasses, answer]
  | settled _ _ _ answer stops =>
    rw [fixPasses, answer]
    refine if_pos ?_
    rwa [Bool.or_eq_true, List.isEmpty_iff, decide_eq_true_iff]
  | again _ _ _ answer fixed changed _ ih =>
    rw [fixPasses, answer]
    simp only [ih]
    refine if_neg ?_
    rw [Bool.or_eq_true, List.isEmpty_iff, decide_eq_true_iff, not_or]
    exact ⟨fixed, changed⟩

/-- **A run looks at nothing but its passes.** Another linter with the same
answers goes the same way. -/
theorem congr {l' : Linter} (h : l.Repeats name done left unfixed source made outcome)
    (hsame : ∀ p ∈ made, l'.autofixSource? p.source name = p.answer) :
    l'.Repeats name done left unfixed source made outcome := by
  induction h with
  | exhausted => exact .exhausted _ _ _
  | broken => exact .broken _ _ _ (hsame _ (.head _))
  | settled _ _ _ _ stops => exact .settled _ _ _ (hsame _ (.head _)) stops
  | again _ _ _ _ fixed changed _ ih =>
    exact .again _ _ _ (hsame _ (.head _)) fixed changed (ih fun p hp => hsame p (.tail _ hp))

/-- **A run makes no more passes than it may.** -/
theorem length_le (h : l.Repeats name done left unfixed source made outcome) :
    made.length ≤ left := by
  induction h with
  | exhausted => exact le_rfl
  | broken => exact Nat.succ_le_succ (Nat.zero_le _)
  | settled => exact Nat.succ_le_succ (Nat.zero_le _)
  | again _ _ _ _ _ _ _ ih => exact Nat.succ_le_succ ih

/-- **Every pass of a run is over what the passes before it made of the source.** -/
theorem getElem?_made (h : l.Repeats name done left unfixed source made outcome) {i : Nat}
    {p : Pass} (hp : made[i]? = some p) :
    l.sourceAfter? name i source = .ok p.source ∧ p.answer = l.autofixSource? p.source name := by
  induction h generalizing i with
  | exhausted => cases hp
  | broken _ _ _ answer | settled _ _ _ answer =>
    obtain ⟨rfl, rfl⟩ : i = 0 ∧ _ = p := by
      simpa [List.getElem?_singleton] using hp
    exact ⟨rfl, answer.symm⟩
  | again _ _ _ answer _ _ _ ih =>
    cases i with
    | zero =>
      cases hp
      exact ⟨rfl, answer.symm⟩
    | succ i =>
      rw [sourceAfter?_succ answer]
      exact ih hp

/-- **A run that does not break off ends where repeated passes lead.** -/
theorem sourceAfter?_eq (hkeeps : l.KeepsSource)
    (h : l.Repeats name done left unfixed source made outcome) (hend : outcome.failure = none) :
    l.sourceAfter? name left source = .ok outcome.source := by
  induction h with
  | exhausted => rfl
  | broken => cases hend
  | settled _ left _ answer stops =>
    exact sourceAfter?_of_fixed answer
      (stops.elim (hkeeps.source_of_fixed_eq_nil answer) id) (left + 1)
  | again _ _ _ answer _ _ _ ih => rw [sourceAfter?_succ answer, ih hend]

/-- No pass and no note between passes says that the passes did not suffice. -/
theorem mem_again_iff {source : Text} {result : AutofixResult} {log : Log} {passes : Int}
    (answer : l.autofixSource? source name = .ok result) (pass count : Nat) :
    unsettled name passes ∈ result.log ++ passNote name pass count :: log ↔
      unsettled name passes ∈ log := by
  rw [List.mem_append, List.mem_cons]
  refine ⟨fun h => ?_, fun h => .inr (.inr h)⟩
  rcases h with h | h | h
  · exact absurd h (unsettled_not_mem answer passes)
  · exact nomatch congrArg LogRecord.level h
  · exact h

/-- **A run says that it did not settle where every pass it might make changed
something**, and then it did not break off. -/
theorem mem_log_iff (h : l.Repeats name done left unfixed source made outcome) :
    unsettled name (done + left : Nat) ∈ outcome.log ↔
      made.length = left ∧ outcome.failure = none ∧ ∀ p ∈ made, p.Changes := by
  induction h with
  | exhausted => simp
  | broken _ _ _ answer =>
    exact iff_of_false (unsettled_not_mem answer _) fun h => nomatch h.2.1
  | settled _ _ _ answer stops =>
    refine iff_of_false (unsettled_not_mem answer _) fun h => ?_
    obtain ⟨_, ⟨⟩, hfixed, hchanged⟩ := h.2.2 _ (.head _)
    exact stops.elim hfixed hchanged
  | again done left _ answer fixed changed _ ih =>
    rw [Nat.add_right_comm, Nat.add_assoc] at ih
    rw [mem_again_iff answer, ih, List.length_cons, Nat.add_right_cancel_iff, List.forall_mem_cons]
    exact and_congr_right fun _ => and_congr_right fun _ =>
      ⟨fun hrest => ⟨⟨_, rfl, fixed, changed⟩, hrest⟩, fun hall => hall.2⟩

/-- **How a run ends that does not say so**: its last pass is over the source that
it comes to, and breaks off or changes nothing. -/
theorem exists_last (h : l.Repeats name done left unfixed source made outcome)
    (hlog : unsettled name (done + left : Nat) ∉ outcome.log) :
    ∃ answer, made.getLast? = some ⟨outcome.source, answer⟩ ∧
      l.autofixSource? outcome.source name = answer ∧
      outcome.failure = failureOf answer ∧ ∀ last, answer = .ok last →
        outcome.unfixed = last.unfixed.length ∧
          (last.fixed = [] ∨ last.source = outcome.source) := by
  induction h with
  | exhausted => exact absurd (List.mem_singleton_self _) hlog
  | broken _ _ _ answer => exact ⟨_, rfl, answer, rfl, nofun⟩
  | settled _ _ _ answer stops =>
    refine ⟨_, rfl, answer, rfl, ?_⟩
    rintro _ ⟨⟩
    exact ⟨rfl, stops⟩
  | again _ _ _ answer _ _ _ ih =>
    rw [mem_again_iff answer, ← Nat.add_assoc, Nat.add_right_comm] at hlog
    obtain ⟨last, hlast, hend⟩ := ih hlog
    exact ⟨last, by rw [List.getLast?_cons, hlast]; rfl, hend⟩

end Repeats

/-! ## Where repeated fixing stops -/

/-- **Repeated fixing rests**: a pass over its outcome gives the outcome back and
leaves what is counted. If this pass fixes nothing, that is what linting
reports, but for what passes overlook, and they overlook nothing where every
rule looks at documents or at plain source. -/
structure Rests (l : Linter) (name : Option String) (outcome : FixOutcome)
    (last : AutofixResult) : Prop where
  pass : l.autofixSource? outcome.source name = .ok last
  source : last.source = outcome.source
  unfixed : outcome.unfixed = last.unfixed.length
  reported : last.fixed = [] → ∃ linted, l.lintSource? outcome.source name [] = .ok linted ∧
    outcome.unfixed + (l.overlooked linted.offenses).length = linted.offenses.length ∧
    ((∀ b ∈ l.rules, b.rule.kind = .parser ∨ b.rule.kind = .source) →
      outcome.unfixed = linted.offenses.length)

/-- **What repeated fixing comes to** with at most so many passes, by the passes
that it makes. -/
structure Stops (l : Linter) (name : Option String) (source : Text) (passes : Nat)
    (made : List Pass) (outcome : FixOutcome) : Prop where
  bounded : made.length ≤ passes
  iterated : ∀ i p, made[i]? = some p →
    l.sourceAfter? name i source = .ok p.source ∧ p.answer = l.autofixSource? p.source name
  onlyThese : ∀ l' : Linter, (∀ p ∈ made, l'.autofixSource? p.source name = p.answer) →
    l'.fixSource source name passes = outcome
  broken : ∀ crash, outcome.failure = some crash →
    ∃ b, made.getLast? = some ⟨outcome.source, .error b⟩ ∧ b.crash = crash
  result : outcome.failure = none → l.sourceAfter? name passes source = .ok outcome.source
  rests : outcome.failure = none → unsettled name passes ∉ outcome.log →
    ∃ last, made.getLast? = some ⟨outcome.source, .ok last⟩ ∧ l.Rests name outcome last
  exhausted : unsettled name passes ∈ outcome.log →
    made.length = passes ∧ ∀ p ∈ made, p.Changes

theorem rests_of_last (hkeeps : l.KeepsSource) {outcome : FixOutcome} {last : AutofixResult}
    (hpass : l.autofixSource? outcome.source name = .ok last)
    (hunfixed : outcome.unfixed = last.unfixed.length)
    (hstops : last.fixed = [] ∨ last.source = outcome.source) : l.Rests name outcome last := by
  refine ⟨hpass, hstops.elim (hkeeps.source_of_fixed_eq_nil hpass) id, hunfixed, fun hnone => ?_⟩
  obtain ⟨linted, hlint, hlength⟩ := length_unfixed hpass hnone
  rw [← hunfixed] at hlength
  refine ⟨linted, hlint, hlength, fun hkinds => ?_⟩
  rwa [overlooked_eq_nil hkinds, List.length_nil, Nat.add_zero] at hlength

theorem Repeats.stops (hkeeps : l.KeepsSource) {passes : Nat} {source : Text} {made : List Pass}
    {outcome : FixOutcome} (h : l.Repeats name 0 passes 0 source made outcome) :
    l.Stops name source passes made outcome := by
  have hlast := h.exists_last
  have hlog := h.mem_log_iff
  rw [Nat.zero_add] at hlast hlog
  refine ⟨h.length_le, fun i p hp => h.getElem?_made hp,
    fun l' hsame => (h.congr hsame).eq_fixPasses, fun crash hcrash => ?_,
    h.sourceAfter?_eq hkeeps, fun hend hquiet => ?_, fun hsaid => ?_⟩
  · have hquiet : unsettled name passes ∉ outcome.log := fun hsaid =>
      nomatch hcrash.symm.trans (hlog.1 hsaid).2.1
    obtain ⟨answer | b, hmade, -, hfailure, -⟩ := hlast hquiet
    · exact ⟨_, hmade, Option.some.inj (hfailure.symm.trans hcrash)⟩
    · exact nomatch hfailure.symm.trans hcrash
  · obtain ⟨b | last, hmade, hpass, hfailure, hok⟩ := hlast hquiet
    · exact nomatch hfailure.symm.trans hend
    · obtain ⟨hunfixed, hstops⟩ := hok last rfl
      exact ⟨last, hmade, rests_of_last hkeeps hpass hunfixed hstops⟩
  · obtain ⟨hlength, -, hchanges⟩ := hlog.1 hsaid
    exact ⟨hlength, hchanges⟩

/-- **Repeated fixing stops where a pass changes nothing, or at its bound.** It makes
at most so many passes, each over what the ones before made of the source, and
its outcome depends on nothing else. It breaks off only with a pass. Otherwise
it ends where repeated passes lead. If it does not say that it did not settle,
it rests there, and if it does, every pass fixed something and changed the
source. -/
theorem fixSource_stops (hkeeps : l.KeepsSource) (source : Text) (name : Option String)
    (passes : Int) (hpasses : 1 ≤ passes) :
    ∃ made, l.Stops name source passes.toNat made (l.fixSource source name passes) := by
  obtain ⟨count, rfl⟩ := Int.eq_ofNat_of_zero_le (Int.le_trans (by decide) hpasses)
  obtain ⟨made, h⟩ := l.exists_repeats name 0 count 0 source
  exact ⟨made, h.stops hkeeps⟩

/-- A rule that signs a text until it ends with two marks. -/
def signing : Linter where
  parse := some fun source => .ok (.ofText source)
  rules := [⟨{
    name := "sign"
    kind := .source
    check := fun input _ => .ok (
      if ['!', '!'] <:+ input.source then [] else [Offense.found "sign" "unsigned" .fallback])
    fixer := some fun _ input _ => .ok (.text (input.source ++ ['!'])) }, {}⟩]
  distinct := by decide

/-- Three passes are enough to sign a text twice, and the third one rests. Two
are not, and each of them changes the text. -/
theorem fixSource_stops_signing :
    (∃ made last, signing.Stops none ['a'] 3 made (signing.fixSource ['a'] none 3) ∧
      signing.Rests none (signing.fixSource ['a'] none 3) last ∧
      (signing.fixSource ['a'] none 3).source = ['a', '!', '!']) ∧
    ∃ made, signing.Stops none ['a'] 2 made (signing.fixSource ['a'] none 2) ∧
      made.length = 2 ∧ ∀ p ∈ made, p.Changes := by
  have hkeeps : signing.KeepsSource := by
    rintro parse ⟨⟩ source d ⟨⟩
    rfl
  constructor
  · obtain ⟨made, hstops⟩ := fixSource_stops hkeeps ['a'] none 3 (by decide)
    obtain ⟨last, -, hrests⟩ := hstops.rests (by decide +kernel) (by decide +kernel)
    exact ⟨made, last, hstops, hrests, by decide +kernel⟩
  · obtain ⟨made, hstops⟩ := fixSource_stops hkeeps ['a'] none 2 (by decide)
    exact ⟨made, hstops, hstops.exhausted (by decide +kernel)⟩

/-- A rule with a fixer that looks neither at documents nor at plain source. -/
def overlooking : Linter where
  rules := [⟨restless "odd" (.other "other") fun input => .ok (.text (input.source ++ ['!'])), {}⟩]
  distinct := by decide

/-- **What passes overlook is reported and not counted.** Repeated fixing rests
after a pass that fixes nothing, with no offense left, where linting reports one. -/
theorem fixSource_overlooks :
    overlooking.KeepsSource ∧ ∃ last linted,
      overlooking.autofixSource? ['x'] none = .ok last ∧ last.fixed = [] ∧
      (overlooking.fixSource ['x'] none 1).failure = none ∧
      unsettled none 1 ∉ (overlooking.fixSource ['x'] none 1).log ∧
      (overlooking.fixSource ['x'] none 1).source = ['x'] ∧
      (overlooking.fixSource ['x'] none 1).unfixed = 0 ∧
      overlooking.lintSource? ['x'] none [] = .ok linted ∧ linted.offenses.length = 1 := by
  refine ⟨nofun, overlooking.autofix (.ofText ['x']) none [],
    overlooking.lint (.ofText ['x']) none [], ?_, ?_, ?_, ?_, ?_, ?_, ?_, ?_⟩
  · rfl
  · decide +kernel
  · decide +kernel
  · decide +kernel
  · decide +kernel
  · decide +kernel
  · rfl
  · decide +kernel

end Linter

end TemplateLint
