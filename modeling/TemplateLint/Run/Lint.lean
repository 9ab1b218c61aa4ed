import TemplateLint.Run.Basic
/-!
# Run — linting files

Every file of a run is linted on its own and has an outcome: what its
linting came to, or why it has no text. The result of the run is gathered
from the outcomes one by one (`LintRun.ofOutcomes?`), in the order in which
they come in. That order is nothing that the result shows: its findings
are listed by place, and the rest of it only counts.
-/

namespace TemplateLint

/-- What became of a file. -/
inductive FileOutcome where
  | checked (name : String) (result : LintResult)
  | unread (name : String) (error : ReadError)
  | broken (name : String) (breakdown : Linter.Breakdown)
  deriving Repr

namespace FileOutcome

/-- What the file goes by. -/
def name : FileOutcome → String
  | .checked name _ => name
  | .unread name _ => name
  | .broken name _ => name

/-- What is logged as the file is opened. -/
def opening (o : FileOutcome) : LogRecord :=
  ⟨.debug, .runner, "Linting " ++ o.name⟩

/-- What is logged while the file is linted. -/
def working : FileOutcome → Log
  | .checked name result =>
    let note := s!"{name}: {result.offenses.length} offenses, {result.ignored} ignored"
    result.log ++ [⟨.debug, .runner, note⟩]
  | .unread .. => []
  | .broken _ b => b.log

/-- What is logged about the file once that is done. -/
def closing : FileOutcome → Log
  | .unread name e => [⟨.warning, .runner, e.warning name⟩]
  | .checked .. | .broken .. => []

/-- What is logged about the file. -/
def log (o : FileOutcome) : Log :=
  o.opening :: (o.working ++ o.closing)

/-- How the linting of the file broke off, if it did. -/
def failure? : FileOutcome → Option Crash
  | .broken _ b => some b.crash
  | .checked .. | .unread .. => none

end FileOutcome

/-- What linting files comes to. -/
structure LintRun where
  report : Report := []
  /-- The number of files with a text. -/
  checked : Nat := 0
  /-- The number of offenses that comments suppress. -/
  ignored : Nat := 0
  warnings : List String := []
  deriving Repr

namespace LintRun

/-- The result with one more file. -/
def add (r : LintRun) : FileOutcome → LintRun
  | .checked name result =>
    { r with
      report := r.report.add name result.offenses
      checked := r.checked + 1
      ignored := r.ignored + result.ignored }
  | .unread name e => { r with warnings := r.warnings ++ [e.warning name] }
  | .broken .. => r

/-- The result of some outcomes, in the order in which they come in. -/
def ofOutcomes (outcomes : List FileOutcome) : LintRun :=
  outcomes.foldl add {}

/-- The result of some outcomes, unless the work on a file broke off: the run
does so with the first of them. -/
def ofOutcomes? (outcomes : List FileOutcome) : Except Crash LintRun :=
  match outcomes.findSome? FileOutcome.failure? with
  | some crash => .error crash
  | none => .ok (ofOutcomes outcomes)

/-- What a run exits with. -/
def exitCode (r : LintRun) : Nat :=
  r.report.exitCode

/-- The output of a run. -/
def output (r : LintRun) (format : OutputFormat) : String :=
  r.report.output format r.checked r.ignored

end LintRun

namespace Setup

/-- A failure like those to find and to decode a file: any failure of the
system is one. -/
def isReadFailure (crash : Crash) : Bool :=
  crash.isOf "OSError" || crash.isOf "UnicodeDecodeError"

/-- What becomes of one file. -/
def outcome (s : Setup) (w : Workspace) (p : Project) (disabled : List String) (file : Path) :
    FileOutcome :=
  let name := w.nameOf p file
  match w.root.text? file with
  | .error e => .unread name e
  | .ok source =>
    match s.linter.lintSource? source (some name) disabled with
    | .ok result => .checked name result
    | .error b => if isReadFailure b.crash then .unread name (.parser b.crash) else .broken name b

/-- What becomes of the files that some paths stand for. -/
def outcomes (s : Setup) (w : Workspace) (p : Project) (paths : List Path)
    (disabled : List String) : List FileOutcome :=
  (Discovery.files w.root w.here p.settings paths).map (s.outcome w p disabled)

/-- What is logged before the first file is linted. -/
def lintLog (w : Workspace) (p : Project) (paths : List Path) : Log :=
  let count := (Discovery.files w.root w.here p.settings paths).length
  Discovery.log w.root w.here p.settings paths ++ [⟨.info, .runner, s!"Found {count} files"⟩]

/-- **Linting the files that some paths stand for.** Every file is opened
before it shows that the work on one of them broke off. -/
def lint (s : Setup) (w : Workspace) (p : Project) (paths : List Path) (disabled : List String) :
    Except RunFailure (LintRun × Log) :=
  match pathFailure? w p paths with
  | some failure => .error failure
  | none =>
    let outcomes := s.outcomes w p paths disabled
    let log := lintLog w p paths
    match LintRun.ofOutcomes? outcomes with
    | .error crash =>
      .error { error := .crash crash, log := log ++ outcomes.flatMap fun o => o.opening :: o.working }
    | .ok run =>
      .ok (run, log ++ outcomes.flatMap FileOutcome.log ++ [⟨.info, .runner, "Completed"⟩])

end Setup

end TemplateLint
