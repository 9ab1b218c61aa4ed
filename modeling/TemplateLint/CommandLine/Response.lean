import TemplateLint.CommandLine.Request
import TemplateLint.Run.Lint
import TemplateLint.Run.Fix
import TemplateLint.Settings.File
import TemplateLint.Settings.Listing
/-!
# Command line — what comes of it

The program as a function: a command line in a workspace comes to a
response (`respond`), which says what is printed, what is logged, which
files get which text, and how the program exits. Only a `fix` that is not
asked to check changes anything.
-/

namespace TemplateLint

namespace CommandLine

/-- What ends the program and is not reported as an error. -/
inductive Failure where
  | project (error : ProjectError)
  | run (error : RunError)
  /-- A value among the settings cannot be shown. -/
  | unshown (value : Value)

/-- The words for such an end. -/
def Failure.message : Failure → String
  | .project e => e.message
  | .run e => e.message
  | .unshown v => if v.isOversized then Value.oversizedMessage "" else "a moment has no JSON form"

/-- What comes of a command line. -/
structure Response where
  exit : Nat := 0
  /-- The text that is printed. -/
  output : String := ""
  /-- Errors and warnings, which are printed apart from it. -/
  messages : List String := []
  log : Log := []
  changes : List FileChange := []
  failure : Option Failure := none

namespace Response

/-- The files of a workspace afterwards. -/
def rootAfter (r : Response) (w : Workspace) : FileTree :=
  FileChange.writeAll r.changes w.root

/-- The response with the records that are shown. -/
def shownFrom (r : Response) (threshold : LogLevel) : Response :=
  { r with log := r.log.filter fun record => threshold.rank ≤ record.level.rank }

/-- The response after a setup, with its warnings and its log. -/
def after (s : Setup) (r : Response) : Response :=
  { r with
    messages := s.warnings.map ("Warning: " ++ ·) ++ r.messages
    log := s.log ++ r.log }

/-- The program ends without a report. -/
def ofFailure (f : Failure) (log : Log) : Response :=
  { exit := 1, failure := some f, log }

/-- An error in the use of the program. A path that cannot be looked for
is not reported as one. -/
def ofUsageError (e : UsageError) : Response :=
  match e with
  | .nullPath => ofFailure (.run (.crash (.of "ValueError" e.message))) []
  | e => { exit := 2, messages := ["Error: " ++ e.message] }

/-- The settings of the project cannot be loaded. -/
def ofProjectError (e : ProjectError) : Response :=
  match e with
  | .undecodable _ | .oversized _ | .nullPath | .noTable => ofFailure (.project e) []
  | _ =>
    { exit := 1
      messages := ("Error: " ++ e.message) :: e.file?.toList.map fun p => "  in: " ++ p.toString }

/-- A run breaks off. Only a parser or a printer that is not there is
reported. -/
def ofRunFailure (f : RunFailure) : Response :=
  match f.error with
  | .plugin .noModuleName | .plugin .relativeName => ofFailure (.run f.error) f.log
  | .plugin e => { exit := 1, messages := ["Error: " ++ e.message], log := f.log }
  | e => ofFailure (.run e) f.log

end Response

/-! ## The commands -/

/-- The version of the program. -/
def version : String := "0.1.0"

/-- How to call the program. -/
def usage : String :=
  "Usage: herblint [OPTIONS] COMMAND [ARGS]...\n\n"
    ++ "  herblint - lint rules for HTML+ERB templates.\n\n"
    ++ "Options:\n"
    ++ "  --version      Show the version and exit.\n"
    ++ "  --config PATH  Path to pyproject.toml (default: search upward from current\n"
    ++ "                 directory)\n"
    ++ "  --verbose      Show progress and timing\n"
    ++ "  --debug        Show detailed trace\n"
    ++ "  --help         Show this message and exit.\n\n"
    ++ "Commands:\n"
    ++ "  config  Show or validate configuration.\n"
    ++ "  fix     Apply autofixes to HTML+ERB templates.\n"
    ++ "  lint    Run linting on HTML+ERB templates.\n"
    ++ "  rules   List built-in and custom rules with their resolved settings."

/-- What comes of a run of a project, once it is set up. -/
def withSetup (w : Workspace) (p : Project) (run : Setup → Response) : Response :=
  match Setup.ofProject? w p with
  | .error f => .ofRunFailure f
  | .ok s => (run s).after s

/-- What comes of linting. -/
def lintResponse (w : Workspace) (p : Project) (disabled : List String) (paths : List Path)
    (s : Setup) : Response :=
  match s.lint w p paths disabled with
  | .error f => .ofRunFailure f
  | .ok (r, log) =>
    { exit := r.exitCode
      output := r.output p.settings.format ++ "\n"
      messages := r.warnings.map ("Warning: " ++ ·)
      log }

/-- What is printed after a check of what could be fixed. -/
def checkedOutput (count : Nat) : String :=
  if count = 0 then "No changes needed.\n"
  else Report.counted count "file" ++ " would be changed.\n"

/-- What is printed after files were fixed. -/
def fixedOutput (count unfixed : Nat) : String :=
  "Fixed " ++ Report.counted count "file" ++ ".\n"
    ++ if unfixed = 0 then "" else Report.counted unfixed "offense" ++ " left unfixed.\n"

/-- What comes of fixing. -/
def fixResponse (w : Workspace) (p : Project) (checkOnly : Bool) (paths : List Path)
    (s : Setup) : Response :=
  match s.fix w p paths with
  | .error f => .ofRunFailure f
  | .ok (r, log) =>
    let count := r.changes.length
    let messages := r.warnings.map ("Warning: " ++ ·)
    if checkOnly then
      { exit := if count = 0 then 0 else 1, output := checkedOutput count, messages, log }
    else { output := fixedOutput count r.unfixed, messages, log, changes := r.changes }

/-- A word with blanks behind it, up to a width. -/
def padded (width : Nat) (word : String) : String :=
  word ++ String.ofList (List.replicate (width - word.length) ' ')

/-- The line about a rule, with the width of the names. -/
def ruleLine (width : Nat) (b : BoundRule) : String :=
  let status := if b.settings.isEnabled then b.settings.severity.word else "off"
  let fixable := if b.rule.isAutocorrectable then " (autofix)" else ""
  padded width b.name ++ "  " ++ padded 6 b.rule.kind.label ++ "  " ++ status ++ fixable

/-- The lines about rules, and their number. -/
def ruleLines (rules : List BoundRule) : List String :=
  let width := (rules.map (·.name.length)).foldl max 0
  rules.map (ruleLine width) ++ [s!"{rules.length} rules."]

/-- What comes of listing the rules. -/
def rulesResponse (asJson : Bool) (s : Setup) : Response :=
  let rules := s.linter.rules
  if asJson then
    let rows := Value.list (rules.map fun b => .table b.row)
    { output := rows.jsonIndented?.getD "" ++ "\n" }
  else { output := String.join ((ruleLines rules).map (· ++ "\n")) }

/-- What comes of showing the settings. -/
def configResponse (p : Project) (validateOnly asJson : Bool) : Response :=
  if validateOnly then { output := s!"Configuration valid: {p.fileShown}\n" }
  else
    match if asJson then p.jsonFlaw? else p.listingFlaw? with
    | some v => .ofFailure (.unshown v) []
    | none => { output := (if asJson then p.json?.getD "" else p.listing) ++ "\n" }

/-- A project with another form of output. -/
def withFormat (p : Project) (format : Option OutputFormat) : Project :=
  { p with settings := { p.settings with format := format.getD p.settings.format } }

/-- What comes of a request. -/
def answer (w : Workspace) (p : Project) : Request → Response
  | .lint format disabled paths =>
    let p := withFormat p format
    withSetup w p (lintResponse w p disabled paths)
  | .fix checkOnly paths => withSetup w p (fixResponse w p checkOnly paths)
  | .rules asJson => withSetup w p (rulesResponse asJson)
  | .config validateOnly asJson => configResponse p validateOnly asJson
  | .help => { output := usage ++ "\n" }

/-- What comes of a command and its words, once the settings of the project
are loaded. -/
def command (w : Workspace) (general : General) (c : Command) (words : List String) : Response :=
  let file := general.config.map fun f => Path.read f.toList
  match Project.load? w.root w.here file with
  | .error e => .ofProjectError e
  | .ok p =>
    match c.request? w words with
    | .error e => .ofUsageError e
    | .ok r => (answer w p r).shownFrom general.threshold

/-- What comes of a word that stands for no command. No command looks like
an option, so such a word is read as an option of the opening after
all. -/
def noCommand (word : String) (words : List String) : Response :=
  match Opening.read? (word :: words) with
  | .error e => .ofUsageError e
  | .ok .version => { output := s!"herblint, version {version}\n" }
  | .ok .help => { output := usage ++ "\n" }
  | .ok (.command ..) => .ofUsageError (Command.unknown word)

/-- **What comes of a command line.** One without words is an error that
is answered by how to call the program. -/
def respond (w : Workspace) (words : List String) : Response :=
  match Opening.read? words with
  | .error e => .ofUsageError e
  | .ok .version => { output := s!"herblint, version {version}\n" }
  | .ok .help => { output := usage ++ "\n" }
  | .ok (.command _ []) =>
    if words.isEmpty then { exit := 2, messages := [usage] } else .ofUsageError .missingCommand
  | .ok (.command general (word :: words)) =>
    match Command.ofWord? word with
    | some c => command w general c words
    | none => noCommand word words

end CommandLine

end TemplateLint
