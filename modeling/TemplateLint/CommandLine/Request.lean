import TemplateLint.CommandLine.Words
import TemplateLint.Run.Basic
/-!
# Command line — what is asked for

A command line opens with options that hold for every command, then names
a command, and goes on with options and operands of that. The opening is
read first (`Opening.read?`) and the rest once the settings of the project
are loaded (`Command.request?`), so of two faults the one in the opening is
reported.
-/

namespace TemplateLint

namespace CommandLine

/-- The commands. -/
inductive Command where
  | config
  | fix
  | lint
  | rules
  deriving DecidableEq, Repr

/-- What is asked for. -/
inductive Request where
  /-- Lint the files that paths stand for, except by some rules. -/
  | lint (format : Option OutputFormat) (disabled : List String) (paths : List Path)
  /-- Fix the files that paths stand for, or only count them. -/
  | fix (checkOnly : Bool) (paths : List Path)
  /-- List the rules. -/
  | rules (asJson : Bool)
  /-- Show the settings, or only say that they are valid. -/
  | config (validateOnly asJson : Bool)
  /-- Show how to call the program. -/
  | help
  deriving DecidableEq, Repr

/-- The option that shows how to call the program or a command. -/
def helpForm : OptionForm :=
  ⟨"--help", false⟩

/-! ## The opening -/

/-- The options that hold for every command. -/
structure General where
  config : Option String := none
  verbose : Bool := false
  debug : Bool := false
  deriving DecidableEq, Repr

/-- The lowest level of the records that are shown. -/
def General.threshold (g : General) : LogLevel :=
  if g.debug then .debug else if g.verbose then .info else .warning

/-- How a command line opens. -/
inductive Opening where
  | version
  | help
  /-- With options and the words of a command. -/
  | command (general : General) (words : List String)
  deriving DecidableEq, Repr

namespace Opening

/-- The options of the opening. -/
def forms : List OptionForm :=
  [⟨"--config", true⟩, ⟨"--verbose", false⟩, ⟨"--debug", false⟩, ⟨"--version", false⟩, helpForm]

/-- The opening of a command line. A question about the program goes
before all else. -/
def read? (words : List String) : Except UsageError Opening := do
  let given ← Words.read? forms false words
  match given.options.find? fun o => o.name == "--version" || o.name == "--help" with
  | some o => return if o.name == "--version" then .version else .help
  | none =>
    let general : General :=
      { config := given.value? "--config"
        verbose := given.has "--verbose"
        debug := given.has "--debug" }
    return .command general given.operands

end Opening

/-! ## The command -/

namespace Command

/-- All commands, sorted. -/
def all : List Command := [.config, .fix, .lint, .rules]

/-- The word for a command. -/
def word : Command → String
  | .config => "config"
  | .fix => "fix"
  | .lint => "lint"
  | .rules => "rules"

/-- The command that a word stands for. -/
def ofWord? (w : String) : Option Command :=
  all.find? fun c => c.word == w

/-- The error about a word that stands for no command. -/
def unknown (w : String) : UsageError :=
  .unknownCommand w (Similarity.close w.toList (all.map word))

/-- The options of a command. -/
def forms : Command → List OptionForm
  | .config => [⟨"--validate", false⟩, ⟨"--json", false⟩, helpForm]
  | .fix => [⟨"--check", false⟩, helpForm]
  | .lint => [⟨"--format", true⟩, ⟨"--disable", true⟩, helpForm]
  | .rules => [⟨"--json", false⟩, helpForm]

/-- Something stands where a word leads. If the word ends in a slash that
has to be a directory. -/
def leadsSomewhere (w : Workspace) (word : String) : Bool :=
  let t := word.toList
  let p := w.here.append (Path.read t)
  if t.isEmpty then false
  else if Text.endsWith ['/'] t || Text.endsWith ['/', '.'] t then w.root.hasDirectory p
  else w.root.exists? p

/-- The path that an operand names. -/
def path? (w : Workspace) (operand : String) : Except UsageError Path :=
  if operand.toList.contains '\x00' then .error .nullPath
  else if leadsSomewhere w operand then .ok (Path.read operand.toList)
  else .error (.noPath operand)

/-- The paths that operands name: where one stands, if there are none. -/
def paths? (w : Workspace) (operands : List String) : Except UsageError (List Path) :=
  if operands.isEmpty then .ok [⟨.here, []⟩] else operands.mapM (path? w)

/-- The form of the output that is chosen. -/
def format? (given : Words) : Except UsageError (Option OutputFormat) :=
  match given.value? "--format" with
  | none => .ok none
  | some w =>
    match OutputFormat.ofWord? w with
    | some f => .ok (some f)
    | none => .error (.badChoice "--format" w (OutputFormat.all.map OutputFormat.word))

/-- There are no operands. -/
def withoutOperands (given : Words) (r : Request) : Except UsageError Request :=
  if given.operands.isEmpty then .ok r else .error (.extraOperands given.operands)

/-- What a command with some words asks for. -/
def request? (w : Workspace) (c : Command) (words : List String) :
    Except UsageError Request := do
  let given ← Words.read? c.forms true words
  if given.has "--help" then return .help
  match c with
  | .config => withoutOperands given (.config (given.has "--validate") (given.has "--json"))
  | .fix => return .fix (given.has "--check") (← paths? w given.operands)
  | .lint =>
    let format ← format? given
    return .lint format (given.values "--disable") (← paths? w given.operands)
  | .rules => withoutOperands given (.rules (given.has "--json"))

end Command

end CommandLine

end TemplateLint
