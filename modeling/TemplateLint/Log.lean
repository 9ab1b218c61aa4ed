/-!
# Log — what happens along the way

Beside its result an operation keeps a log: records in the order of what
happened, each with a level, the part of the program it comes from, and
its words.
-/

namespace TemplateLint

/-- How much a record of the log matters. -/
inductive LogLevel where
  | debug
  | info
  | warning
  | error
  deriving DecidableEq, Repr

namespace LogLevel

/-- The word for a level. -/
def word : LogLevel → String
  | .debug => "DEBUG"
  | .info => "INFO"
  | .warning => "WARNING"
  | .error => "ERROR"

/-- The levels in rising order. -/
def rank : LogLevel → Nat
  | .debug => 0
  | .info => 1
  | .warning => 2
  | .error => 3

end LogLevel

/-- The parts of the program that write to the log. -/
inductive LogSource where
  | linter
  | runner
  | loader
  | scanner
  deriving DecidableEq, Repr

/-- The name a part of the program goes by. -/
def LogSource.name : LogSource → String
  | .linter => "herblint.linter"
  | .runner => "herblint.runner"
  | .loader => "herblint.loader"
  | .scanner => "herblint.scanner"

/-- A record of the log. -/
structure LogRecord where
  level : LogLevel
  source : LogSource
  message : String
  deriving DecidableEq, Repr

/-- The records of a log, in the order of what happened. -/
abbrev Log := List LogRecord

end TemplateLint
