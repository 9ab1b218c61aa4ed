import TemplateLint.Position
import TemplateLint.Value.Basic
/-!
# Offenses — what a rule finds

An offense names the rule that found it, says what is wrong and where,
and has a severity once the linter has bound it to one. It may carry a
note that only the fixer of the same rule reads. Two offenses that differ
in their notes alone are the same offense (`Offense.same`). A scripted
rule may report something else than texts; an offense then carries that
beside the texts it goes by.
-/

namespace TemplateLint

/-- How bad an offense is. -/
inductive Severity where
  | error
  | warning
  deriving DecidableEq, Repr

namespace Severity

/-- All severities. -/
def all : List Severity := [.error, .warning]

/-- The word for a severity. -/
def word : Severity → String
  | .error => "error"
  | .warning => "warning"

/-- The severity that a word stands for. -/
def ofWord? (w : String) : Option Severity :=
  all.find? fun s => s.word == w

/-- The word in capitals. -/
def heading : Severity → String
  | .error => "ERROR"
  | .warning => "WARNING"

end Severity

/-- A place where a template breaks a rule. -/
structure Offense where
  rule : String
  message : String
  location : Location
  severity : Option Severity
  /-- What a report shows for the rule. -/
  code : String
  /-- What the fixer of the rule needs to know. -/
  note : Option Table
  /-- What a table of the offense shows for the rule, the message or the
  code where that is no text. -/
  instead : Table := []
  deriving Repr

namespace Offense

/-- Who reports. -/
def source : String := "Herb Linter"

/-- An offense that no severity is bound to, shown under the name of its
rule. -/
def found (rule message : String) (location : Location) : Offense :=
  { rule, message, location, severity := none, code := rule, note := none }

/-- The offense with the severity its rule is configured to have. One that
the rule stamped as an error stays an error. -/
def bind (o : Offense) (severity : Severity) : Offense :=
  if o.severity = some .error then o else { o with severity := some severity }

/-- Everything but the note agrees. -/
def same (a b : Offense) : Bool :=
  a.rule == b.rule && a.message == b.message && a.location == b.location
    && a.severity == b.severity && a.code == b.code
    && (Value.table a.instead).alike (.table b.instead)

/-- The rule of an offense has a text for a name. -/
def namesRule (o : Offense) : Bool :=
  (o.instead.get? "rule").isNone

/-- Where an offense starts. -/
def start (o : Offense) : Position :=
  o.location.start

end Offense

end TemplateLint
