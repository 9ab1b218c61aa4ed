import TemplateLint.Offense.Basic
import TemplateLint.Value.Literal
/-!
# Offenses — as tables

An offense as the table a report shows of it (`Offense.toTable`), and an
offense read from a table that describes it, where what is not described
has a default (`Offense.ofValue?`). A description may hold a span or a
severity that is none.
-/

namespace TemplateLint

/-! ## Writing -/

/-- A position as a table. -/
def Position.toTable (p : Position) : Table :=
  [("line", .int p.line), ("column", .int p.column)]

/-- A span as a table. -/
def Location.toTable (l : Location) : Table :=
  [("start", .table l.start.toTable), ("end", .table l.stop.toTable)]

/-- What a table of an offense shows under a key: a text, or what stands
there instead. -/
def Offense.shown (o : Offense) (key text : String) : Value :=
  (o.instead.get? key).getD (.str text)

/-- An offense as a table, without its note. -/
def Offense.toTable (o : Offense) : Table :=
  [("rule", o.shown "rule" o.rule), ("code", o.shown "code" o.code),
   ("message", o.shown "message" o.message),
   ("severity", o.severity.elim .null fun s => .str s.word),
   ("source", .str Offense.source), ("location", .table o.location.toTable)]

/-! ## Reading -/

/-- Why a value describes nothing. -/
inductive DescriptionError where
  /-- A position or a span is none. -/
  | badLocation (error : LocationError)
  /-- A line or a column is no number. -/
  | noNumber (value : Value)
  /-- A span has not four numbers, but so many. -/
  | badCount (given : Nat)
  /-- A span is no list. -/
  | noItems (value : Value)
  /-- A severity is none. -/
  | badSeverity (value : Value)
  /-- What should be a table is none. -/
  | noTable (value : Value)
  deriving Repr

/-- The words for a value that is no severity. -/
def Severity.unknownMessage (v : Value) : String :=
  String.ofList v.literal ++ " is not a valid Severity"

namespace DescriptionError

/-- The numbers of a span. -/
def numberNames : List String :=
  ["'start_line'", "'start_column'", "'end_line'", "'end_column'"]

/-- The words for a span of not four numbers. -/
def countMessage (given : Nat) : String :=
  let missing := numberNames.drop given
  let listed := match missing with
    | [a, b] => a ++ " and " ++ b
    | _ => ", ".intercalate (missing.dropLast ++ missing.getLast?.toList.map fun name =>
        if missing.length > 2 then "and " ++ name else name)
  let arguments := if missing.length = 1 then "argument" else "arguments"
  "Location.from_coordinates() " ++
    if given > 4 then s!"takes 5 positional arguments but {given + 1} were given"
    else s!"missing {missing.length} required positional {arguments}: {listed}"

/-- The words for a value that describes nothing. -/
def message : DescriptionError → String
  | .badLocation e => e.message
  | .noNumber v => s!"'<' not supported between instances of '{v.kindWord}' and 'int'"
  | .badCount given => countMessage given
  | .noItems v => "herblint.diagnostics.Location.from_coordinates() argument after * "
      ++ s!"must be an iterable, not {v.kindWord}"
  | .badSeverity v => Severity.unknownMessage v
  | .noTable v => s!"'{v.kindWord}' object has no attribute 'get'"

end DescriptionError

/-- The number that a line or a column is. -/
def Position.number? (v : Value) : Except DescriptionError Int :=
  match v.canonical.int? with
  | some i => .ok i
  | none => .error (.noNumber v)

/-- The position that a line and a column describe. -/
def Position.ofValues? (line column : Value) : Except DescriptionError Position := do
  let line ← Position.number? line
  let column ← Position.number? column
  (Position.ofInts? line column).mapError .badLocation

/-- The span that a list of four numbers describes: line and column of its
start, then of its end. -/
def Location.ofValue? (v : Value) : Except DescriptionError Location :=
  match v.parts? with
  | some [a, b, c, d] => do
    let start ← Position.ofValues? a b
    let stop ← Position.ofValues? c d
    (Location.between? start stop).mapError .badLocation
  | some parts => .error (.badCount parts.length)
  | none => .error (.noItems v)

/-- The severity that a value names. -/
def Severity.ofValue? (v : Value) : Except DescriptionError Severity :=
  match v.string?.bind Severity.ofWord? with
  | some s => .ok s
  | none => .error (.badSeverity v)

/-- A string under a key, or a default. -/
def Table.stringD (t : Table) (key default : String) : String :=
  ((t.get? key).bind Value.string?).getD default

/-- A value under a key, read if it is there and not nothing. -/
def Table.read? {α ε : Type} (t : Table) (key : String) (read : Value → Except ε α) :
    Except ε (Option α) :=
  match t.get? key with
  | none | some .null => .ok none
  | some v => (read v).map some

/-- The offense of a rule with a message, each of any shape, that no
severity is bound to. It is shown under a code, if that counts as yes. -/
def Offense.ofValues (rule message code : Value) (location : Location) : Offense :=
  let code := if code.isTruthy then code else rule
  let shown := [("rule", rule), ("message", message), ("code", code)]
  { rule := rule.asName
    message := String.ofList message.shown
    location
    severity := none
    code := String.ofList code.shown
    note := none
    instead := shown.filter fun field => field.2.string?.isNone }

/-- The offense that a table describes, of a rule unless it names
another. -/
def Offense.ofTable? (rule : Value) (t : Table) : Except DescriptionError Offense := do
  let location ← t.read? "loc" Location.ofValue?
  let severity ← t.read? "severity" Severity.ofValue?
  let found := Offense.ofValues ((t.get? "rule").getD rule) ((t.get? "message").getD (.str "m"))
    ((t.get? "code").getD (.str "")) (location.getD .fallback)
  return { found with severity, note := (t.get? "autofix_context").bind Value.table? }

/-- The offense that a value describes. -/
def Offense.ofValue? (rule v : Value) : Except DescriptionError Offense :=
  match v with
  | .table t => Offense.ofTable? rule t
  | v => .error (.noTable v)

end TemplateLint
