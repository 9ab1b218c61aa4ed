import TemplateLint.Value.Basic
import TemplateLint.Text.Quoted
/-!
# Values — literal form

How a value is shown inside a message or a listing: strings in quotes,
`None`, `True` and `False` for nothing and the truth values, brackets
around lists and braces around tables. At the top of a listing a string
stands without quotes (`Value.shown`).
-/

namespace TemplateLint

namespace Value

/-- The pieces with a comma and a blank between them. -/
def commaJoined (pieces : List Text) : Text :=
  List.intercalate [',', ' '] pieces

/-- The arguments of a time of day: the small units only if they or
smaller ones are set. -/
def clockArguments (c : Clock) : List Nat :=
  [c.hour, c.minute]
    ++ if c.microsecond ≠ 0 then [c.second, c.microsecond]
      else if c.second ≠ 0 then [c.second] else []

/-- The offset of an instant, in days and seconds. -/
def offsetLiteral (minutes : Int) : String :=
  if minutes = 0 then "datetime.timezone.utc"
  else if minutes < 0 then
    let seconds := 86400 + minutes * 60
    s!"datetime.timezone(datetime.timedelta(days=-1, seconds={seconds}))"
  else
    let seconds := minutes * 60
    s!"datetime.timezone(datetime.timedelta(seconds={seconds}))"

/-- A moment, as the expression that builds it. -/
def momentLiteral : Moment → String
  | .day d => s!"datetime.date({d.year}, {d.month}, {d.day})"
  | .clock c =>
    let shown := ", ".intercalate ((clockArguments c).map toString)
    s!"datetime.time({shown})"
  | .instant d c offset =>
    let shown := ", ".intercalate (([d.year, d.month, d.day] ++ clockArguments c).map toString)
    let zone := match offset with
      | none => ""
      | some minutes => ", tzinfo=" ++ offsetLiteral minutes
    s!"datetime.datetime({shown}{zone})"

mutual

/-- A value in literal form. -/
def literal : Value → Text
  | .null => "None".toList
  | .bool b => (if b then "True" else "False").toList
  | .int i => (toString i).toList
  | .float x => x.spelled
  | .str s => Text.quoted s.toList
  | .moment m => (momentLiteral m).toList
  | .list items => '[' :: commaJoined (literals items) ++ [']']
  | .table fields => '\x7b' :: commaJoined (fieldLiterals fields) ++ ['\x7d']

/-- The items of a list in literal form. -/
def literals : List Value → List Text
  | [] => []
  | v :: vs => literal v :: literals vs

/-- The fields of a table in literal form. -/
def fieldLiterals : List (String × Value) → List Text
  | [] => []
  | (key, v) :: fields =>
    (Text.quoted key.toList ++ ':' :: ' ' :: literal v) :: fieldLiterals fields

end

/-- A value in literal form, a string without its quotes. -/
def shown : Value → Text
  | .str s => s.toList
  | v => literal v

/-- The words for a whole number with too many digits. -/
def oversizedMessage (detail : String) : String :=
  s!"Exceeds the limit ({mostDigits} digits) for integer string conversion{detail}; "
    ++ "use sys.set_int_max_str_digits() to increase the limit"

/-- The word for the kind of a value. -/
def kindWord : Value → String
  | .null => "NoneType"
  | .bool _ => "bool"
  | .int _ => "int"
  | .float _ => "float"
  | .str _ => "str"
  | .moment (.day _) => "datetime.date"
  | .moment (.clock _) => "datetime.time"
  | .moment (.instant ..) => "datetime.datetime"
  | .list _ => "list"
  | .table _ => "dict"

/-- The string that a value goes by as a name: itself if it is one, and
else its literal form between angle brackets, where numbers of one size
are the same. -/
def asName : Value → String
  | .str s => s
  | v => String.ofList ('<' :: v.canonical.literal ++ ['>'])

/-- Names in literal form. -/
def namesLiteral (names : List String) : String :=
  String.ofList (literal (strings names))

end Value

end TemplateLint
