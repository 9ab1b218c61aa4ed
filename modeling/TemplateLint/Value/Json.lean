import TemplateLint.Value.Basic
/-!
# Values — JSON

Values as JSON text, on one line or indented, with every character outside
printable ASCII escaped; and values read from JSON text. A number without
point and exponent is a whole number, of any size; the infinities and what
is no number have words of their own.
-/

namespace TemplateLint

namespace Value

/-! ## Writing -/

/-- A unit of sixteen bits, escaped. -/
def escapedUnit (n : Nat) : Text :=
  '\\' :: 'u' :: Text.hex 4 n

/-- The form of one character inside a JSON string. -/
def jsonChar (c : Char) : Text :=
  if c = '\x22' || c = '\\' then ['\\', c]
  else if c = '\n' then ['\\', 'n']
  else if c = '\r' then ['\\', 'r']
  else if c = '\t' then ['\\', 't']
  else if c = '\x08' then ['\\', 'b']
  else if c = '\x0c' then ['\\', 'f']
  else if 0x20 ≤ c.toNat && c.toNat < 0x7F then [c]
  else if c.toNat < 0x10000 then escapedUnit c.toNat
  else
    let n := c.toNat - 0x10000
    escapedUnit (0xD800 + n / 0x400) ++ escapedUnit (0xDC00 + n % 0x400)

/-- A JSON string. -/
def jsonString (t : Text) : Text :=
  '\x22' :: t.flatMap jsonChar ++ ['\x22']

/-- A number in JSON. -/
def jsonFloat : Binary64 → Text
  | .nan => "NaN".toList
  | .infinite false => "Infinity".toList
  | .infinite true => "-Infinity".toList
  | x => x.spelled

/-- The start of a line at a depth of nesting, in an indented text. -/
def lineStart (indented : Bool) (depth : Nat) : Text :=
  if indented then '\n' :: List.replicate (2 * depth) ' ' else []

/-- The pieces of a list or table between its two brackets. -/
def bracketed (indented : Bool) (depth : Nat) (opening closing : Char) : List Text → Text
  | [] => [opening, closing]
  | pieces =>
    let separator := if indented then ',' :: lineStart indented (depth + 1) else [',', ' ']
    opening :: lineStart indented (depth + 1) ++ List.intercalate separator pieces
      ++ lineStart indented depth ++ [closing]

mutual

/-- A value as JSON at a depth of nesting. A moment has no JSON form. -/
def jsonAt? (indented : Bool) (depth : Nat) : Value → Option Text
  | .null => some "null".toList
  | .bool b => some (if b then "true" else "false").toList
  | .int i => some (toString i).toList
  | .float x => some (jsonFloat x)
  | .str s => some (jsonString s.toList)
  | .moment _ => none
  | .list items => do
    let pieces ← jsonItems? indented (depth + 1) items
    return bracketed indented depth '[' ']' pieces
  | .table fields => do
    let pieces ← jsonFields? indented (depth + 1) fields
    return bracketed indented depth '\x7b' '\x7d' pieces

/-- The items of a list as JSON. -/
def jsonItems? (indented : Bool) (depth : Nat) : List Value → Option (List Text)
  | [] => some []
  | v :: vs => do return (← jsonAt? indented depth v) :: (← jsonItems? indented depth vs)

/-- The fields of a table as JSON. -/
def jsonFields? (indented : Bool) (depth : Nat) : List (String × Value) → Option (List Text)
  | [] => some []
  | (key, v) :: fields => do
    let shown ← jsonAt? indented depth v
    return (jsonString key.toList ++ ':' :: ' ' :: shown)
      :: (← jsonFields? indented depth fields)

end

/-- A value as JSON on one line. -/
def json? (v : Value) : Option String :=
  (jsonAt? false 0 v).map String.ofList

/-- A value as JSON, nested parts indented by two blanks. -/
def jsonIndented? (v : Value) : Option String :=
  (jsonAt? true 0 v).map String.ofList

/-! ## Reading -/

/-- A blank of JSON. -/
def isJsonBlank (c : Char) : Bool :=
  c = ' ' || c = '\t' || c = '\n' || c = '\r'

/-- Four digits of base sixteen. -/
def readUnit? : Text → Option (Nat × Text)
  | a :: b :: c :: d :: rest =>
    if [a, b, c, d].all fun digit => (Text.hexValue? digit).isSome then
      some (Text.numeral 16 [a, b, c, d], rest)
    else none
  | _ => none

/-- The character after a backslash, which is followed by nothing more. -/
def simpleEscape? : Char → Option Char
  | '\x22' => some '\x22'
  | '\\' => some '\\'
  | '/' => some '/'
  | 'b' => some '\x08'
  | 'f' => some '\x0c'
  | 'n' => some '\n'
  | 'r' => some '\r'
  | 't' => some '\t'
  | _ => none

/-- The character of an escaped unit: two units make one character beyond
the first plane. -/
def readEscaped? (rest : Text) : Option (Char × Text) := do
  let (high, rest) ← readUnit? rest
  if 0xD800 ≤ high && high < 0xDC00 then
    match rest with
    | '\\' :: 'u' :: rest =>
      let (low, rest) ← readUnit? rest
      return (Char.ofNat (0x10000 + (high - 0xD800) * 0x400 + (low - 0xDC00)), rest)
    | _ => none
  else return (Char.ofNat high, rest)

/-- The characters of a JSON string, up to its closing quote. -/
def readString? : Nat → Text → Option (Text × Text)
  | 0, _ => none
  | _ + 1, [] => none
  | _ + 1, '\x22' :: rest => some ([], rest)
  | fuel + 1, '\\' :: 'u' :: rest => do
    let (c, rest) ← readEscaped? rest
    let (t, rest) ← readString? fuel rest
    return (c :: t, rest)
  | fuel + 1, '\\' :: e :: rest => do
    let c ← simpleEscape? e
    let (t, rest) ← readString? fuel rest
    return (c :: t, rest)
  | fuel + 1, c :: rest => do
    let (t, rest) ← readString? fuel rest
    return (c :: t, rest)

/-- A fraction after a numeral: its digits, none if there is no point. -/
def readFraction : Text → Text × Text
  | '.' :: rest => rest.span Char.isDigit
  | rest => ([], rest)

/-- The exponent after a numeral, if there is one. -/
def readExponent? : Text → Option Int × Text
  | e :: rest =>
    if e = 'e' || e = 'E' then
      let (negative, rest) := match rest with
        | '-' :: rest => (true, rest)
        | '+' :: rest => (false, rest)
        | rest => (false, rest)
      let (digits, rest) := rest.span Char.isDigit
      let power : Int := Text.numeral 10 digits
      (some (if negative then -power else power), rest)
    else (none, e :: rest)
  | [] => (none, [])

/-- A number. -/
def readNumber? (t : Text) : Option (Value × Text) :=
  let (negative, t) := match t with
    | '-' :: rest => (true, rest)
    | t => (false, t)
  let (whole, t) := t.span Char.isDigit
  if whole.isEmpty then none
  else
    let (fraction, afterFraction) := readFraction t
    let (power, rest) := readExponent? afterFraction
    if fraction.isEmpty && power.isNone then
      let n : Int := Text.numeral 10 whole
      some (.int (if negative then -n else n), t)
    else
      let power : Int := power.getD 0 - fraction.length
      some (.float (Binary64.ofDecimal negative (Text.numeral 10 (whole ++ fraction)) power), rest)

mutual

/-- A value at the start of a text. `fuel` bounds the steps; a
list costs two, so twice the length of the text is enough. -/
def readValue? : Nat → Text → Option (Value × Text)
  | 0, _ => none
  | fuel + 1, t =>
    match t.dropWhile isJsonBlank with
    | '\x7b' :: rest =>
      match rest.dropWhile isJsonBlank with
      | '\x7d' :: rest => some (.table [], rest)
      | rest => (readFields? fuel rest).map fun (fields, rest) => (.table fields, rest)
    | '[' :: rest =>
      match rest.dropWhile isJsonBlank with
      | ']' :: rest => some (.list [], rest)
      | rest => (readItems? fuel rest).map fun (items, rest) => (.list items, rest)
    | '\x22' :: rest =>
      (readString? (fuel + 1) rest).map fun (t, rest) => (.str (String.ofList t), rest)
    | 't' :: 'r' :: 'u' :: 'e' :: rest => some (.bool true, rest)
    | 'f' :: 'a' :: 'l' :: 's' :: 'e' :: rest => some (.bool false, rest)
    | 'n' :: 'u' :: 'l' :: 'l' :: rest => some (.null, rest)
    | 'N' :: 'a' :: 'N' :: rest => some (.float .nan, rest)
    | '-' :: 'I' :: 'n' :: 'f' :: 'i' :: 'n' :: 'i' :: 't' :: 'y' :: rest =>
      some (.float (.infinite true), rest)
    | 'I' :: 'n' :: 'f' :: 'i' :: 'n' :: 'i' :: 't' :: 'y' :: rest =>
      some (.float (.infinite false), rest)
    | t => readNumber? t

/-- The items of a list, up to its closing bracket. -/
def readItems? : Nat → Text → Option (List Value × Text)
  | 0, _ => none
  | fuel + 1, t => do
    let (v, rest) ← readValue? fuel t
    match rest.dropWhile isJsonBlank with
    | ',' :: rest =>
      let (vs, rest) ← readItems? fuel rest
      return (v :: vs, rest)
    | ']' :: rest => return ([v], rest)
    | _ => none

/-- The fields of a table, up to its closing brace. -/
def readFields? : Nat → Text → Option (List (String × Value) × Text)
  | 0, _ => none
  | fuel + 1, t =>
    match t.dropWhile isJsonBlank with
    | '\x22' :: rest => do
      let (key, rest) ← readString? (fuel + 1) rest
      match rest.dropWhile isJsonBlank with
      | ':' :: rest =>
        let (v, rest) ← readValue? fuel rest
        match rest.dropWhile isJsonBlank with
        | ',' :: rest =>
          let (fields, rest) ← readFields? fuel rest
          return ((String.ofList key, v) :: fields, rest)
        | '\x7d' :: rest => return ([(String.ofList key, v)], rest)
        | _ => none
      | _ => none
    | _ => none

end

/-- The value that a text is the JSON of. -/
def ofJson? (t : Text) : Option Value :=
  match readValue? (2 * t.length + 2) t with
  | some (v, rest) => if rest.all isJsonBlank then some v else none
  | none => none

end Value

end TemplateLint
