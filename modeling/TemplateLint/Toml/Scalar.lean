import TemplateLint.Value.Basic
/-!
# TOML — keys, strings, numbers and moments

The parts of a TOML document that hold no other parts. Each reader takes
what it can from the start of a text and gives back the rest; a text that
does not start as it should gives nothing.
-/

namespace TemplateLint

namespace Toml

/-- What a reader takes from the start of a text, and the rest. -/
abbrev Reader (α : Type) := Text → Option (α × Text)

/-! ## Blanks and comments -/

/-- A blank inside a line. -/
def isBlank (c : Char) : Bool :=
  c = ' ' || c = '\t'

/-- A text without the blanks at its start. -/
def skipBlanks (t : Text) : Text :=
  t.dropWhile isBlank

/-- A character that may stand inside a line of text. -/
def isPlain (c : Char) : Bool :=
  c = '\t' || (0x20 ≤ c.toNat && c.toNat ≠ 0x7F)

/-- What follows a comment, if one starts the text. -/
def skipComment? : Text → Option Text
  | '#' :: t =>
    let (comment, rest) := t.span (· ≠ '\n')
    if comment.all isPlain then some rest else none
  | t => some t

/-! ## Strings -/

/-- The character of some digits of base sixteen, if they write one. -/
def scalar? (digits : Text) : Option Char :=
  let n := Text.numeral 16 digits
  if digits.all (fun c => (Text.hexValue? c).isSome) && (n < 0xD800 || (0xDFFF < n && n < 0x110000))
  then some (Char.ofNat n) else none

/-- The character that a backslash and one more character stand for. -/
def escape? : Char → Option Char
  | 'b' => some '\x08'
  | 't' => some '\t'
  | 'n' => some '\n'
  | 'f' => some '\x0c'
  | 'r' => some '\r'
  | '\x22' => some '\x22'
  | '\\' => some '\\'
  | _ => none

/-- What a backslash stands for, read after it. -/
def readEscape : Reader Char
  | 'u' :: a :: b :: c :: d :: t => (scalar? [a, b, c, d]).map fun x => (x, t)
  | 'U' :: a :: b :: c :: d :: e :: f :: g :: h :: t =>
    (scalar? [a, b, c, d, e, f, g, h]).map fun x => (x, t)
  | c :: t => (escape? c).map fun x => (x, t)
  | [] => none

/-- A backslash at the end of a line joins the lines: what follows the
blanks around the line end. -/
def joinLines? (t : Text) : Option Text :=
  match skipBlanks t with
  | '\n' :: rest => some (rest.dropWhile fun c => isBlank c || c = '\n')
  | _ => none

/-- The characters of a string in double quotes, up to the closing ones.
`long` strings may have line ends and are closed by three quotes. -/
def readQuoted (long : Bool) : Nat → Reader Text
  | 0, _ => none
  | fuel + 1, t =>
    match t with
    | [] => none
    | '\\' :: t =>
      match if long then joinLines? t else none with
      | some rest => readQuoted long fuel rest
      | none => do
        let (c, rest) ← readEscape t
        let (s, rest) ← readQuoted long fuel rest
        return (c :: s, rest)
    | c :: t =>
      if c = '\x22' && !long then some ([], t)
      else
        match if long then Text.after? ['\x22', '\x22', '\x22'] (c :: t) else none with
        | some rest => some ([], rest)
        | none =>
          if isPlain c || (long && c = '\n') then
            (readQuoted long fuel t).map fun (s, rest) => (c :: s, rest)
          else none

/-- A string closed by three quotes, of which up to two more belong to
it. -/
def withSpareQuotes (quote : Char) (s rest : Text) : Text × Text :=
  let spare := (rest.take 2).takeWhile (· = quote)
  (s ++ spare, rest.drop spare.length)

/-- A text without a line end at its very start. -/
def skipFirstLineEnd : Text → Text
  | '\n' :: t => t
  | t => t

/-- A string on one line, in quotes of either kind. -/
def readLineString : Reader Text
  | '\x22' :: t => readQuoted false (t.length + 1) t
  | '\x27' :: t =>
    match t.span (· ≠ '\x27') with
    | (s, _ :: rest) => if s.all isPlain then some (s, rest) else none
    | _ => none
  | _ => none

/-- A string in three quotes of either kind. -/
def readLongString : Reader Text
  | '\x22' :: '\x22' :: '\x22' :: t => do
    let t := skipFirstLineEnd t
    let (s, rest) ← readQuoted true (t.length + 1) t
    return withSpareQuotes '\x22' s rest
  | '\x27' :: '\x27' :: '\x27' :: t => do
    let (s, rest) ← Text.cutAt? ['\x27', '\x27', '\x27'] (skipFirstLineEnd t)
    if s.all fun c => isPlain c || c = '\n' then return withSpareQuotes '\x27' s rest else none
  | _ => none

/-! ## Keys -/

/-- A character of a key without quotes. -/
def isKeyChar (c : Char) : Bool :=
  c.isAlphanum || c = '-' || c = '_'

/-- One part of a key. -/
def readKeyPart : Reader String
  | [] => none
  | c :: t =>
    if isKeyChar c then
      let (part, rest) := (c :: t).span isKeyChar
      some (String.ofList part, rest)
    else (readLineString (c :: t)).map fun (s, rest) => (String.ofList s, rest)

/-- The parts of a key, with dots between them. -/
def readKeyParts : Nat → Reader (List String)
  | 0, _ => none
  | fuel + 1, t => do
    let (part, rest) ← readKeyPart t
    match skipBlanks rest with
    | '.' :: rest =>
      let (parts, rest) ← readKeyParts fuel (skipBlanks rest)
      return (part :: parts, rest)
    | rest => return ([part], rest)

/-- A key, with the blanks behind it. -/
def readKey : Reader (List String) := fun t =>
  readKeyParts (t.length + 1) t

/-! ## Numbers -/

/-- Digits of a class, single underscores between them. -/
def readDigitsFrom (p : Char → Bool) : Text → Text × Text
  | '_' :: c :: t =>
    if p c then
      let (digits, rest) := readDigitsFrom p t
      (c :: digits, rest)
    else ([], '_' :: c :: t)
  | c :: t =>
    if p c then
      let (digits, rest) := readDigitsFrom p t
      (c :: digits, rest)
    else ([], c :: t)
  | [] => ([], [])

/-- Digits of a class, at least one, single underscores between them. -/
def readDigits (p : Char → Bool) : Reader Text
  | c :: t => if p c then some (readDigitsFrom p (c :: t)) else none
  | [] => none

/-- A sign, if there is one. -/
def readSign : Text → Bool × Text
  | '-' :: t => (true, t)
  | '+' :: t => (false, t)
  | t => (false, t)

/-- A whole number in a base other than ten. -/
def readBased : Reader Value
  | '0' :: 'x' :: t => based 16 (fun c => (Text.hexValue? c).isSome) t
  | '0' :: 'b' :: t => based 2 (fun c => c = '0' || c = '1') t
  | '0' :: 'o' :: t => based 8 (fun c => '0' ≤ c && c ≤ '7') t
  | _ => none
where
  based (base : Nat) (p : Char → Bool) (t : Text) : Option (Value × Text) :=
    (readDigits p t).map fun (digits, rest) => (.int (Text.numeral base digits), rest)

/-- The whole part of a number: no zero in front of other digits. -/
def readWhole : Reader Text
  | '0' :: t => some (['0'], t)
  | t => readDigits Char.isDigit t

/-- The fraction of a number, if there is one. -/
def readFraction (t : Text) : Option Text × Text :=
  match t with
  | '.' :: rest =>
    match readDigits Char.isDigit rest with
    | some (digits, rest) => (some digits, rest)
    | none => (none, t)
  | _ => (none, t)

/-- The exponent of a number, if there is one. -/
def readExponent (t : Text) : Option Int × Text :=
  match t with
  | e :: rest =>
    if e = 'e' || e = 'E' then
      let (negative, rest) := readSign rest
      match readDigits Char.isDigit rest with
      | some (digits, rest) =>
        let power : Int := Text.numeral 10 digits
        (some (if negative then -power else power), rest)
      | none => (none, t)
    else (none, t)
  | [] => (none, t)

/-- A number in base ten as it is written. -/
structure Numeral where
  negative : Bool
  whole : Text
  fraction : Option Text
  power : Option Int

/-- A number in base ten. -/
def readNumeral : Reader Numeral := fun t => do
  let (negative, t) := readSign t
  let (whole, t) ← readWhole t
  let (fraction, t) := readFraction t
  let (power, t) := readExponent t
  return (⟨negative, whole, fraction, power⟩, t)

namespace Numeral

/-- The number is whole: it has neither fraction nor exponent. -/
def isWhole (n : Numeral) : Bool :=
  n.fraction.isNone && n.power.isNone

/-- The value of the number. -/
def toValue (n : Numeral) : Value :=
  if n.isWhole then
    let i : Int := Text.numeral 10 n.whole
    .int (if n.negative then -i else i)
  else
    let fraction := n.fraction.getD []
    let power : Int := n.power.getD 0 - fraction.length
    .float (Binary64.ofDecimal n.negative (Text.numeral 10 (n.whole ++ fraction)) power)

end Numeral

/-- A number that no digits write. -/
def readSpecial : Reader Value := fun t =>
  let (negative, t) := readSign t
  match t with
  | 'i' :: 'n' :: 'f' :: t => some (.float (.infinite negative), t)
  | 'n' :: 'a' :: 'n' :: t => some (.float .nan, t)
  | _ => none

/-! ## Moments -/

/-- A number of two digits, up to a limit. -/
def readPair (least greatest : Nat) : Reader Nat
  | a :: b :: t =>
    let n := Text.numeral 10 [a, b]
    if a.isDigit && b.isDigit && least ≤ n && n ≤ greatest then some (n, t) else none
  | _ => none

/-- A fraction of a second, in millionths. Further digits are dropped. -/
def readMillionths (t : Text) : Nat × Text :=
  match t with
  | '.' :: rest =>
    let (digits, after) := rest.span Char.isDigit
    if digits.isEmpty then (0, t)
    else (Text.numeral 10 ((digits ++ List.replicate 6 '0').take 6), after)
  | _ => (0, t)

/-- A character at the start of a text. -/
def readChar (c : Char) : Reader Unit
  | d :: t => if c = d then some ((), t) else none
  | [] => none

/-- A time of day. -/
def readClock : Reader Clock := fun t => do
  let (hour, t) ← readPair 0 23 t
  let (_, t) ← readChar ':' t
  let (minute, t) ← readPair 0 59 t
  let (_, t) ← readChar ':' t
  let (second, t) ← readPair 0 59 t
  let (microsecond, t) := readMillionths t
  return (⟨hour, minute, second, microsecond⟩, t)

/-- An offset from Greenwich in minutes, if there is one. -/
def readOffset (t : Text) : Option Int × Text :=
  match t with
  | 'Z' :: t | 'z' :: t => (some 0, t)
  | sign :: rest =>
    let offset : Option (Int × Text) :=
      if sign = '+' || sign = '-' then do
        let (hours, rest) ← readPair 0 23 rest
        let (_, rest) ← readChar ':' rest
        let (minutes, rest) ← readPair 0 59 rest
        let total : Int := hours * 60 + minutes
        return (if sign = '-' then -total else total, rest)
      else none
    match offset with
    | some (minutes, rest) => (some minutes, rest)
    | none => (none, t)
  | [] => (none, t)

/-- The number of days of a month. -/
def monthLength (year month : Nat) : Nat :=
  if month = 2 then
    if year % 4 = 0 && (year % 100 ≠ 0 || year % 400 = 0) then 29 else 28
  else if month = 4 || month = 6 || month = 9 || month = 11 then 30
  else 31

/-- A day, which may be none of the calendar. -/
def readDay : Reader Day
  | a :: b :: c :: d :: t => do
    if [a, b, c, d].all Char.isDigit then
      let (_, t) ← readChar '-' t
      let (month, t) ← readPair 1 12 t
      let (_, t) ← readChar '-' t
      let (day, t) ← readPair 1 31 t
      return (⟨Text.numeral 10 [a, b, c, d], month, day⟩, t)
    else none
  | _ => none

/-- The day is in the calendar, which begins with the year one. -/
def isInCalendar (d : Day) : Bool :=
  1 ≤ d.year && d.day ≤ monthLength d.year d.month

/-- The time of day behind a day, if there is one. -/
def readClockBehind : Reader Clock
  | c :: t => if c = 'T' || c = 't' || c = ' ' then readClock t else none
  | [] => none

/-- A day, perhaps with a time of day, or a time of day alone. The outer
nothing says that the text starts no such thing, the inner one that it is
none of the calendar. -/
def readMoment (t : Text) : Option (Option (Value × Text)) :=
  match readDay t with
  | some (day, rest) =>
    if isInCalendar day then
      match readClockBehind rest with
      | some (clock, rest) =>
        let (offset, rest) := readOffset rest
        some (some (.moment (.instant day clock offset), rest))
      | none => some (some (.moment (.day day), rest))
    else some none
  | none => (readClock t).map fun (clock, rest) => some (.moment (.clock clock), rest)

end Toml

end TemplateLint
