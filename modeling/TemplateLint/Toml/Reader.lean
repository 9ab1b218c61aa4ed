import TemplateLint.Toml.Document
/-!
# TOML — reading a document

A document is a list of statements, one a line, each with blanks and a
comment behind it: headers, and keys with values. A value may go over
several lines inside brackets.
-/

namespace TemplateLint

namespace Toml

/-- Why a text is no document. -/
inductive Flaw where
  /-- It breaks the rules of the format. -/
  | malformed
  /-- A whole number in base ten has too many digits. -/
  | oversized (digits : Nat)
  deriving DecidableEq, Repr

/-- What is there, and else the text is malformed. -/
def required {α : Type} : Option α → Except Flaw α
  | some a => .ok a
  | none => .error .malformed

/-! ## Values -/

/-- A text without the blanks, line ends and comments at its start. -/
def skipSpace? : Nat → Text → Option Text
  | 0, _ => none
  | fuel + 1, t =>
    match t.dropWhile fun c => isBlank c || c = '\n' with
    | '#' :: t => (skipComment? ('#' :: t)).bind (skipSpace? fuel)
    | t => some t

/-- A text without the blanks, line ends and comments at its start. -/
def skipLines (t : Text) : Except Flaw Text :=
  required (skipSpace? (t.length + 1) t)

/-- A number. -/
def readNumber (t : Text) : Except Flaw (Value × Text) :=
  match readBased t, readNumeral t with
  | some taken, _ => .ok taken
  | none, some (n, rest) =>
    if n.isWhole && n.whole.length > Value.mostDigits then .error (.oversized n.whole.length)
    else .ok (n.toValue, rest)
  | none, none => required (readSpecial t)

/-- A value that holds no other values. -/
def readScalar (t : Text) : Except Flaw (Value × Text) :=
  match t with
  | '\x22' :: '\x22' :: '\x22' :: _ | '\x27' :: '\x27' :: '\x27' :: _ =>
    required ((readLongString t).map fun (s, rest) => (.str (String.ofList s), rest))
  | '\x22' :: _ | '\x27' :: _ =>
    required ((readLineString t).map fun (s, rest) => (.str (String.ofList s), rest))
  | 't' :: 'r' :: 'u' :: 'e' :: rest => .ok (.bool true, rest)
  | 'f' :: 'a' :: 'l' :: 's' :: 'e' :: rest => .ok (.bool false, rest)
  | _ =>
    match readMoment t with
    | some moment => required moment
    | none => readNumber t

mutual

/-- A value. `fuel` bounds the steps; a bracket costs two, so twice the
length of the text is enough. -/
def readValue : Nat → Text → Except Flaw (Value × Text)
  | 0, _ => .error .malformed
  | fuel + 1, t =>
    match t with
    | '[' :: rest => do
      match ← skipLines rest with
      | ']' :: rest => return (.list [], rest)
      | rest =>
        let (items, rest) ← readItems fuel rest
        return (.list items, rest)
    | '\x7b' :: rest =>
      match skipBlanks rest with
      | '\x7d' :: rest => .ok (.table [], rest)
      | rest => do
        let (pairs, rest) ← readPairs fuel rest
        return (.table (← required (inlineTable? pairs)), rest)
    | t => readScalar t

/-- The items of a list, up to its closing bracket. -/
def readItems : Nat → Text → Except Flaw (List Value × Text)
  | 0, _ => .error .malformed
  | fuel + 1, t => do
    let (v, rest) ← readValue fuel t
    match ← skipLines rest with
    | ']' :: rest => return ([v], rest)
    | ',' :: rest =>
      match ← skipLines rest with
      | ']' :: rest => return ([v], rest)
      | rest =>
        let (vs, rest) ← readItems fuel rest
        return (v :: vs, rest)
    | _ => .error .malformed

/-- The keys and values between braces, up to the closing one. -/
def readPairs : Nat → Text → Except Flaw (List (List String × Value) × Text)
  | 0, _ => .error .malformed
  | fuel + 1, t => do
    let (key, rest) ← required (readKey t)
    let (_, rest) ← required (readChar '=' rest)
    let (v, rest) ← readValue fuel (skipBlanks rest)
    match skipBlanks rest with
    | '\x7d' :: rest => return ([(key, v)], rest)
    | ',' :: rest =>
      let (pairs, rest) ← readPairs fuel (skipBlanks rest)
      return ((key, v) :: pairs, rest)
    | _ => .error .malformed

end

/-! ## Statements -/

/-- The statement at the start of a line, if the line holds one. -/
def readStatement (t : Text) : Except Flaw (Option Statement × Text) :=
  match t with
  | '[' :: '[' :: rest => do
    let (key, rest) ← required (readKey (skipBlanks rest))
    let rest ← required (Text.after? [']', ']'] rest)
    return (some (.item key), rest)
  | '[' :: rest => do
    let (key, rest) ← required (readKey (skipBlanks rest))
    let rest ← required (Text.after? [']'] rest)
    return (some (.header key), rest)
  | [] => .ok (none, t)
  | c :: _ =>
    if c = '\n' || c = '#' then .ok (none, t)
    else do
      let (key, rest) ← required (readKey t)
      let (_, rest) ← required (readChar '=' rest)
      let (v, rest) ← readValue (2 * rest.length + 2) (skipBlanks rest)
      return (some (.pair key v), rest)

/-- The draft after the statement of a line. -/
def Draft.afterLine (d : Draft) (statement : Option Statement) : Except Flaw Draft :=
  match statement with
  | none => .ok d
  | some statement => required (d.add? statement)

/-- The draft after the statements of a text. Every line but the last ends
with a line end, so the length of the text bounds their number. -/
def readStatements : Nat → Draft → Text → Except Flaw Draft
  | 0, _, _ => .error .malformed
  | fuel + 1, d, t => do
    let (statement, rest) ← readStatement (skipBlanks t)
    let d ← d.afterLine statement
    match ← required (skipComment? (skipBlanks rest)) with
    | [] => return d
    | '\n' :: rest => readStatements fuel d rest
    | _ => .error .malformed

/-- A text whose lines end with a line feed alone. -/
def withLineFeeds : Text → Text
  | '\r' :: '\n' :: t => '\n' :: withLineFeeds t
  | c :: t => c :: withLineFeeds t
  | [] => []

/-- The table that a TOML document holds, if the text is one. -/
def read? (t : Text) : Except Flaw Table :=
  let t := withLineFeeds t
  (readStatements (t.length + 1) {} t).map fun d => toTable d.parts

end Toml

end TemplateLint
