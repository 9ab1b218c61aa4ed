import TemplateLint.Rule.Basic
/-!
# Rules — newlines

Two rules about plain source, both with a fixer: no more than two blank
lines stand together, and a file ends with exactly one newline. The first
notes in each offense which offsets are too much; its fixer removes what
lies between them, if that is newlines still.
-/

namespace TemplateLint

namespace Newlines

/-! ## Blank lines -/

/-- The newlines that may stand together. -/
def allowed : Nat := 3

/-- The newlines beyond those allowed, among runs of which the first
starts at an offset: for each run, where they start and stop. -/
def excessFrom (offset : Nat) : List (Bool × Text) → List (Nat × Nat)
  | [] => []
  | (isNewline, run) :: rest =>
    (if isNewline && run.length > allowed then [(offset + allowed, offset + run.length)] else [])
      ++ excessFrom (offset + run.length) rest

/-- The newlines beyond those allowed. -/
def excess (source : Text) : List (Nat × Nat) :=
  excessFrom 0 (source.runs (· = '\n'))

/-- The name of the rule about blank lines. -/
def blankLinesName : String := "erb-no-extra-newline"

/-- The words about some lines too many. -/
def blankLinesMessage (extra : Nat) : String :=
  let lines := if extra = 1 then "line" else "lines"
  s!"Extra blank line detected. Remove {extra} blank {lines} to maintain consistent spacing "
    ++ "(max 2 allowed)."

/-- The offense of some newlines too many. -/
def blankLinesOffense (source : Text) (start stop : Nat) : Offense :=
  { Offense.found blankLinesName (blankLinesMessage (stop - start)) (source.span start stop) with
    note := some [("start_offset", .int start), ("end_offset", .int stop)] }

/-- The offenses against the rule about blank lines. -/
def blankLinesOffenses (source : Text) : List Offense :=
  (excess source).map fun range => blankLinesOffense source range.1 range.2

/-- The text before an offset. One that is left open is the end. -/
def before (source : Text) : Option Int → Text
  | none => source
  | some i => source.take (source.offset i)

/-- The text from an offset on. One that is left open is the start. -/
def onwards (source : Text) : Option Int → Text
  | none => source
  | some i => source.drop (source.offset i)

/-- The text between two offsets, up to an end that is left open. -/
def between (source : Text) (start stop : Option Int) : Text :=
  match stop with
  | none => onwards source start
  | some i => source.slice (start.getD 0) i

/-- A text without what lies between two offsets, if that is newlines
only. -/
def removeNewlines? (source : Text) (start stop : Option Int) : Option Text :=
  if (between source start stop).all (· = '\n') then
    some (before source start ++ onwards source stop)
  else none

/-- What is noted under a key. -/
def noted (note : Table) (key : String) : Except Crash Value :=
  match note.get? key with
  | some v => .ok v
  | none => .error (.of "KeyError" (String.ofList (Text.quoted key.toList)))

/-- The offset that a value is: nothing leaves it open, and a truth value
is one or zero. -/
def offsetOf? : Value → Except Crash (Option Int)
  | .null => .ok none
  | .bool b => .ok (some (if b then 1 else 0))
  | .int i => .ok (some i)
  | _ => .error (.of "TypeError"
      "slice indices must be integers or None or have an __index__ method")

/-- The fixer of the rule about blank lines. -/
def fixBlankLines : Fixer := fun offense input _ =>
  match offense.note with
  | none => .ok .nothing
  | some note => do
    let start ← noted note "start_offset"
    let stop ← noted note "end_offset"
    let fixed := removeNewlines? input.source (← offsetOf? start) (← offsetOf? stop)
    return fixed.elim .nothing .text

/-- At most two blank lines stand together. -/
def blankLines : Rule where
  name := blankLinesName
  kind := .source
  check input _ := .ok (blankLinesOffenses input.source)
  fixer := some fixBlankLines

/-! ## The end of a file -/

/-- The name of the rule about the end of a file. -/
def endOfFileName : String := "erb-requires-trailing-newline"

/-- The offenses against the rule about the end of a file. A file of
newlines only has none. -/
def endOfFileOffenses (source : Text) : List Offense :=
  if source.isEmpty then []
  else if !Text.endsWith ['\n'] source then
    [.found endOfFileName "File must end with trailing newline" source.endLocation]
  else if Text.endsWith ['\n', '\n'] source && !source.all (· = '\n') then
    [.found endOfFileName "File must end with exactly one trailing newline" source.endLocation]
  else []

/-- A text that ends with exactly one newline, if it holds anything but
newlines. -/
def endWithNewline? (source : Text) : Option Text :=
  if source.all (· = '\n') then none else some (Text.dropEnd (· = '\n') source ++ ['\n'])

/-- A file ends with exactly one newline. Text that is no file is left
alone. -/
def endOfFile : Rule where
  name := endOfFileName
  kind := .source
  check input context :=
    .ok (if context.fileName.isSome then endOfFileOffenses input.source else [])
  fixer := some fun _ input _ => .ok ((endWithNewline? input.source).elim .nothing .text)

end Newlines

end TemplateLint
