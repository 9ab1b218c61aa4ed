import TemplateLint.Offense.Table
import TemplateLint.Value.Json
/-!
# Reports — offenses of many files

The offenses of a run, each with its file, counted, summed up and shown as
text or as JSON. Both forms list them by file, line and column; offenses
at one place stay in the order in which they were found.
-/

namespace TemplateLint

/-- The form of a report. -/
inductive OutputFormat where
  | text
  | json
  deriving DecidableEq, Repr

namespace OutputFormat

/-- All forms. -/
def all : List OutputFormat := [.text, .json]

/-- The word for a form. -/
def word : OutputFormat → String
  | .text => "text"
  | .json => "json"

/-- The form that a word stands for. -/
def ofWord? (w : String) : Option OutputFormat :=
  all.find? fun f => f.word == w

/-- The words for a value that is no form. -/
def unknownMessage (v : Value) : String :=
  String.ofList v.literal ++ " is not a valid OutputFormat"

end OutputFormat

/-- An offense in a file. -/
structure Finding where
  file : String
  offense : Offense
  deriving Repr

namespace Finding

/-- One finding is listed no later than another: by file, line and
column. -/
def le (a b : Finding) : Bool :=
  a.file < b.file || (a.file == b.file && decide (a.offense.start ≤ b.offense.start))

/-- A finding on one line. -/
def line (f : Finding) : String :=
  let severity := f.offense.severity.elim "UNBOUND" Severity.heading
  s!"{f.file}:{f.offense.start.line}:{f.offense.start.column}: {severity} " ++
    s!"[{f.offense.code}] {f.offense.message}"

/-- A finding as a table. -/
def toTable (f : Finding) : Table :=
  ("file", .str f.file) :: f.offense.toTable

end Finding

/-- The findings of a run, in the order in which they came. -/
abbrev Report := List Finding

namespace Report

/-- The report with the offenses of one more file. -/
def add (r : Report) (file : String) (offenses : List Offense) : Report :=
  r ++ offenses.map (Finding.mk file)

/-- The findings by file, line and column. -/
def sorted (r : Report) : List Finding :=
  r.mergeSort Finding.le

/-- The number of findings of a severity. -/
def countOf (r : Report) (severity : Severity) : Nat :=
  r.countP fun f => f.offense.severity = some severity

/-- The number of errors. -/
def errors (r : Report) : Nat := r.countOf .error

/-- The number of warnings. -/
def warnings (r : Report) : Nat := r.countOf .warning

/-- There is an error. -/
def hasErrors (r : Report) : Bool :=
  r.any fun f => f.offense.severity = some .error

/-- What a run exits with. -/
def exitCode (r : Report) : Nat :=
  if r.hasErrors then 1 else 0

/-- A number and the word for what it counts, with an `s` for many. -/
def counted (n : Int) (word : String) : String :=
  s!"{n} {word}" ++ if n = 1 then "" else "s"

/-- A number and its word, unless it is zero. -/
def countedSome (n : Nat) (word : String) : List String :=
  if n = 0 then [] else [counted n word]

/-- The counts in a sentence, with the number of offenses that comments
suppressed. -/
def summary (r : Report) (ignored : Int) : String :=
  let counts := countedSome r.errors "error" ++ countedSome r.warnings "warning"
  let found := if counts.isEmpty then "No issues found."
    else "Found " ++ ", ".intercalate counts ++ "."
  if ignored = 0 then found else found ++ s!" {ignored} ignored by herb:disable comments."

/-- The findings as text, one a line. -/
def text (r : Report) : String :=
  "\n".intercalate (r.sorted.map Finding.line)

/-- The findings as a value. -/
def toValue (r : Report) : Value :=
  .list (r.sorted.map fun f => .table f.toTable)

/-- The findings as JSON. -/
def json (r : Report) : String :=
  r.toValue.jsonIndented?.getD ""

/-- The findings in a form. -/
def shown (r : Report) : OutputFormat → String
  | .text => r.text
  | .json => r.json

/-- The whole output of a run: as text, the findings, the summary and the
number of files; as JSON, the findings alone. -/
def output (r : Report) (format : OutputFormat) (files ignored : Int) : String :=
  match format with
  | .json => r.json
  | .text =>
    let findings := if r.text = "" then [] else [r.text]
    "\n".intercalate
      (findings ++ [r.summary ignored, "Checked " ++ counted files "file" ++ "."])

end Report

end TemplateLint
