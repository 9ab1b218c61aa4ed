import TemplateLint.Settings.Basic
import TemplateLint.Value.Json
/-!
# Settings — listings

The settings of a project as a table, which reads back as the same
settings, and as a text for people.
-/

namespace TemplateLint

/-- An override as a table: the parts that are there. -/
def RuleOverride.toTable (o : RuleOverride) : Table :=
  (o.enabled.toList.map fun b => ("enabled", .bool b))
    ++ (o.severity.toList.map fun s => ("severity", .str s.word))
    ++ (o.options.toList.map fun t => ("options", .table t))
    ++ (o.included.toList.map fun patterns => ("include", .strings patterns))
    ++ (o.excluded.toList.map fun patterns => ("exclude", .strings patterns))

/-- A string, or nothing. -/
def Value.ofOption (s : Option String) : Value :=
  s.elim .null .str

namespace Settings

/-- The settings as a table. -/
def toTable (s : Settings) : Table :=
  [("include", .strings s.included), ("exclude", .strings s.excluded),
   ("output_format", .str s.format.word), ("disable_scope", .str s.scope.word),
   ("ignore_disable_comments", .bool s.ignoresComments), ("parser", .ofOption s.parser),
   ("printer", .ofOption s.printer), ("custom_rules", .strings s.customRules),
   ("max_fix_iterations", .int s.passes), ("jobs", .int s.jobs),
   ("rules", .table (s.rules.map fun entry => (entry.1, .table entry.2.toTable)))]

/-- Items with commas between them. -/
def listed (items : List String) : String :=
  ", ".intercalate items

/-- The first few exclusions. -/
def shownExclusions (patterns : List String) : String :=
  listed (patterns.take 5) ++ if patterns.length > 5 then "..." else ""

/-- An override on one line, its parts in the order of their keys. -/
def overrideLine (rule : String) (o : RuleOverride) : String :=
  let parts := o.toTable.mergeSort fun a b => decide (a.1 ≤ b.1)
  "  " ++ rule ++ ": "
    ++ listed (parts.map fun part => part.1 ++ "=" ++ String.ofList part.2.shown)

/-- The overrides, one a line, in the order of the rules' names. -/
def overrideLines (rules : List (String × RuleOverride)) : List String :=
  if rules.isEmpty then ["  (none)"]
  else
    (rules.mergeSort fun a b => decide (a.1 ≤ b.1)).map fun entry => overrideLine entry.1 entry.2

end Settings

namespace Project

/-- The settings and their file as a value. -/
def toValue (p : Project) : Value :=
  .table (("config_path", .ofOption (p.file.map Path.toString)) :: p.settings.toTable)

/-- The first value among the settings that has no JSON form: a moment, or
a whole number with too many digits. -/
def jsonFlaw? (p : Project) : Option Value :=
  p.toValue.leaves.find? fun v => v.isMoment || v.isOversized

/-- The first value among the settings that cannot be listed: a whole
number with too many digits. -/
def listingFlaw? (p : Project) : Option Value :=
  p.toValue.leaves.find? Value.isOversized

/-- The settings and their file as JSON, if they have that form. -/
def json? (p : Project) : Option String :=
  if p.jsonFlaw?.isSome then none else p.toValue.jsonIndented?

/-- What a listing calls the file of the settings. -/
def fileShown (p : Project) : String :=
  p.file.elim "(defaults)" Path.toString

/-- The settings as a text. -/
def listing (p : Project) : String :=
  let s := p.settings
  let orNone (items : String) : String := if items = "" then "(none)" else items
  let ignores := if s.ignoresComments then "True" else "False"
  "\n".intercalate
    (["herblint Configuration", String.ofList (List.replicate 40 '='), "",
      "Config file: " ++ p.fileShown, "",
      "File Discovery:",
      "  Include: " ++ Settings.listed s.included,
      "  Exclude: " ++ Settings.shownExclusions s.excluded,
      "  Custom rules: " ++ orNone (Settings.listed s.customRules), "",
      "Linting:",
      "  Parser: " ++ s.parser.getD "(none, source rules only)",
      "  Printer: " ++ s.printer.getD "(none)",
      "  Disable scope: " ++ s.scope.word,
      "  Ignore disable comments: " ++ ignores,
      s!"  Max fix iterations: {s.passes}",
      s!"  Jobs: {s.jobs}", "",
      "Rule Overrides:"] ++ Settings.overrideLines s.rules)

end Project

end TemplateLint
