import TemplateLint.Text.Basic
/-!
# Directives — suppression written in a comment

The content of a comment is a directive if it says that the whole
document is to be skipped, or names rules to suppress: the keyword
`herb:disable`, a blank, and rule names with blanks or single commas
between them. Reading never fails on odd content: what only resembles a
directive is an ordinary comment. Every name is kept with its offset in
the content as it stands, blanks included (`Directive.parse?`).
-/

namespace TemplateLint

/-- A rule name in a directive, and where it stands in the text around
it. -/
structure NameSpan where
  name : String
  offset : Nat
  length : Nat
  deriving DecidableEq, Repr

namespace NameSpan

/-- The offset just behind the name. -/
def stop (s : NameSpan) : Nat :=
  s.offset + s.length

/-- The name in a text that has some characters more in front. -/
def shift (s : NameSpan) (offset : Nat) : NameSpan :=
  { s with offset := s.offset + offset }

end NameSpan

/-- A directive that suppresses rules: the names it lists, and that list
as it was written. -/
structure Directive where
  names : List NameSpan
  rulesText : Text
  deriving DecidableEq, Repr

namespace Directive

/-- The content that excludes a document from linting. -/
def linterIgnore : Text := "herb:linter ignore".toList

/-- The content that excludes a document from formatting. -/
def formatterIgnore : Text := "herb:formatter ignore".toList

/-- The word that opens a list of rules to suppress. -/
def keyword : Text := "herb:disable".toList

/-- The name that stands for every rule. -/
def everyRule : String := "all"

/-- The content excludes its document from linting. -/
def isLinterIgnore (content : Text) : Bool :=
  content.trim == linterIgnore

/-- The content excludes its document from formatting. -/
def isFormatterIgnore (content : Text) : Bool :=
  content.trim == formatterIgnore

/-! ## The list of rules -/

/-- The text after the keyword, blanks at the end left out. The keyword
stands alone: nothing or a blank follows it. -/
def body? (content : Text) : Option Text :=
  match Text.after? keyword content.trim with
  | none => none
  | some [] => some []
  | some (c :: rest) => if Text.isBlank c then some (c :: rest) else none

/-- The keyword stands there with no rule name after it. -/
def lacksNames (content : Text) : Bool :=
  match body? content with
  | some body => body.trim.isEmpty
  | none => false

/-- A character of a rule name. -/
def isNameChar (c : Char) : Bool :=
  !Text.isBlank c && c ≠ ','

/-- A run of characters may stand between two names: it holds one comma
at most. -/
def separates (run : Text) : Bool :=
  run.count ',' ≤ 1

/-- Names alternate with separators, and there is a name at either end. -/
def isList : List (Bool × Text) → Bool
  | [] => false
  | [(isName, _)] => isName
  | (isName, _) :: (_, separator) :: rest => isName && separates separator && isList rest

/-- The names among some runs, the first of which starts at an offset. -/
def namesFrom (offset : Nat) : List (Bool × Text) → List NameSpan
  | [] => []
  | (isName, run) :: rest =>
    (if isName then [⟨String.ofList run, offset, run.length⟩] else [])
      ++ namesFrom (offset + run.length) rest

/-- The offset of a list of rules in a content: the list is looked for
behind the keyword, and the keyword from the start. -/
def listOffset? (content list : Text) : Option Nat := do
  let start ← Text.offsetOf? keyword content
  let behind := start + keyword.length
  let gap ← Text.offsetOf? list (content.drop behind)
  return behind + gap

/-- The directive that a content is, if its list of rules is in order. -/
def parse? (content : Text) : Option Directive :=
  (body? content).bind fun body =>
    let rules := Text.runs isNameChar body.trim
    if isList rules then
      (listOffset? content body.trim).map fun offset => ⟨namesFrom offset rules, body.trim⟩
    else none

/-! ## On a line of source -/

/-- The mark that opens a comment. -/
def commentOpening : Text := "<%#".toList

/-- The mark that closes a comment. -/
def commentClosing : Text := "%>".toList

/-- The directive with some characters more in front of its text. -/
def shift (d : Directive) (offset : Nat) : Directive :=
  { d with names := d.names.map (·.shift offset) }

/-- The directive in the first comment of a line. Offsets count from the
start of the line. -/
def parseLine? (line : Text) : Option Directive := do
  let (before, rest) ← Text.cutAt? commentOpening line
  let (content, _) ← Text.cutAt? commentClosing rest
  let directive ← parse? content
  return directive.shift (before.length + commentOpening.length)

/-! ## What a directive suppresses -/

/-- The rule names of a directive, in order. -/
def ruleNames (d : Directive) : List String :=
  d.names.map (·.name)

/-- The directive suppresses every rule. -/
def disablesAll (d : Directive) : Bool :=
  d.ruleNames.contains everyRule

/-- The directive suppresses a rule. -/
def disables (d : Directive) (rule : String) : Bool :=
  d.disablesAll || d.ruleNames.contains rule

/-! ## What is wrong with a directive -/

/-- Why a content that opens like a directive is none. -/
inductive Flaw where
  /-- No blank stands behind the keyword. -/
  | unspaced
  /-- The list of rules ends with a comma. -/
  | trailingComma
  /-- The list of rules has two commas and no name between them. -/
  | doubledComma
  /-- The list of rules starts with a comma. -/
  | leadingComma
  /-- The list of rules cannot be read for another reason. -/
  | unreadable
  deriving DecidableEq, Repr

/-- A list of rules has two commas with nothing but blanks between
them. -/
def hasDoubledComma (rules : Text) : Bool :=
  Text.contains [',', ','] (rules.filter fun c => !Text.isBlank c)

/-- The flaw of a list of rules that cannot be read. -/
def listFlaw (rules : Text) : Flaw :=
  if Text.endsWith [','] rules then .trailingComma
  else if hasDoubledComma rules then .doubledComma
  else if Text.startsWith [','] rules then .leadingComma
  else .unreadable

/-- The flaw of a content that opens with the keyword. A dash or an
underscore behind the keyword makes it another word, and an empty list
is no flaw of form. -/
def flaw? (content : Text) : Option Flaw :=
  match Text.after? keyword content.trim with
  | none => none
  | some [] => none
  | some (c :: rest) =>
    if Text.isBlank c then
      let rules := Text.trim (c :: rest)
      if rules.isEmpty || (parse? content).isSome then none else some (listFlaw rules)
    else if c = '-' || c = '_' then none
    else some .unspaced

end Directive

end TemplateLint
