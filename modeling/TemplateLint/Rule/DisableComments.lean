import TemplateLint.Rule.Basic
import TemplateLint.Directive.Comment
import TemplateLint.Text.Similarity
/-!
# Rules — comments that suppress rules

Six rules about `herb:disable` comments. Each comment is judged on its
own: its form, whether it names rules at all, names that stand there
twice, `all` beside other names, names of no rule, and names that
suppressed nothing. The last of these needs to know what the comments of
the document suppressed (`Context.usage`).
-/

namespace TemplateLint

namespace DisableComments

/-- The start of the name of every rule about such comments. No comment
suppresses these rules. -/
def namePrefix : String := "herb-disable-comment-"

/-- A rule about the comments of a tree, one by one. -/
def aboutComments (name : String) (severity : Severity)
    (offenses : Comment → Context → List Offense) : Rule :=
  .onDocument name severity fun d context =>
    match d.root with
    | none => []
    | some root => root.comments.flatMap fun comment => offenses comment context

/-- A rule about the comments of a tree that suppress rules. -/
def aboutDirectives (name : String) (severity : Severity)
    (offenses : DisableComment → Context → List Offense) : Rule :=
  aboutComments name severity fun comment context =>
    match comment.disabling? with
    | none => []
    | some disabling => offenses disabling context

/-! ## Form -/

/-- The words for a flaw in the form of a comment. -/
def flawMessage : Directive.Flaw → String
  | .unspaced => "`herb:disable` comment is missing a space after `herb:disable`. "
      ++ "Add a space before the rule names."
  | .trailingComma =>
    "`herb:disable` comment has a trailing comma. Remove the trailing comma."
  | .doubledComma => "`herb:disable` comment has consecutive commas. Remove extra commas."
  | .leadingComma => "`herb:disable` comment starts with a comma. Remove the leading comma."
  | .unreadable => "`herb:disable` comment is malformed."

/-- The name of the rule about the form of a comment. -/
def malformedName : String := "herb-disable-comment-malformed"

/-- The offense of a comment against its form. -/
def malformedOffenses (c : Comment) : List Offense :=
  (Directive.flaw? c.content.value).toList.map fun flaw =>
    .found malformedName (flawMessage flaw) c.location

/-- A comment that opens like a directive can be read as one. -/
def malformed : Rule :=
  aboutComments malformedName .error fun c _ => malformedOffenses c

/-! ## Missing names -/

/-- The name of the rule about comments that name no rule. -/
def missingName : String := "herb-disable-comment-missing-rules"

/-- The offense of a comment that names no rule. -/
def missingOffenses (c : Comment) : List Offense :=
  if Directive.lacksNames c.content.value then
    [.found missingName ("`herb:disable` comment is missing rule names. "
      ++ "Specify `all` or list specific rules to disable.") c.location]
  else []

/-- A comment names the rules it suppresses. -/
def missing : Rule :=
  aboutComments missingName .error fun c _ => missingOffenses c

/-! ## Names listed twice -/

/-- The names that some others, or an earlier one of the list, have
already. -/
def repeated (seen : List String) : List NameSpan → List NameSpan
  | [] => []
  | span :: spans =>
    if seen.contains span.name then span :: repeated seen spans
    else repeated (span.name :: seen) spans

/-- The name of the rule about names listed twice. -/
def duplicateName : String := "herb-disable-comment-no-duplicate-rules"

/-- The offenses of names listed twice. -/
def duplicateOffenses (c : DisableComment) : List Offense :=
  (repeated [] c.directive.names).map fun span =>
    .found duplicateName
      s!"Duplicate rule `{span.name}` in `herb:disable` comment. Remove the duplicate."
      (c.nameLocation span)

/-- A comment lists no name twice. -/
def duplicate : Rule :=
  aboutDirectives duplicateName .warning fun c _ => duplicateOffenses c

/-! ## All and more -/

/-- The name of the rule about `all` beside other names. -/
def redundantName : String := "herb-disable-comment-no-redundant-all"

/-- The offense of `all` beside other names, at the first `all`. -/
def redundantOffenses (c : DisableComment) : List Offense :=
  if c.directive.ruleNames.any (· != Directive.everyRule) then
    (c.directive.names.find? (·.name == Directive.everyRule)).toList.map fun span =>
      .found redundantName ("Using `all` with specific rules is redundant. "
        ++ "Use `herb:disable all` by itself or list only specific rules.")
        (c.nameLocation span)
  else []

/-- No other name stands beside `all`. -/
def redundant : Rule :=
  aboutDirectives redundantName .warning fun c _ => redundantOffenses c

/-! ## Names of no rule -/

/-- The names a comment may list, of rules with some names. -/
def knownNames (ruleNames : List String) : List String :=
  ruleNames ++ [Directive.everyRule]

/-- The words for a name that is not known. -/
def unknownMessage (known : List String) (name : String) : String :=
  match Similarity.closest? name.toList known with
  | none => s!"Unknown rule `{name}`."
  | some close => s!"Unknown rule `{name}`. Did you mean `{close}`?"

/-- The name of the rule about names of no rule. -/
def unknownName : String := "herb-disable-comment-valid-rule-name"

/-- The offenses of names that are not known. -/
def unknownOffenses (ruleNames : List String) (c : DisableComment) : List Offense :=
  let known := knownNames ruleNames
  (c.directive.names.filter fun span => !known.contains span.name).map fun span =>
    .found unknownName (unknownMessage known span.name) (c.nameLocation span)

/-- The failure to compare a name with others, if one of them is no
text. -/
def comparisonFailure? (titles : List Value) : Option Crash :=
  (titles.find? fun v => v.string?.isNone).map fun v =>
    .of "TypeError" s!"object of type '{v.kindWord}' has no len()"

/-- Every name a comment lists is known, as far as that can be checked.
Nothing is reported while no rule is. -/
def knownOnly : Rule :=
  aboutDirectives unknownName .warning fun c context =>
    if context.ruleNames.isEmpty then [] else unknownOffenses context.ruleNames c

/-- Every name a comment lists is known. One that is not is compared with
all that are, and that can fail. -/
def unknown : Rule :=
  { knownOnly with
    check := fun input context => do
      let offenses ← knownOnly.check input context
      match comparisonFailure? context.titles with
      | some crash => if offenses.isEmpty then return [] else throw crash
      | none => return offenses }

/-! ## Names that suppress nothing -/

/-- The name of the rule about names that suppress nothing. -/
def unnecessaryName : String := "herb-disable-comment-unnecessary"

/-- The known names of a comment that suppressed nothing. -/
def idleNames (known : List String) (usage : Usage) (c : DisableComment) : List NameSpan :=
  c.directive.names.filter fun span =>
    known.contains span.name && !usage.uses c.location.start.line span.name

/-- The offense of a whole comment that suppressed nothing. -/
def idleComment (what remove : String) (c : DisableComment) : Offense :=
  .found unnecessaryName s!"No offenses {what} to disable. Remove {remove} comment." c.location

/-- The offense of one name, of several, that suppressed nothing. -/
def idleNameOffense (c : DisableComment) (span : NameSpan) : Offense :=
  .found unnecessaryName (s!"No offenses from `{span.name}` to disable. "
    ++ "Remove it from the `herb:disable` comment.") (c.nameLocation span)

/-- The offenses of a comment with names that suppressed nothing. A name
is reported where it stands as long as another known one is of use, and
else the comment as a whole. -/
def idleOffenses (known : List String) (usage : Usage) (c : DisableComment) : List Offense :=
  let idle := idleNames known usage c
  if idle.length < (c.directive.ruleNames.filter known.contains).length then
    idle.map (idleNameOffense c)
  else
    match idle with
    | [] => []
    | [span] => [idleComment s!"from `{span.name}`" "the `herb:disable`" c]
    | spans =>
      let names := ", ".intercalate (spans.map fun span => s!"`{span.name}`")
      [idleComment s!"from rules {names}" "them from the `herb:disable`" c]

/-- The offenses of a comment that suppressed nothing, or less than it
says. -/
def unnecessaryOffenses (ruleNames : List String) (usage : Usage) (c : DisableComment) :
    List Offense :=
  if c.directive.disablesAll then
    if c.directive.ruleNames.length > 1 || usage.usesAny c.location.start.line then []
    else
      [.found unnecessaryName "No offenses to disable. Remove the `herb:disable all` comment."
        c.location]
  else idleOffenses (knownNames ruleNames) usage c

/-- Every name a comment lists suppressed something. Nothing is reported
while no rule is known, or as long as what was suppressed is not. -/
def unnecessary : Rule :=
  aboutDirectives unnecessaryName .warning fun c context =>
    match context.usage with
    | none => []
    | some usage =>
      if context.ruleNames.isEmpty then []
      else unnecessaryOffenses context.ruleNames usage c

end DisableComments

end TemplateLint
