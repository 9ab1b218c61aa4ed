import TemplateLint.Offense.Table
import TemplateLint.Text.Wildcard
import TemplateLint.Value.Json
import TemplateLint.Value.Literal
/-!
# Rules — settings

What a rule is set to: whether it runs, the severity of its offenses, its
options, and the files it runs on. An override replaces some of this and
leaves the rest (`RuleSettings.overriddenBy`); options are overlaid key by
key. An override may be written in a settings file, where it has been
checked, or come as a value of any shape, where it may fail
(`RuleSettings.changedBy?`). What comes in such a value is kept as it is:
it may enable a rule by any value that counts as yes, and hold patterns
that are no texts, which nothing can be matched against.
-/

namespace TemplateLint

/-- What a rule is set to. -/
structure RuleSettings where
  /-- What says whether the rule runs: it counts as yes or as no. -/
  enabled : Value := .bool true
  severity : Severity := .error
  options : Table := []
  /-- Patterns of the files the rule runs on; none means all. -/
  included : List Value := []
  /-- Patterns of the files the rule does not run on. -/
  excluded : List Value := []
  deriving Repr, Inhabited

/-- A change to what a rule is set to: each part is replaced if it is
there. -/
structure RuleOverride where
  enabled : Option Bool := none
  severity : Option Severity := none
  options : Option Table := none
  included : Option (List String) := none
  excluded : Option (List String) := none
  deriving Repr, Inhabited

/-- The override changes nothing. -/
def RuleOverride.isEmpty (o : RuleOverride) : Bool :=
  o.enabled.isNone && o.severity.isNone && o.options.isNone && o.included.isNone
    && o.excluded.isNone

namespace RuleSettings

/-- The rule runs. -/
def isEnabled (s : RuleSettings) : Bool :=
  s.enabled.isTruthy

/-- The settings with an override laid over them. -/
def overriddenBy (s : RuleSettings) (o : RuleOverride) : RuleSettings where
  enabled := if o.isEmpty then s.enabled else .bool (o.enabled.getD s.isEnabled)
  severity := o.severity.getD s.severity
  options := s.options.overlay (o.options.getD [])
  included := (o.included.map (·.map .str)).getD s.included
  excluded := (o.excluded.map (·.map .str)).getD s.excluded

/-! ## The files of a rule -/

/-- A file name with slashes only. -/
def slashed (file : String) : Text :=
  file.toList.map fun c => if c = '\\' then '/' else c

/-- One of some patterns matches a file name. There is no answer if
something that is no pattern comes before the first that does. -/
def matchesAny? (file : Text) : List Value → Option Bool
  | [] => some false
  | .str pattern :: patterns =>
    if Wildcard.fits pattern.toList file then some true else matchesAny? file patterns
  | _ :: _ => none

/-- Whether the rule runs on a file: the name matches an inclusion, if
there are any, and no exclusion. It runs on text that has no file name. -/
def appliesTo? (s : RuleSettings) : Option String → Option Bool
  | none => some true
  | some file => do
    let path := slashed file
    let isIncluded ← if s.included.isEmpty then some true else matchesAny? path s.included
    if isIncluded then return !(← matchesAny? path s.excluded) else return false

/-- The rule is known to run on a file. -/
def appliesTo (s : RuleSettings) (file : Option String) : Bool :=
  (s.appliesTo? file).getD false

end RuleSettings

/-! ## Overrides of any shape -/

/-- Why a value is no override. -/
inductive OverrideError where
  /-- It is no table. -/
  | noTable (value : Value)
  /-- Its options or its file patterns are no list. -/
  | noItems (value : Value)
  /-- An item of its options is made up of nothing. -/
  | noParts (index : Nat)
  /-- An item of its options is no pair of key and value. -/
  | noPair (index length : Nat)
  /-- An option has a list or a table for a key. -/
  | noKey (value : Value)
  /-- It names no severity. -/
  | noSeverity (value : Value)
  deriving Repr

/-- The words for an override that cannot be read. -/
def OverrideError.message : OverrideError → String
  | .noTable v => s!"'{v.kindWord}' object has no attribute 'get'"
  | .noItems v => s!"'{v.kindWord}' object is not iterable"
  | .noParts index =>
    s!"cannot convert dictionary update sequence element #{index} to a sequence"
  | .noPair index length =>
    s!"dictionary update sequence element #{index} has length {length}; 2 is required"
  | .noKey v => s!"unhashable type: '{v.kindWord}'"
  | .noSeverity v => Severity.unknownMessage v

namespace RuleSettings

/-- The severity that a value names. -/
def severityOf? (v : Value) : Except OverrideError Severity :=
  match v.string?.bind Severity.ofWord? with
  | some s => .ok s
  | none => .error (.noSeverity v)

/-- Pairs of key and value with one more at the end, or its value in the
place of one whose key is alike. -/
def putPair (pairs : List (Value × Value)) (key v : Value) : List (Value × Value) :=
  if pairs.any (·.1.alike key) then
    pairs.map fun pair => if pair.1.alike key then (pair.1, v) else pair
  else pairs ++ [(key, v)]

/-- Pairs with those of a list, the first item of which has an index. -/
def pairsFrom (index : Nat) (pairs : List (Value × Value)) :
    List Value → Except OverrideError (List (Value × Value))
  | [] => .ok pairs
  | item :: items =>
    match item.parts? with
    | some [key, v] =>
      if key.isPlain then pairsFrom (index + 1) (putPair pairs key v) items
      else .error (.noKey key)
    | some parts => .error (.noPair index parts.length)
    | none => .error (.noParts index)

/-- The text of a key: a string as it is, anything else as in JSON. -/
def keyText : Value → String
  | .str s => s
  | v => v.json?.getD ""

/-- The options that a value sets. -/
def optionsOf? : Value → Except OverrideError Table
  | .table fields => .ok fields
  | .list items => (pairsFrom 0 [] items).map fun pairs =>
    pairs.map fun pair => (keyText pair.1, pair.2)
  | .str s => if s.isEmpty then .ok [] else .error (.noPair 0 1)
  | v => .error (.noItems v)

/-- The patterns that a value is made up of. -/
def patternsOf? (v : Value) : Except OverrideError (List Value) :=
  match v.parts? with
  | some patterns => .ok patterns
  | none => .error (.noItems v)

/-- What stands under a key, read, or a default. -/
def readD {α : Type} (fields : Table) (key : String) (default : α)
    (read : Value → Except OverrideError α) : Except OverrideError α :=
  (Table.get? fields key).elim (.ok default) read

/-- The settings with a value of any shape laid over them. Nothing, zero
and what is empty change nothing. -/
def changedBy? (s : RuleSettings) (v : Value) : Except OverrideError RuleSettings :=
  if !v.isTruthy then .ok s
  else
    match v with
    | .table fields => do
      let options ← readD fields "options" [] optionsOf?
      let severity ← readD fields "severity" s.severity severityOf?
      let included ← readD fields "include" s.included patternsOf?
      let excluded ← readD fields "exclude" s.excluded patternsOf?
      return {
        enabled := .bool ((Table.get? fields "enabled").elim s.isEnabled Value.isTruthy)
        severity, options := s.options.overlay options, included, excluded }
    | v => .error (.noTable v)

/-- The settings with what a value holds for a rule laid over them. The
value holds overrides under the names of rules. -/
def changedAmong? (overrides : Value) (rule : String) (s : RuleSettings) :
    Except OverrideError RuleSettings :=
  if !overrides.isTruthy then .ok s
  else
    match overrides with
    | .table t => s.changedBy? ((Table.get? t rule).getD .null)
    | v => .error (.noTable v)

/-- The settings that a table describes. -/
def ofTable? (fields : Table) : Except OverrideError RuleSettings := do
  let base : RuleSettings := {}
  let severity ← readD fields "severity" base.severity severityOf?
  let options ← readD fields "options" base.options optionsOf?
  let included ← readD fields "include" base.included patternsOf?
  let excluded ← readD fields "exclude" base.excluded patternsOf?
  return { enabled := (Table.get? fields "enabled").getD base.enabled
           severity, options, included, excluded }

/-- The settings as a table. -/
def toTable (s : RuleSettings) : Table :=
  [("enabled", s.enabled), ("severity", .str s.severity.word), ("options", .table s.options),
   ("include", .list s.included), ("exclude", .list s.excluded)]

end RuleSettings

end TemplateLint
