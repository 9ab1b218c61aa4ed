import TemplateLint.Rule.DisableComments
/-!
# Linter — suppression by comments

A comment suppresses the offenses of the rules it names: on its own line,
or from there to the end of the document. The nearest comment before the
offense gets the credit for it. The rules about such comments are never
suppressed. `filter` goes through some offenses and says which are kept,
and what was credited to which line.
-/

namespace TemplateLint

/-- How far a comment reaches. -/
inductive DisableScope where
  /-- To the end of the document. -/
  | remainder
  /-- To the end of its line. -/
  | line
  deriving DecidableEq, Repr

namespace DisableScope

/-- All scopes. -/
def all : List DisableScope := [.remainder, .line]

/-- The word for a scope. -/
def word : DisableScope → String
  | .remainder => "remainder"
  | .line => "line"

/-- The scope that a word stands for. -/
def ofWord? (w : String) : Option DisableScope :=
  all.find? fun s => s.word == w

/-- A comment on one line reaches another. -/
def reaches (scope : DisableScope) (commentLine offenseLine : Nat) : Bool :=
  match scope with
  | .remainder => commentLine ≤ offenseLine
  | .line => commentLine = offenseLine

end DisableScope

/-- A directive and where its comment starts. -/
structure Suppression where
  position : Position
  directive : Directive
  deriving DecidableEq, Repr

namespace Suppression

/-- The suppression that a comment is. -/
def ofComment (c : DisableComment) : Suppression :=
  ⟨c.location.start, c.directive⟩

/-- The suppressions of a document, in the order of where they start. -/
def collect (d : Document) : List Suppression :=
  match d.root with
  | none => []
  | some root =>
    (root.disableComments.map ofComment).mergeSort fun a b => decide (a.position ≤ b.position)

/-- The rule is one about comments. -/
def isExempt (rule : String) : Bool :=
  Text.startsWith DisableComments.namePrefix.toList rule.toList

/-- The directive names the rule of an offense and reaches its line. -/
def covers (scope : DisableScope) (s : Suppression) (o : Offense) : Bool :=
  s.directive.disables o.rule && scope.reaches s.position.line o.start.line

/-- The suppression that gets the credit for an offense: the last one that
covers it. -/
def credited? (scope : DisableScope) (suppressions : List Suppression) (o : Offense) :
    Option Suppression :=
  if isExempt o.rule then none else suppressions.reverse.find? fun s => s.covers scope o

/-- What suppression makes of some offenses: those that are kept, and what
was credited to which line, once for each of the others. -/
structure Filtered where
  kept : List Offense
  usage : Usage
  deriving Repr

/-- The number of offenses that were suppressed. -/
def Filtered.ignored (f : Filtered) : Nat :=
  f.usage.length

/-- The offenses sorted into those kept and those suppressed. -/
def filter (scope : DisableScope) (suppressions : List Suppression) : List Offense → Filtered
  | [] => ⟨[], []⟩
  | o :: offenses =>
    let rest := filter scope suppressions offenses
    match credited? scope suppressions o with
    | none => { rest with kept := o :: rest.kept }
    | some s => { rest with usage := (s.position.line, o.rule) :: rest.usage }

end Suppression

end TemplateLint
