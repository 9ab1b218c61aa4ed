import TemplateLint.Rule.Basic
/-!
# Rules — errors of the parser

Every error the parser found is an offense, and always an error. The rule
reads the errors of the document and of its tree, and so it also runs when
there is no tree.
-/

namespace TemplateLint

namespace ParseErrors

/-- The name of the rule. -/
def ruleName : String := "parser-no-errors"

/-- The offense of an error of the parser. -/
def offense (e : ParseError) : Offense :=
  { Offense.found ruleName s!"{e.message} ({e.kind})" e.location with severity := some .error }

/-- Every error of the parser is reported. -/
def reported : Rule :=
  .onDocument ruleName .error fun d _ => d.allErrors.map offense

end ParseErrors

end TemplateLint
