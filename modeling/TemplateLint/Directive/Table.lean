import TemplateLint.Directive.Basic
import TemplateLint.Value.Basic
/-!
# Directives — as tables

A directive as the table that shows it: the names it lists, each with its
place in the comment, and how they are written there.
-/

namespace TemplateLint

/-- A name with its place: where it starts, how long it is, and where it
stops. -/
def NameSpan.toValue (s : NameSpan) : Value :=
  .list [.str s.name, .int s.offset, .int s.length, .int s.stop]

/-- A directive as a table. -/
def Directive.toTable (d : Directive) : Table :=
  [("rule_names", .strings d.ruleNames), ("details", .list (d.names.map NameSpan.toValue)),
   ("rules_string", .str (String.ofList d.rulesText)), ("all", .bool d.disablesAll)]

end TemplateLint
