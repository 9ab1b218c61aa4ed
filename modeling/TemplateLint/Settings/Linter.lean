import TemplateLint.Settings.Basic
import TemplateLint.Linter.Basic
/-!
# Settings — the linter of a project

The rules of the library and the custom rules of a project, with the
overrides of its settings; and a row of facts on every rule.
-/

namespace TemplateLint

/-- The linter that settings ask for, with some custom rules. -/
def Settings.linter? (s : Settings) (custom : List Rule) (equipment : Equipment) :
    Except LinterError Linter :=
  Linter.ofRules? (Rule.builtins ++ custom)
    (fun rule settings => .ok (settings.overriddenBy ((s.override? rule).getD {})))
    { equipment with scope := s.scope, ignoresComments := s.ignoresComments }

/-- The name and kind of a rule, whether it runs, how bad its offenses
are, and whether it can fix them. -/
def BoundRule.row (b : BoundRule) : Table :=
  [("name", b.rule.title), ("type", b.rule.kindTitle), ("enabled", b.settings.enabled),
   ("severity", .str b.settings.severity.word),
   ("autocorrectable", .bool b.rule.isAutocorrectable)]

/-- The rows of the rules of a linter, if all of them have a kind. -/
def Linter.rows? (l : Linter) : Option (List Table) :=
  if l.rules.any fun b => b.rule.kind = .missing then none else some (l.rules.map BoundRule.row)

end TemplateLint
