import TemplateLint.Rule.Newlines
import TemplateLint.Rule.DisableComments
import TemplateLint.Rule.Tags
import TemplateLint.Rule.ParseErrors
/-!
# Rules — those that come with the library

The ten rules every linter can run, in the order in which they run.
-/

namespace TemplateLint

namespace Rule

/-- The rules of the library, in order. -/
def builtins : List Rule :=
  [Newlines.blankLines, Newlines.endOfFile, DisableComments.malformed, DisableComments.missing,
   DisableComments.duplicate, DisableComments.redundant, DisableComments.unnecessary,
   DisableComments.unknown, Tags.lowercase, ParseErrors.reported]

/-- The rule of the library with a name. -/
def builtin? (name : String) : Option Rule :=
  builtins.find? fun r => r.name == name

end Rule

end TemplateLint
