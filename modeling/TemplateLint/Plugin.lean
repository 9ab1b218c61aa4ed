import TemplateLint.Rule.Basic
import TemplateLint.Template.Parser
import TemplateLint.Text.Quoted
/-!
# Plugins — parsers and printers by reference

Settings name a parser and a printer by a module and a callable in it,
with a colon between them. Which modules there are is up to the
installation; each has a dotted name and may be a package, which has
modules below it. Loading a reference finds the module, package by
package from the left, and then the callable. That it is a parser or a
printer turns out when it is called.
-/

namespace TemplateLint

/-- A callable of a module: what it is found under there, its own name,
and what comes of calling it with a text, as a parser is called, and with
a document, as a printer is. -/
structure Callable where
  key : String
  name : String
  parse : Text → Except Crash Document
  print : Document → Except Crash Text

/-- A module of an installation. -/
structure Module where
  name : String
  isPackage : Bool
  callables : List Callable

/-- Why a reference leads nowhere. -/
inductive PluginError where
  /-- The reference names no module. -/
  | noModuleName
  /-- The name of the module starts with a dot. -/
  | relativeName
  /-- The module, or a package on the way to it, is missing. -/
  | missing (module part : String) (inside : Option String)
  /-- The module has no such callable. -/
  | noCallable (reference : String)
  deriving DecidableEq, Repr

namespace PluginError

/-- A name in quotes. -/
def quotedName (name : String) : String :=
  String.ofList (Text.quoted name.toList)

/-- The words for a reference that leads nowhere. -/
def message : PluginError → String
  | .noModuleName => "Empty module name"
  | .relativeName => "the name of a module cannot start with a dot"
  | .missing module part inside =>
    let reason := inside.elim "" fun parent => s!"; {quotedName parent} is not a package"
    s!"Cannot import \"{module}\": No module named {quotedName part}{reason}"
  | .noCallable reference => s!"\"{reference}\" does not name a callable"

end PluginError

namespace Plugin

/-- The two sides of a reference. Without a colon there is no callable. -/
def sides (reference : String) : Text × Text :=
  match Text.cutAt? [':'] reference.toList with
  | some (module, key) => (module, key)
  | none => (reference.toList, [])

/-- The names of a module and the packages on the way to it, the outermost
first. -/
def stages (module : Text) : List Text :=
  let parts := module.splitAt '.'
  (List.range parts.length).map fun n => List.intercalate ['.'] (parts.take (n + 1))

/-- The last of some modules, each of which is found in the one before. -/
def reach (modules : List Module) (asked : String) (above : Option Module) :
    List Text → Except PluginError (Option Module)
  | [] => .ok above
  | stage :: rest =>
    let name := String.ofList stage
    match above.filter fun m => !m.isPackage with
    | some outer => .error (.missing asked name (some outer.name))
    | none =>
      match modules.find? fun m => m.name == name with
      | none => .error (.missing asked name none)
      | some m => reach modules asked (some m) rest

/-- The callable that a reference leads to. -/
def load? (modules : List Module) (reference : String) : Except PluginError Callable := do
  let (module, key) := sides reference
  match module with
  | [] => .error .noModuleName
  | '.' :: _ => .error .relativeName
  | _ =>
    let found ← reach modules (String.ofList module) none (stages module)
    match found.bind fun m => m.callables.find? fun c => c.key.toList == key with
    | some c => return c
    | none => .error (.noCallable reference)

/-- The module with the parser and printer of the library. -/
def bundled : Module where
  name := "template_parser"
  isPackage := false
  callables :=
    [{ key := "parse_template"
       name := "parse_template"
       parse := fun source => .ok (Document.parse source)
       print := fun _ => .error (.of "TypeError" "a document cannot be parsed") },
     { key := "print_template"
       name := "print_template"
       parse := fun _ => .error (.of "AttributeError" "a text cannot be printed")
       print := fun d => .ok d.print }]

end Plugin

end TemplateLint
