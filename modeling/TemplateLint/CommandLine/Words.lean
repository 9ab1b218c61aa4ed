import TemplateLint.Path.Basic
import TemplateLint.Text.Quoted
import TemplateLint.Text.Similarity
/-!
# Command line — options and operands

The words of a command line are read from the left. A word that begins
with a dash is an option, with its value behind an equals sign or in the
next word if it takes one; two dashes alone end the options; every other
word is an operand. Where options and operands do not mix the first
operand ends the options too.
-/

namespace TemplateLint

namespace CommandLine

/-- What is wrong with a command line. -/
inductive UsageError where
  | unknownOption (option : String) (close : List String)
  | noValue (option : String)
  | noFlag (option : String)
  | missingCommand
  | unknownCommand (command : String) (close : List String)
  | badChoice (option value : String) (choices : List String)
  | noPath (path : String)
  | nullPath
  | extraOperands (operands : List String)
  deriving DecidableEq, Repr

namespace UsageError

/-- A word in quotes. -/
def quoted (word : String) : String :=
  String.ofList (Text.quoted word.toList)

/-- Words in quotes, with commas between them. -/
def listed (words : List String) : String :=
  ", ".intercalate (words.map quoted)

/-- The question whether something else was meant. -/
def suggestion : List String → String
  | [] => ""
  | [word] => s!" Did you mean {quoted word}?"
  | words => s!" (Did you mean one of: {listed words}?)"

/-- The words for what is wrong. -/
def message : UsageError → String
  | .unknownOption option close => s!"No such option {quoted option}." ++ suggestion close
  | .noValue option => s!"Option {quoted option} requires an argument."
  | .noFlag option => s!"Option {quoted option} does not take a value."
  | .missingCommand => "Missing command."
  | .unknownCommand command close => s!"No such command {quoted command}." ++ suggestion close
  | .badChoice option value choices =>
    s!"Invalid value for {quoted option}: {quoted value} is not one of {listed choices}."
  | .noPath path => s!"Invalid value for '[PATHS]...': Path {quoted path} does not exist."
  | .nullPath => Path.nullMessage
  | .extraOperands operands =>
    let word := if operands.length = 1 then "argument" else "arguments"
    s!"Got unexpected extra {word} (" ++ " ".intercalate operands ++ ")"

end UsageError

/-- An option that a command knows. -/
structure OptionForm where
  name : String
  takesValue : Bool := false
  deriving DecidableEq, Repr

/-- An option as it is given. A flag has no value. -/
structure GivenOption where
  name : String
  value : String := ""
  deriving DecidableEq, Repr

/-- The words of a command line, told apart. -/
structure Words where
  options : List GivenOption := []
  operands : List String := []
  deriving DecidableEq, Repr

namespace Words

/-- The words with an option before them. -/
def withOption (o : GivenOption) (w : Words) : Words :=
  { w with options := o :: w.options }

/-- The words with an operand before them. -/
def withOperand (operand : String) (w : Words) : Words :=
  { w with operands := operand :: w.operands }

/-- The word is read as an option: something follows a dash. -/
def isOption (word : String) : Bool :=
  match word.toList with
  | '-' :: _ :: _ => true
  | _ => false

/-- The name of an option and the value behind its equals sign. -/
def sides (word : String) : String × Option String :=
  match Text.cutAt? ['='] word.toList with
  | some (name, value) => (String.ofList name, some (String.ofList value))
  | none => (word, none)

/-- The error about a word that is no option. A single dash stands before
one letter, and no option is that short. -/
def unknownOption (forms : List OptionForm) (word : String) : UsageError :=
  match word.toList with
  | '-' :: '-' :: _ =>
    let name := (sides word).1
    .unknownOption name (Similarity.close name.toList (forms.map (·.name)))
  | t => .unknownOption (String.ofList (t.take 2)) []

/-- The words told apart, given the options that are known and whether
they mix with operands. -/
def read? (forms : List OptionForm) (mixed : Bool) : List String → Except UsageError Words
  | [] => .ok {}
  | word :: words =>
    if word = "--" then .ok { operands := words }
    else if isOption word then
      let (name, value) := sides word
      match forms.find? (·.name == name), value, words with
      | none, _, _ => .error (unknownOption forms word)
      | some ⟨_, false⟩, none, words => (read? forms mixed words).map (withOption ⟨name, ""⟩)
      | some ⟨_, false⟩, some _, _ => .error (.noFlag name)
      | some ⟨_, true⟩, some value, words =>
        (read? forms mixed words).map (withOption ⟨name, value⟩)
      | some ⟨_, true⟩, none, value :: words =>
        (read? forms mixed words).map (withOption ⟨name, value⟩)
      | some ⟨_, true⟩, none, [] => .error (.noValue name)
    else if mixed then (read? forms mixed words).map (withOperand word)
    else .ok { operands := word :: words }

/-- The values that an option is given with. -/
def values (w : Words) (name : String) : List String :=
  (w.options.filter (·.name == name)).map (·.value)

/-- An option is given. -/
def has (w : Words) (name : String) : Bool :=
  w.options.any (·.name == name)

/-- The value that an option is given with last. -/
def value? (w : Words) (name : String) : Option String :=
  (w.values name).getLast?

end Words

end CommandLine

end TemplateLint
