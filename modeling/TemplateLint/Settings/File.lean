import TemplateLint.Settings.Basic
import TemplateLint.FileTree
import TemplateLint.Text.Utf8
import TemplateLint.Toml.Reader
/-!
# Settings — the file of a project

The settings of a project stand in its `pyproject.toml`, which is looked
for in the directory one starts from and all directories above it.
Loading fails if the file cannot be read, is no text, is no TOML, holds a
number of too many digits, has something else where the table of settings
should be, or has problems in that table.
-/

namespace TemplateLint

/-- Why the settings of a project cannot be loaded. -/
inductive ProjectError where
  /-- The file cannot be read. -/
  | unreadable (file : Path) (error : FileError)
  /-- The file is no text. -/
  | undecodable (error : Text.DecodingError)
  /-- The file is no TOML. -/
  | notToml (file : Path)
  /-- A whole number in the file has too many digits. -/
  | oversized (digits : Nat)
  /-- The path of the file holds a null character. -/
  | nullPath
  /-- There is no table on the way to the settings. -/
  | noTable
  /-- The table of settings has problems. -/
  | invalid (file : Option Path) (problems : List SettingsProblem)
  deriving Repr

namespace ProjectError

/-- The words for settings that cannot be loaded. -/
def message : ProjectError → String
  | .unreadable file e => "Cannot read config file: " ++ e.message file.written
  | .undecodable e => e.message
  | .notToml _ => "Invalid TOML: the document cannot be read"
  | .oversized digits => Value.oversizedMessage s!": value has {digits} digits"
  | .nullPath => Path.nullMessage
  | .noTable => "the settings have to be a table"
  | .invalid _ problems => SettingsProblem.report problems

/-- The file that the settings stand in, if the error is about it. -/
def file? : ProjectError → Option Path
  | .unreadable file _ | .notToml file => some file
  | .invalid file _ => file
  | .undecodable _ | .oversized _ | .nullPath | .noTable => none

end ProjectError

namespace Project

/-- The name of the file that settings stand in. -/
def fileName : Text := "pyproject.toml".toList

/-- The directory with some names, and all directories above it. -/
def upward : List Text → List (List Text)
  | names => (List.range (names.length + 1)).map fun n => names.take (names.length - n)

/-- The file of the settings, looked for from a directory upward. -/
def find? (root : FileTree) (start : Path) : Option Path :=
  ((upward start.names).map fun names => Path.mk start.start (names ++ [fileName])).find?
    root.hasFile

/-- A table under a key, empty if the key is not there. -/
def tableUnder? (t : Table) (key : String) : Except ProjectError Table :=
  match t.get? key with
  | none => .ok []
  | some (.table inner) => .ok inner
  | some _ => .error .noTable

/-- The project with the settings in a table, which stands in a file. -/
def ofTable? (t : Table) (file : Option Path) : Except ProjectError Project :=
  match Settings.ofTable? t with
  | .ok settings => .ok ⟨settings, file⟩
  | .error problems => .error (.invalid file problems)

/-- The project with the settings in a document, which stands in a
file. -/
def ofDocument? (t : Table) (file : Path) : Except ProjectError Project := do
  let tool ← tableUnder? t "tool"
  ofTable? (← tableUnder? tool "herblint") (some file)

/-- The project with the settings in a file, given by a path from where
one stands. -/
def ofFile? (root : FileTree) (here file : Path) : Except ProjectError Project :=
  if file.hasNull then .error .nullPath
  else
    match root.octets? (here.append file) with
    | .error e => .error (.unreadable file e)
    | .ok octets =>
      match Text.decode octets with
      | .error e => .error (.undecodable e)
      | .ok t =>
        match Toml.read? t with
        | .error .malformed => .error (.notToml file)
        | .error (.oversized digits) => .error (.oversized digits)
        | .ok table => ofDocument? table (file.resolve here)

/-- The project with the settings in a file, or in the one that is found
from where one stands upward. Without one the settings are the usual
ones. -/
def load? (root : FileTree) (here : Path) (file : Option Path) : Except ProjectError Project :=
  match file <|> find? root here with
  | none => .ok ⟨{}, none⟩
  | some file => ofFile? root here file

end Project

end TemplateLint
