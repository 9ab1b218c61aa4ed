import TemplateLint.CommandLine.Response
/-!
# Main — the program

Reads the files that a command line can be about into a workspace, prints
what comes of the command line there, and writes the files that change.
Everything else is `CommandLine.respond`.
-/

namespace TemplateLint

namespace Main

/-- Why reading a file failed. -/
def fileError : IO.Error → FileError
  | .permissionDenied _ number words => .refused number.toNat words
  | .resourceExhausted _ number words => .refused number.toNat words
  | .inappropriateType _ number words => .refused number.toNat words
  | .hardwareFault number words => .brokeOff number.toNat words
  | .otherError number words => .brokeOff number.toNat words
  | _ => .notFound

/-- What stands at a path from the root, if anything does. Directories that
cannot be listed are left out. -/
partial def treeAt? (p : Path) : IO (Option FileTree) := do
  let place := (← IO.currentDir) / p.toString
  if ← place.isDir then
    try
      let entries ← place.readDir
      let below ← entries.toList.mapM fun entry => do
        let name := entry.fileName.toList
        return (← treeAt? (p.child name)).map fun t => (name, t)
      return some (.directory (below.filterMap id))
    catch _ => return none
  else if ← place.pathExists then
    try return some (.file (← IO.FS.readBinFile place).toList)
    catch e => return some (.unreadable (fileError e))
  else return none

/-- The nearest directory upward with settings in it, or the one to start
from. -/
def projectDirectory (here : Path) : IO Path := do
  for names in Project.upward here.names do
    let directory : Path := ⟨here.start, names⟩
    if (← treeAt? (directory.child Project.fileName)).isSome then return directory
  return here

/-- The places that a command line can be about: where one stands, the
directory of the project, and all that the words lead to. -/
def places (here : Path) (words : List String) : IO (List Path) := do
  let resolved (word : String) : Path := (Path.read word.toList).resolve here
  match CommandLine.Opening.read? words with
  | .ok (.command general words) =>
    let directory ← match general.config with
      | some file => pure (resolved file).parent
      | none => projectDirectory here
    return here :: directory :: words.map resolved
  | _ => return []

/-- The workspace of a command line. This program imports no code, so no file of
custom rules is of a kind that it supports. -/
def workspace (words : List String) : IO Workspace := do
  let here := Path.read (← IO.currentDir).toString.toList
  let mut root := FileTree.directory []
  for p in ← places here words do
    if let some t ← treeAt? p then root := FileTree.put t p.names root
  return {
    root, here
    modules := [Plugin.bundled]
    imports := fun _ => .unsupported
    home := (← IO.appDir).toString }

/-- Shows what comes of a command line, and writes the files that
change. -/
def perform (r : CommandLine.Response) : IO UInt32 := do
  for record in r.log do IO.eprintln s!"{record.source.name}: {record.message}"
  for message in r.messages do IO.eprintln message
  for c in r.changes do
    IO.FS.writeBinFile c.file.toString ⟨(Text.encode c.new).toArray⟩
  IO.print r.output
  if let some f := r.failure then IO.eprintln f.message
  return r.exit.toUInt32

end Main

end TemplateLint

/-- The program. -/
def main (words : List String) : IO UInt32 := do
  TemplateLint.Main.perform (TemplateLint.CommandLine.respond
    (← TemplateLint.Main.workspace words) words)
