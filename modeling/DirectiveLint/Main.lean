import DirectiveLint.CommandLine.Run

/-!
# The program

The files and directories that the arguments name are read into a tree, the
program is run on the tree, and then what it changed is written back.  Nothing
is decided here: arguments, exit code, output and log are those of the run.
-/

namespace DirectiveLint
namespace Program

/-- A tree with what there is at a place.  The entries of a directory come along if they are asked
for. -/
partial def addPlace (withEntries : Bool) (tree : FileTree) (path : FilePath)
    (place : IO.FS.DirEntry) : IO FileTree := do
  if ← place.path.isDir then
    let tree := (tree.makeDirectory path).toOption.getD tree
    if withEntries then
      (← place.path.readDir).foldlM
        (fun tree entry => addPlace true tree (path ++ [entry.fileName]) entry) tree
    else return tree
  else if ← place.path.pathExists then
    let content ← IO.FS.readBinFile place.path
    return (tree.create content.toList path).toOption.getD tree
  else return tree

/-- A tree with everything at and below a path. -/
def addInput (tree : FileTree) (path : FilePath) : IO FileTree := do
  addPlace true tree path ⟨← IO.currentDir, path.text⟩

/-- A tree with what there is on the way to a path. -/
def addWay (tree : FileTree) (path : FilePath) : IO FileTree :=
  (List.range (path.length + 1)).foldlM
    (fun tree length => do
      let part : FilePath := path.take length
      addPlace false tree part ⟨← IO.currentDir, part.text⟩) tree

/-- The tree of what a command needs. -/
def load (standpoint : Standpoint) (command : CommandLine.Command) : IO FileTree := do
  let located (text : String) : Option FilePath := (standpoint.locate text).toOption
  let inputs := command.inputs.filterMap located
  let output := command.outputFile.toList.filterMap located
  output.foldlM addWay (← inputs.foldlM addInput .empty)

/-- Writes back a file. -/
def store (path : FilePath) (content : List UInt8) : IO Unit := do
  IO.FS.createDirAll path.parent.text
  IO.FS.writeBinFile path.text ⟨content.toArray⟩

/-- The exit code for an outcome. -/
def exitCode (outcome : CommandLine.Outcome) : UInt32 :=
  match outcome with
  | .exit code => code.toUInt32
  | .usage code => code.toUInt32
  | .interrupted _ => 1

/-- What is said about an outcome. -/
def remark (outcome : CommandLine.Outcome) : Option String :=
  match outcome with
  | .interrupted _ => some "The command was interrupted by a failure."
  | _ => none

/-- Carries out a report on the files as they were. -/
def carryOut (before : FileTree) (report : CommandLine.Report) : IO UInt32 := do
  for (path, content) in before.changes report.tree do
    store path content
  IO.print report.output
  for entry in report.log do
    IO.eprintln ("[" ++ entry.level.name ++ "] " ++ Text.withoutHalves entry.message)
  for text in remark report.outcome do
    IO.eprintln text
  return exitCode report.outcome

/-- Where the program is run. -/
def standpoint : IO Standpoint := do
  let working := FilePath.resolve [] (← IO.currentDir).toString
  let home := (← IO.getEnv "HOME").map (FilePath.resolve working)
  return ⟨working, home.toList.map (("", ·))⟩

/-- Runs the program on the files of the system. -/
def perform (arguments : List String) : IO UInt32 := do
  let standpoint ← standpoint
  let command := (CommandLine.Invocation.ofArguments arguments).toOption.bind (·.command)
  let tree ← command.elim (pure .empty) (load standpoint)
  carryOut tree (CommandLine.run tree standpoint arguments)

end Program
end DirectiveLint

def main (arguments : List String) : IO UInt32 :=
  DirectiveLint.Program.perform arguments
