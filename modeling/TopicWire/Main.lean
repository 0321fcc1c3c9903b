import TopicWire.Command.Run

/-!
# The inspector as a program

Takes the directory that the path on the command line leads to with the file that the path names,
runs the command line there, prints what it shows and writes the files it changed.
-/

set_option autoImplicit false
set_option relaxedAutoImplicit false

namespace TopicWire.Main

/-- The text of a path up to and with its last slash, and the text after it. -/
def splitPath (path : String) : String × String :=
  let backwards := path.toList.reverse
  (String.ofList (backwards.dropWhile (· != '/')).reverse,
    String.ofList (backwards.takeWhile (· != '/')).reverse)

/-- The file of a path, if it can be read. -/
def loadFile (path name : String) : IO (List (String × Bytes)) := do
  try
    let content ← IO.FS.readBinFile path
    return [(name, content.toList)]
  catch _ => return []

/-- The directory that a path leads to, or one without files if there is no such directory. -/
def loadDirectory (path : String) : IO Directory := do
  let (place, name) := splitPath path
  try
    if !place.isEmpty then
      discard <| IO.FS.realPath place
    return { files := ← loadFile path name, place }
  catch _ => return .empty

/-- The directory that a command line works in. -/
def workplace (arguments : List String) : IO Directory := do
  match Command.Request.ofArguments arguments with
  | .ok (.invocation invocation) => loadDirectory invocation.file
  | _ => return .empty

/-- Runs a command line on the files of the system. -/
def run (arguments : List String) : IO UInt32 := do
  let directory ← workplace arguments
  let outcome := Command.execute arguments directory
  for line in outcome.output do
    IO.println line
  for line in outcome.diagnostics do
    IO.eprintln line
  for (name, content) in outcome.directory.changesSince directory do
    IO.FS.writeBinFile (directory.place ++ name) (ByteArray.mk content.toArray)
  return UInt32.ofNat outcome.exitCode

end TopicWire.Main

/-- Runs the inspector on the words of the command line. -/
def main (arguments : List String) : IO UInt32 := TopicWire.Main.run arguments
