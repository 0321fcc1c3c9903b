import TopicWire.Bytes

/-!
# Capture files

A capture is the wire forms of datagrams one after the other, with nothing around them, in a file of
a directory. A directory has files and no subdirectories, so a path leads to a file of it when one
step is left after those that stay where they are: the empty step and the dot. All other paths lead
to no file, and `FileError` tells why.
-/

set_option autoImplicit false
set_option relaxedAutoImplicit false

namespace TopicWire

/-- Why a file cannot be read or written. -/
inductive FileError where
  /-- Nothing has this path. -/
  | notFound
  /-- The path goes through a file as though it were a directory. -/
  | notADirectory
  /-- A step of the path has more bytes than a name may have. -/
  | nameTooLong
  /-- The path is a directory's, which has no content to write. -/
  | isADirectory
  /-- The path is a directory's, which has no content to map into memory. -/
  | noDevice
  deriving DecidableEq, Repr

/-- The report of a file error. -/
def FileError.message : FileError → String
  | notFound => "No such file or directory (os error 2)"
  | notADirectory => "Not a directory (os error 20)"
  | nameTooLong => "File name too long (os error 36)"
  | isADirectory => "Is a directory (os error 21)"
  | noDevice => "No such device (os error 19)"

/-- The name of a file error. -/
def FileError.variant : FileError → String
  | notFound => "NotFound"
  | notADirectory => "NotADirectory"
  | nameTooLong => "InvalidFilename"
  | isADirectory => "IsADirectory"
  | noDevice => "Uncategorized"

/-- What a path leads to, seen from a directory without subdirectories. -/
inductive Destination where
  /-- The directory itself, or one that it lies in. -/
  | directory
  /-- A file of the directory. -/
  | file (name : String)
  /-- A file of the directory with a slash after its name, which only a directory may have. -/
  | slashed (name : String)
  /-- A place below a file of the directory. -/
  | below (name : String)
  /-- A place beside the directory. -/
  | outside
  deriving DecidableEq, Repr

namespace Destination

/-- The steps of a path: the texts before, between and after its slashes. -/
def steps : List Char → List (List Char)
  | [] => [[]]
  | c :: later =>
    if c = '/' then [] :: steps later
    else match steps later with
      | [] => [[c]]
      | step :: further => (c :: step) :: further

/-- What a path leads to that starts in a directory above. -/
def fromAbove : Destination → Destination
  | directory => directory
  | _ => outside

/-- What the steps of a path lead to. An empty step and a dot stay where they are, two dots lead to
the directory above. -/
def ofSteps : List (List Char) → Destination
  | [] => directory
  | step :: later =>
    if step = [] ∨ step = ['.'] then ofSteps later
    else if step = ['.', '.'] then (ofSteps later).fromAbove
    else if later = [] then file (String.ofList step)
    else if later.all List.isEmpty then slashed (String.ofList step)
    else below (String.ofList step)

/-- What a path leads to. A slash in front starts it at the root. -/
def ofPath : List Char → Destination
  | '/' :: later => (ofSteps (steps later)).fromAbove
  | path => ofSteps (steps path)

end Destination

/-- The files of a directory by name, and the path that leads there, up to and with its last slash.
The path is empty for the directory that the program runs in. Of two files with one name the first
counts. -/
structure Directory where
  files : List (String × Bytes)
  place : String := ""
  deriving DecidableEq

namespace Directory

/-- A directory without files, the one that the program runs in. -/
def empty : Directory := { files := [] }

/-- What a path leads to, seen from the directory. -/
def destination (d : Directory) (path : String) : Destination :=
  match d.place.toList.isPrefixOf? path.toList with
  | some later => .ofPath later
  | none => .outside

/-- Whether a file may have a name: names have up to 255 bytes. -/
def admits (name : String) : Bool := name.utf8ByteSize ≤ 255

/-- Why there is no file of a name: none may have it, or none has it. -/
def absence (name : String) : FileError := if admits name then .notFound else .nameTooLong

/-- Why nothing lies below a name: its file is no directory, or there is no such file. -/
def obstacle (d : Directory) (name : String) : FileError :=
  if (d.files.lookup name).isSome then .notADirectory else absence name

/-- The content of a file. -/
def read (d : Directory) (path : String) : Except FileError Bytes :=
  match d.destination path with
  | .directory => .error .noDevice
  | .file name => (d.files.lookup name).elim (.error (absence name)) .ok
  | .slashed name | .below name => .error (d.obstacle name)
  | .outside => .error .notFound

/-- Makes a file, or replaces its content. -/
def write (d : Directory) (path : String) (content : Bytes) : Except FileError Directory :=
  match d.destination path with
  | .directory | .slashed _ => .error .isADirectory
  | .file name =>
    if admits name then
      .ok { d with files := d.files.filter (fun file ↦ file.1 != name) ++ [(name, content)] }
    else .error .nameTooLong
  | .below name => .error (d.obstacle name)
  | .outside => .error .notFound

/-- The files that are not the same in an earlier state of the directory. -/
def changesSince (d earlier : Directory) : List (String × Bytes) :=
  d.files.filter fun (name, content) ↦ earlier.files.lookup name != some content

end Directory

end TopicWire
