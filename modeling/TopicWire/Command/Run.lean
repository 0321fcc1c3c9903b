import TopicWire.Capture.Directory
import TopicWire.Capture.Report
import TopicWire.Command.Libraries
import TopicWire.Command.Sample

/-!
# Running the inspector

A run takes a command line and a directory to what is printed, an exit code and the directory after
it. A command line that asks for nothing ends with code 2, a run that fails with code 1 and a report
of the failure with its cause. `executeWith` is the inspector on whatever `Libraries` it is given,
and `execute` the one that has no others.
-/

set_option autoImplicit false
set_option relaxedAutoImplicit false

namespace TopicWire.Command

/-- Why a run failed: what was tried, and what stood against it. -/
structure Failure where
  context : String
  cause : String
  deriving DecidableEq, Repr

/-- The report of a failure. -/
def Failure.lines (failure : Failure) : List String :=
  ["Error: " ++ failure.context, "", "Caused by:", "    " ++ failure.cause]

/-- What a subcommand did: its report, its failure if it failed, and the directory after it. -/
structure Run where
  report : List Entry
  failure : Option Failure
  directory : Directory

/-- What a command line led to. -/
structure Outcome where
  exitCode : Nat
  output : List String
  diagnostics : List String
  directory : Directory

/-- The bytes of a capture file, which may be written as hexadecimal text. -/
def captureBytes (hex : Bool) (content : Bytes) : Except Failure Bytes :=
  if hex then
    (Text.Hex.parse content).mapError fun e ↦ ⟨"capture is not valid hex", e.message⟩
  else .ok content

/-- The capture in a file. -/
def openCapture (directory : Directory) (file : String) (hex : Bool) : Except Failure Bytes := do
  let context := "failed to open capture " ++ file
  let content ← (directory.read file).mapError fun e ↦ ⟨context, e.message⟩
  captureBytes hex content

/-- Reports on the capture in a file. -/
def dump (invocation : Invocation) (directory : Directory) : Run :=
  let opening := Entry.event (.opening invocation.file invocation.hex)
  match openCapture directory invocation.file invocation.hex with
  | .error failure => ⟨[opening], some failure, directory⟩
  | .ok capture => ⟨opening :: Report.ofCapture invocation.quiet capture, none, directory⟩

/-- The content of the sample file and the directory with it. -/
def writeSample (invocation : Invocation) (directory : Directory) :
    Except Failure (Bytes × Directory) := do
  let context := "failed to write " ++ invocation.file
  let capture ← sampleCapture.mapError fun e ↦ ⟨context, e.message⟩
  let content := if invocation.hex then Text.Utf8.encode (Text.Hex.encode capture) else capture
  let written ← (directory.write invocation.file content).mapError fun e ↦ ⟨context, e.message⟩
  return (content, written)

/-- Writes the sample to a file. -/
def sample (invocation : Invocation) (directory : Directory) : Run :=
  match writeSample invocation directory with
  | .error failure => ⟨[], some failure, directory⟩
  | .ok (content, written) =>
    ⟨[.event (.sampleWritten invocation.file content.length)], none, written⟩

/-- Runs a subcommand. -/
def Invocation.run (invocation : Invocation) (directory : Directory) : Run :=
  match invocation.subcommand with
  | .dump => dump invocation directory
  | .sample => sample invocation directory

/-- What a run comes to if a filter is kept to. -/
def Run.outcome (run : Run) (filter : LogFilter) : Outcome :=
  { exitCode := if run.failure.isSome then 1 else 0
    output := Report.lines filter run.report
    diagnostics := run.failure.elim [] Failure.lines
    directory := run.directory }

/-- The line of the version. -/
def versionLine : String := "rekt_inspect 0.1.0"

/-- Runs a command line in a directory. -/
def executeWith (libraries : Libraries) (arguments : List String) (directory : Directory) :
    Outcome :=
  match Request.ofArguments arguments with
  | .error reason => ⟨2, [], [reason.message], directory⟩
  | .ok .version => ⟨0, [versionLine], [], directory⟩
  | .ok (.help topic) => ⟨0, libraries.helpPage topic, [], directory⟩
  | .ok (.invocation invocation) =>
    match libraries.logFilter invocation.logLevel with
    | .error report => ⟨1, [], ["Error: " ++ report], directory⟩
    | .ok filter => (invocation.run directory).outcome filter

/-- Runs a command line in a directory, with no more than the basic libraries. -/
def execute (arguments : List String) (directory : Directory) : Outcome :=
  executeWith .basic arguments directory

end TopicWire.Command
