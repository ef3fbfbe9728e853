import Tablewright.Command.Run

/-!
# The command line

Reads the files that a command names, and writes what it makes of them (`Command.outputText`). The
output is written to a file beside it first, which then takes its place: a reader sees the old file
or the whole new one.
-/

namespace Tablewright.Terminal

/-- How to call the program. -/
def usage : String :=
  String.intercalate "\n"
    ["Usage: tablewright [OPTIONS] <INPUT> <OUTPUT>",
      "",
      "  <INPUT>                 SQL schema script to read",
      "  <OUTPUT>                file to write, left untouched on failure",
      "      --strategy <NAME>   schema extraction strategy: live (default) or pattern",
      "      --emit <NAME>       what to write: rust (default) or json",
      "      --config <PATH>     YAML configuration file",
      "  -v, --verbose           log more (-v info, -vv debug)",
      "  -h, --help              print this text",
      "  -V, --version           print the version"]

/-- The name and version of the program. -/
def version : String :=
  "tablewright 0.1.0"

/-- What to say of arguments that make no command to run. -/
def stopMessage : ArgumentStop → String
  | .missingArgument => "error: a required argument is missing"
  | .unknownArgument => "error: unexpected argument"
  | .invalidValue => "error: invalid value for an argument"
  | .conflict => "error: an option is given more than once"
  | .tooManyValues => "error: a flag takes no value"
  | .help => usage
  | .version => version

/-! ## Files -/

/-- Whether a system error code says that a file is a directory; some calls give it negated. -/
def isDirectoryCode (code : UInt32) : Bool :=
  code == 21 || code == 0 - 21

/-- The fault that an error of a file operation stands for. -/
def faultOf : IO.Error → FileFault
  | .noFileOrDirectory .. => .notFound
  | .alreadyExists .. => .taken
  | .inappropriateType _ code _ => if isDirectoryCode code then .isDirectory else .notDirectory
  | e => .other (toString e)

/-- The text of a file, or why it was not read. -/
def readText (path : String) : IO Command.ReadResult := do
  try
    match String.fromUTF8? (← IO.FS.readBinFile path) with
    | some text => return .ok text
    | none => return .error .notText
  catch e => return .error (faultOf e)

/-- Write a text to a new file beside a path and move it there. -/
def replaceFile (path text : String) : IO Unit := do
  let fresh := path ++ ".tmp" ++ toString (← IO.monoNanosNow)
  try
    IO.FS.withFile fresh .writeNew fun h => do
      h.putStr text
      h.flush
    IO.setAccessRights fresh ⟨⟨true, true, false⟩, ⟨true, false, false⟩, ⟨true, false, false⟩⟩
    IO.FS.rename fresh path
  catch e =>
    try IO.FS.removeFile fresh catch _ => pure ()
    throw e

/-- Write the output of a command, or tell why it was not written. -/
def writeText (path text : String) : IO (Except CommandError Unit) := do
  try
    replaceFile path text
    return .ok ()
  catch e => return .error (.unwritable path (faultOf e))

/-! ## Events -/

/-- Whether an event is shown at a verbosity. -/
def isShown (verbosity : Nat) : EventLevel → Bool
  | .warning => true
  | .info => 1 ≤ verbosity
  | .debug => 2 ≤ verbosity

/-- The word for a level. -/
def levelWord : EventLevel → String
  | .warning => " WARN"
  | .info => " INFO"
  | .debug => "DEBUG"

/-- The line for an event. -/
def eventLine (e : Event) : String :=
  String.intercalate " "
    (levelWord e.level :: e.message :: e.fields.map fun (name, text) => name ++ "=" ++ text)

/-! ## Running -/

/-- Run a command; the result is its exit code. -/
def runCommand (c : Command) : IO UInt32 := do
  let files ← c.inputs.mapM fun path => return (path, ← readText path)
  let read := fun path => (files.lookup path).getD (.error .notFound)
  let result ← match c.outputText .builtIn read with
    | .ok text => writeText c.output text
    | .error e => pure (.error e)
  for e in c.eventsGiven .builtIn read result.toBool do
    if isShown c.verbosity e.level then IO.eprintln (eventLine e)
  match result with
  | .ok () => return 0
  | .error e =>
    IO.eprintln ("error: " ++ e.message)
    return 1

end Tablewright.Terminal

open Tablewright in
/-- Run the command that the arguments make. -/
def main (arguments : List String) : IO UInt32 := do
  match Command.ofArguments arguments with
  | .ok c => Terminal.runCommand c
  | .error s =>
    if s.exitCode = 0 then IO.println (Terminal.stopMessage s)
    else IO.eprintln (Terminal.stopMessage s)
    return UInt32.ofNat s.exitCode
