import Tablewright.AccessModule.Module
import Tablewright.Command.Arguments
import Tablewright.Command.Config
import Tablewright.Files.System
import Tablewright.Schema.Document

/-!
# Running a command

A command reads its configuration and its script, extracts the tables with a database engine, makes
the text to write, and writes it (`Command.execute`). Nothing is written unless everything before has
succeeded.
-/

namespace Tablewright

/-- Why a command failed. -/
inductive CommandError
  | unreadableConfig (path : String) (fault : FileFault)
  | invalidConfig (path : String)
  | unreadableInput (path : String) (fault : FileFault)
  | extraction (path : String) (error : ExtractionError)
  | generation (error : GenerationError)
  | unwritable (path : String) (fault : FileFault)
  deriving DecidableEq, Repr

/-- The diagnostic for a failed command. -/
def CommandError.message : CommandError → String
  | unreadableConfig path fault => "cannot read config " ++ path ++ ": " ++ fault.message
  | invalidConfig path => "invalid config " ++ path
  | unreadableInput path fault => "cannot read " ++ path ++ ": " ++ fault.message
  | extraction path error => path ++ ": " ++ error.message
  | generation error => error.message
  | unwritable path _ => "cannot write " ++ path

namespace Command

/-- A file that was read, or why it was not. -/
abbrev ReadResult := Except FileFault String

/-! ## Texts -/

/-- The configuration, given how its file was read. -/
def configOf (path : String) (text : ReadResult) : Except CommandError Config :=
  match text with
  | .error fault => .error (.unreadableConfig path fault)
  | .ok text =>
    match Config.ofText? text with
    | some config => .ok config
    | none => .error (.invalidConfig path)

/-- The configuration of a command. -/
def readConfig (c : Command) (read : String → ReadResult) : Except CommandError Config :=
  match c.config with
  | none => .ok .empty
  | some path => configOf path (read path)

/-- The strategy of a command: its own, else that of its configuration, else to run the script. -/
def chosenStrategy (c : Command) (config : Config) : Strategy :=
  (c.strategy.or config.strategy).getD .live

/-- The script of a command. -/
def readInput (c : Command) (read : String → ReadResult) : Except CommandError String :=
  (read c.input).mapError (.unreadableInput c.input)

/-- The paths of the files that a command reads. -/
def inputs (c : Command) : List String :=
  c.config.toList ++ [c.input]

/-- The tables of the script. -/
def extracted (c : Command) (e : Engine) (config : Config) (script : String) :
    Except CommandError (List Table) :=
  (extractTablesBy e script (c.chosenStrategy config)).mapError (.extraction c.input)

/-- The text to write for some tables. -/
def outputFor (c : Command) (config : Config) (script : String) (tables : List Table) :
    Except CommandError String :=
  match c.emission with
  | .module =>
    match AccessModule.generate tables script config.options with
    | .ok m => .ok m.render
    | .error e => .error (.generation e)
  | .document => .ok ((SchemaDocument.mk script tables).toText ++ "\n")

/-- The text to write, given how files are read. -/
def outputText (c : Command) (e : Engine) (read : String → ReadResult) :
    Except CommandError String := do
  let config ← c.readConfig read
  let script ← c.readInput read
  c.outputFor config script (← c.extracted e config script)

/-- Run a command on a system of files. -/
def execute (c : Command) (e : Engine) (s : FileSystem) :
    ExceptT CommandError (StateM FileTree) Unit := do
  let text ← MonadExcept.ofExcept (c.outputText e (s.readText (← getThe FileTree)))
  ExceptT.adapt (.unwritable c.output) (s.replaceText c.output text)

/-- The tree of files after a command that succeeds where no step is refused. -/
def run (c : Command) (files : FileTree) : Except CommandError FileTree :=
  let (result, after) := (c.execute .builtIn .reliable).run.run files
  result.map fun _ => after

/-! ## Events -/

/-- The event of a file that was written. -/
def writtenEvent (path text : String) : Event :=
  ⟨.debug, "wrote output", [("path", path), ("bytes", toString text.utf8ByteSize)]⟩

/-- The event of a command that succeeded. -/
def doneEvent (c : Command) (tables : List Table) : Event :=
  let label :=
    match c.emission with
    | .module => "Rust"
    | .document => "Json"
  ⟨.info, "wrote " ++ label ++ " output",
    [("input", c.input), ("output", c.output), ("tables", toString tables.length)]⟩

/-- The event of a schema document that was written. -/
def documentEvent (tables : List Table) : Event :=
  ⟨.info, "wrote schema document", [("tables", toString tables.length)]⟩

/-- The events of writing a text for some tables, which succeeds or not. -/
def writingEvents (c : Command) (tables : List Table) (text : String) (succeeds : Bool) :
    List Event :=
  let before :=
    match c.emission with
    | .module => [AccessModule.generatedEvent tables]
    | .document => []
  let after :=
    match c.emission with
    | .module => [c.doneEvent tables]
    | .document => [documentEvent tables, c.doneEvent tables]
  before ++ if succeeds then writtenEvent c.output text :: after else []

/-- The events of what follows the extraction of some tables. -/
def outputEvents (c : Command) (config : Config) (script : String) (succeeds : Bool)
    (tables : List Table) : List Event :=
  match c.outputFor config script tables with
  | .ok text => c.writingEvents tables text succeeds
  | .error _ => []

/-- The events of a command, given how files are read and whether its output can be written. -/
def eventsGiven (c : Command) (e : Engine) (read : String → ReadResult) (succeeds : Bool) :
    List Event :=
  match c.readConfig read, c.readInput read with
  | .ok config, .ok script =>
    extractionEvents e script (c.chosenStrategy config) ++
      match c.extracted e config script with
      | .ok tables => c.outputEvents config script succeeds tables
      | .error _ => []
  | _, _ => []

/-- The events of running a command on a tree of files. -/
def events (c : Command) (files : FileTree) : List Event :=
  c.eventsGiven .builtIn files.readText (c.run files).toBool

end Command

end Tablewright
