import Tablewright.Files.Tree

/-!
# Systems of files

A system keeps a tree of files and may refuse any step on it (`FileSystem.refusal?`). An operation
takes its steps one after the other; if one fails, those before it stay (`FileM`). A file is
replaced as a whole (`FileSystem.replaceText`): its text goes to a temporary file beside it, which
is moved to its place at the end, and removed if a step on the way fails.
-/

namespace Tablewright

/-- A step on files that a system may refuse. -/
inductive FileStep
  /-- Read the file that a path leads to. -/
  | read (path : String)
  | create (l : Location)
  | write (l : Location)
  /-- Look up the mode of what a path leads to. -/
  | examine (path : String)
  | setMode (l : Location)
  | sync (l : Location)
  | move (source target : Location)
  deriving DecidableEq, Repr

/-- What a system does beyond its tree of files. -/
structure FileSystem where
  /-- Why a step is refused, if it is. -/
  refusal? : FileStep → Option FileFault
  /-- The names that are tried for a temporary file, in order. -/
  temporaryNames : List String
  /-- The permission bits of directories. -/
  directoryMode : Location → Nat

/-- An operation on a tree of files; it may fail half-way. -/
abbrev FileM := ExceptT FileFault (StateM FileTree)

namespace FileSystem

/-- A system that refuses nothing. -/
def reliable : FileSystem :=
  ⟨fun _ => none, (List.range 65536).map fun n => ".tmp" ++ toString n, fun _ => 0o755⟩

/-- The text of the file that a path leads to. -/
def readText (s : FileSystem) (t : FileTree) (path : String) : Except FileFault String :=
  match s.refusal? (.read path) with
  | some fault => .error fault
  | none => t.readText path

/-! ## Replacing a file -/

/-- The mode of a temporary file. -/
def temporaryMode : Nat :=
  0o600

/-- Go on unless the system refuses a step. -/
def allow (s : FileSystem) (step : FileStep) : FileM Unit :=
  match s.refusal? step with
  | some fault => throw fault
  | none => return ()

/-- Take a step that turns the tree into another one, or cannot be taken on it. -/
def change (f : FileTree → Except FileFault FileTree) : FileM Unit := do
  set (← MonadExcept.ofExcept (f (← getThe FileTree)))

/-- Make an empty file in a directory, under the first name that is free. -/
def createTemporary (s : FileSystem) (directory : Location) : FileM Location := do
  let t ← getThe FileTree
  match s.temporaryNames.find? fun name => t.isFree (directory ++ [name]) with
  | none => throw .taken
  | some name =>
    s.allow (.create (directory ++ [name]))
    set (t.setFile (directory ++ [name]) ⟨.empty, temporaryMode⟩)
    return directory ++ [name]

/-- The mode of what is at a location, that of a new file if nothing is there. -/
def modeAt (s : FileSystem) (t : FileTree) (l : Location) : Nat :=
  match t.file? l with
  | some f => f.mode
  | none => if t.isDirectory l then s.directoryMode l else FileTree.newFileMode

/-- The mode of a file that is written to a path: that of what the path leads to, or that of a new
file if nothing is to be seen there. -/
def outputMode (s : FileSystem) (t : FileTree) (path : String) : Nat :=
  match s.refusal? (.examine path), t.locate path with
  | none, .ok l => s.modeAt t l
  | _, _ => FileTree.newFileMode

/-- Fill a temporary file and move it to the place that a path names in a directory. -/
def fillAndMove (s : FileSystem) (temporary directory : Location) (path text : String) :
    FileM Unit := do
  let target := directory ++ [FileTree.lastName path]
  s.allow (.write temporary)
  modify fun t => t.setFile temporary ⟨text.toUTF8, temporaryMode⟩
  s.allow (.setMode temporary)
  modify fun t => t.setFile temporary ⟨text.toUTF8, s.outputMode t path⟩
  s.allow (.sync temporary)
  s.allow (.move temporary target)
  change fun t => t.moveFile temporary directory (FileTree.lastName path)

/-- Write a text to the place that a path names, or fail and leave no temporary file. -/
def replaceText (s : FileSystem) (path text : String) : FileM Unit := do
  let directory ← MonadExcept.ofExcept ((← getThe FileTree).locateDirectory path)
  let temporary ← s.createTemporary directory
  try
    s.fillAndMove temporary directory path text
  catch fault =>
    modify fun t => t.removeFile temporary
    throw fault

end FileSystem

end Tablewright
