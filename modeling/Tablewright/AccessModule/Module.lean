import Tablewright.AccessModule.TableSection
import Tablewright.Event

/-!
# Generated modules

A generated module is a header, the schema section and a section for each table, in the order of
the schema. `AccessModule.generate` builds it from a list of tables and their script, and fails
on unusable options and on colliding names, in this order.
-/

namespace Tablewright

/-- One titled part of a generated module. -/
structure ModuleSection where
  title : String
  code : String
  deriving DecidableEq, Repr

/-- A generated module: its sections in order. -/
structure AccessModule where
  sections : List ModuleSection
  deriving DecidableEq, Repr

/-- Why no module was generated. -/
inductive GenerationError
  | options (problem : OptionsProblem)
  | collision (collision : Naming.Collision)
  deriving DecidableEq, Repr

/-- The diagnostic for a failed generation. -/
def GenerationError.message : GenerationError → String
  | options problem => problem.message
  | collision c => c.message

namespace AccessModule

/-- The first line of every generated module. -/
def header : String :=
  "// @generated by sqlgen from a SQL schema script. Do not edit.\n"

/-- The source of a module: the header, then each section after an empty line. -/
def render (m : AccessModule) : String :=
  header ++ String.join (m.sections.map fun s => "\n" ++ s.code)

/-- The sections for a list of tables. -/
def ofTables (tables : List Table) (script : String) (options : GeneratorOptions) :
    AccessModule :=
  ⟨⟨"schema", (schemaSection tables script options).render⟩ ::
    tables.map fun t => ⟨t.name, (tableSection t options).render⟩⟩

/-- Generate the module for the tables of a script. -/
def generate (tables : List Table) (script : String) (options : GeneratorOptions) :
    Except GenerationError AccessModule :=
  match options.check with
  | .error problem => .error (.options problem)
  | .ok () =>
    match Naming.checkCollisions tables with
    | .error c => .error (.collision c)
    | .ok () => .ok (ofTables tables script options)

/-- The event of a generated module. -/
def generatedEvent (tables : List Table) : Event :=
  ⟨.info, "generated module", [("tables", toString tables.length)]⟩

/-- The events of a generation. -/
def events (tables : List Table) (result : Except GenerationError AccessModule) : List Event :=
  match result with
  | .ok _ => [generatedEvent tables]
  | .error _ => []

end AccessModule

end Tablewright
