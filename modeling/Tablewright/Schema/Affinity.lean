import Tablewright.Text.Ascii
import Tablewright.Text.Blank

/-!
# Column affinities

The five storage classes a column may be declared with. `Affinity.keyword` is the spelling in
SQL; `Affinity.ofText` reads it back, whatever the case and the white space around it, and
refuses every other declared type.
-/

namespace Tablewright

/-- The storage class of a column. -/
inductive Affinity
  | integer
  | real
  | numeric
  | text
  | blob
  deriving DecidableEq, Repr

/-- A declared type that is none of the five affinities. -/
structure UnknownAffinity where
  declared : String
  deriving DecidableEq, Repr

namespace UnknownAffinity

/-- The diagnostic for an unknown type. -/
def message (e : UnknownAffinity) : String :=
  "unknown type affinity '" ++ e.declared ++ "'"

end UnknownAffinity

namespace Affinity

/-- Every affinity, in the order of declaration. -/
def all : List Affinity :=
  [integer, real, numeric, text, blob]

/-- The SQL keyword. -/
def keyword : Affinity → String
  | integer => "INTEGER"
  | real => "REAL"
  | numeric => "NUMERIC"
  | text => "TEXT"
  | blob => "BLOB"

/-- Read a declared type: white space around it and ASCII case do not matter. -/
def ofText (declared : String) : Except UnknownAffinity Affinity :=
  let name := Text.trimBlank declared
  match all.find? fun a => Text.sameName a.keyword name with
  | some a => .ok a
  | none => .error ⟨name⟩

end Affinity

end Tablewright
