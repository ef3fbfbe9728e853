import Tablewright.Naming.Identifier

/-!
# Generator options

The path through which generated code reaches its runtime library, and further derives for the
parameter structs. `GeneratorOptions.check` accepts them if every entry is a path of plain
identifiers and no derive is repeated.
-/

namespace Tablewright

/-- The derives that every parameter struct carries. -/
def baseDerives : List String :=
  ["Debug", "Clone", "PartialEq", "Default"]

/-- Settings of the generator. -/
structure GeneratorOptions where
  /-- The path of the runtime library. -/
  runtimeCrate : String := "sqlgen_runtime"
  /-- Derives after the base derives. -/
  derives : List String := []
  deriving DecidableEq, Repr, Inhabited

/-- What is wrong with the options. -/
inductive OptionsProblem
  /-- The path of the runtime library is no path. -/
  | runtimeNotAPath (path : String)
  /-- A derive is no path. -/
  | deriveNotAPath (derive : String)
  /-- A derive repeats a base derive or an earlier one. -/
  | repeatedDerive (derive : String)
  deriving DecidableEq, Repr

/-- The diagnostic for a problem. -/
def OptionsProblem.message (problem : OptionsProblem) : String :=
  "invalid generator options: " ++
    match problem with
    | runtimeNotAPath path => "runtime_crate `" ++ path ++ "` is not a Rust path"
    | deriveNotAPath derive => "derive `" ++ derive ++ "` is not a Rust path"
    | repeatedDerive derive => "derive `" ++ derive ++ "` is listed twice"

/-- Put a character in front of the first segment. -/
def consSegment (c : Char) : List (List Char) → List (List Char)
  | [] => [[c]]
  | segment :: rest => (c :: segment) :: rest

/-- The segments of a path, cut at every `::` from the left. -/
def pathSegments : List Char → List (List Char)
  | [] => [[]]
  | ':' :: ':' :: rest => [] :: pathSegments rest
  | c :: rest => consSegment c (pathSegments rest)

/-- A path without the separator it may begin with. -/
def dropLeadingSeparator : List Char → List Char
  | ':' :: ':' :: rest => rest
  | path => path

/-- Whether a text is a path of plain identifiers. -/
def isPath (path : String) : Bool :=
  (pathSegments (dropLeadingSeparator path.toList)).all Naming.isIdentifier

namespace GeneratorOptions

/-- Check derives from left to right, where `earlier` holds those that may not come again. -/
def checkDerives (earlier : List String) : List String → Except OptionsProblem Unit
  | [] => .ok ()
  | derive :: rest =>
    if !isPath derive then .error (.deriveNotAPath derive)
    else if derive ∈ earlier then .error (.repeatedDerive derive)
    else checkDerives (derive :: earlier) rest

/-- Fail at the first problem of the options. -/
def check (options : GeneratorOptions) : Except OptionsProblem Unit :=
  if !isPath options.runtimeCrate then .error (.runtimeNotAPath options.runtimeCrate)
  else checkDerives baseDerives options.derives

/-- The derive attribute of the parameter structs. -/
def deriveAttribute (options : GeneratorOptions) : String :=
  "#[derive(" ++ String.intercalate ", " (baseDerives ++ options.derives) ++ ")]"

end GeneratorOptions

end Tablewright
