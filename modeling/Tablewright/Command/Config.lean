import Tablewright.AccessModule.Options
import Tablewright.Extraction.Strategy
import Tablewright.Text.Blank
import Tablewright.Yaml.Node

/-!
# Configurations

A configuration file is a YAML mapping with the keys `strategy`, `runtime_crate` and `derives`, all
of which may be missing or null; no other key may stand there, and none twice. A blank file and one
without a document configure nothing.
-/

namespace Tablewright

open Yaml

/-- The settings of a configuration file. -/
structure Config where
  strategy : Option Strategy
  runtimeCrate : Option String
  derives : Option (List String)
  deriving DecidableEq, Repr

namespace Config

/-- No setting. -/
def empty : Config :=
  ⟨none, none, none⟩

/-- The options of the generator under a configuration. -/
def options (c : Config) : GeneratorOptions :=
  let base : GeneratorOptions := default
  ⟨c.runtimeCrate.getD base.runtimeCrate, c.derives.getD base.derives⟩

/-! ## Values -/

/-- The words for null. -/
def isNullWord (text : String) : Bool :=
  ["null", "Null", "NULL", "~"].contains text

/-- The tag of null. -/
def nullTag : String :=
  "tag:yaml.org,2002:null"

/-- Whether a node is null, none if its tag says so and it is not. -/
def isNull? : Node → Option Bool
  | .scalar text true none => some (text.isEmpty || isNullWord text)
  | .scalar text true (some tag) =>
    if tag = nullTag then if isNullWord text then some true else none else some false
  | _ => some false

/-- A value that may be null. -/
def optional? {α : Type} (value? : Node → Option α) (n : Node) : Option (Option α) := do
  if ← isNull? n then return none
  return some (← value? n)

/-- The text of a scalar. -/
def text? : Node → Option String
  | .scalar text _ _ => some text
  | _ => none

/-- The texts of a sequence of scalars. -/
def texts? : Node → Option (List String)
  | .sequence items => items.mapM text?
  | .scalar text true _ => if text.isEmpty then some [] else none
  | _ => none

/-- The name that a tag of one's own gives. -/
def ownTag? (tag : String) : Option String :=
  match tag.toList with
  | '!' :: name => some (String.ofList name)
  | _ => none

/-- A strategy by its word, or by a tag on nothing. -/
def strategy? : Node → Option Strategy
  | .scalar text isPlain tag =>
    match tag.bind ownTag? with
    | some name =>
      if isPlain && (text.isEmpty || isNullWord text) then Strategy.ofKeyword? name else none
    | none => Strategy.ofKeyword? text
  | _ => none

/-! ## Mappings -/

/-- The value of a key, none if it is missing; a key may not stand there twice. -/
def value? {α : Type} (key : String) (read : Node → Option (Option α))
    (entries : List (String × Node)) : Option (Option α) :=
  match entries.filter fun e => e.1 == key with
  | [] => some none
  | [(_, n)] => read n
  | _ => none

/-- The keys that a configuration may have. -/
def keys : List String :=
  ["strategy", "runtime_crate", "derives"]

/-- The configuration of a tree. -/
def ofNode? : Node → Option Config
  | .mapping entries => do
    let entries ← entries.mapM fun (k, v) => do return (← text? k, v)
    if entries.any fun e => !keys.contains e.1 then none
    return ⟨← value? "strategy" (optional? strategy?) entries,
      ← value? "runtime_crate" (optional? text?) entries,
      ← value? "derives" (optional? texts?) entries⟩
  | .scalar text true _ => if text.isEmpty then some empty else none
  | _ => none

/-- The configuration of a file with the given text. -/
def ofText? (text : String) : Option Config :=
  if text.toList.all Text.isBlank then some empty
  else
    match read? text with
    | none => none
    | some none => some empty
    | some (some n) => ofNode? n

end Config

end Tablewright
