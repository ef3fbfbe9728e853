/-!
# JSON values

The values a JSON text denotes. A number keeps its spelling. A string holds no text if its
escapes leave an unpaired surrogate; members of an object keep their order and their
repetitions.
-/

namespace Tablewright

/-- A JSON value. -/
inductive Json
  | null
  | bool (b : Bool)
  | number (spelling : String)
  | string (text : Option String)
  | array (items : List Json)
  | object (members : List (Option String × Json))
  deriving Repr, Inhabited

namespace Json

/-- A string that spells a text. -/
def ofText (s : String) : Json :=
  string (some s)

/-- An object with the given keys and values. -/
def ofFields (fields : List (String × Json)) : Json :=
  object (fields.map fun f => (some f.1, f.2))

/-- The values of the members called `key`. -/
def valuesAt (key : String) (members : List (Option String × Json)) : List Json :=
  (members.filter fun m => m.1 == some key).map (·.2)

/-- The value of the only member called `key`. -/
def only? (key : String) (members : List (Option String × Json)) : Option Json :=
  match valuesAt key members with
  | [value] => some value
  | _ => none

/-- The values of a record with the given fields. A record is written as an object that has each
field once, and any others, or as the array of its fields in order. -/
def record? (names : List String) : Json → Option (List Json)
  | object members =>
    if members.all (·.1.isSome) then names.mapM (only? · members) else none
  | array items => if items.length = names.length then some items else none
  | _ => none

/-- The text of a string. -/
def text? : Json → Option String
  | string text => text
  | _ => none

/-- A truth value. -/
def bool? : Json → Option Bool
  | bool b => some b
  | _ => none

/-- The items of an array, each read by `f`. -/
def listOf? {α : Type} (f : Json → Option α) : Json → Option (List α)
  | array items => items.mapM f
  | _ => none

end Json

end Tablewright
