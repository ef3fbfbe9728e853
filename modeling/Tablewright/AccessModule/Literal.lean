import Tablewright.Text.Quoted

/-!
# String literals

How a text is embedded in generated code. A raw literal keeps the text readable: between `r"`
and `"`, both with as many hashes as it takes that no quote of the text, with the hashes behind
it, ends the literal early. A text that holds a carriage return is written as quoted text
instead, since a source file may lose its carriage returns.
-/

namespace Tablewright.AccessModule

/-- The number of hashes at the beginning of a text. -/
def leadingHashes (cs : List Char) : Nat :=
  (cs.takeWhile (· == '#')).length

/-- One more than the longest run of hashes behind a quote, zero if there is no quote. -/
def hashesNeeded : List Char → Nat
  | [] => 0
  | c :: rest =>
    if c == '"' then max (leadingHashes rest + 1) (hashesNeeded rest) else hashesNeeded rest

/-- The raw literal of a text. -/
def rawLiteral (text : String) : String :=
  let hashes := String.ofList (List.replicate (hashesNeeded text.toList) '#')
  "r" ++ hashes ++ "\"" ++ text ++ "\"" ++ hashes

/-- The literal that embeds a text. -/
def literal (text : String) : String :=
  if '\r' ∈ text.toList then Text.quote text else rawLiteral text

end Tablewright.AccessModule
