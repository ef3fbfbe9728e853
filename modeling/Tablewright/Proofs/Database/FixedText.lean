import Tablewright.Proofs.Database.OneStatement
import Tablewright.Proofs.Text.Ascii

/-!
# Fixed texts

The statement of a fixed text is found by computing on its characters (`isStatement_of_ascii`).
Decoding the bytes of a long text takes far longer than anything that is then done with the
characters, so these are an argument, with the equation that the text has them; the equation needs
no decoding, since a literal is made from its characters (`Text.toList_pieces` if it is written in
two pieces).
-/

namespace Tablewright

open Sql

theorem Text.toList_pieces (a b : List Char) :
    (String.ofList a ++ String.ofList b).toList = a ++ b := by
  rw [String.toList_append, String.toList_ofList, String.toList_ofList]

/-- The lexemes of characters. -/
def lexChars (cs : List Char) : List Lexeme :=
  let cs := cs.takeWhile (· != '\x00')
  lexFrom (cs.length + 1) cs

theorem lex_eq_lexChars (text : String) : lex text = lexChars text.toList := rfl

theorem lex_of_toList {text : String} {cs : List Char} (h : text.toList = cs) :
    lex text = lexChars cs :=
  h ▸ lex_eq_lexChars text

/-- What becomes of a script with these characters. -/
def runChars (cs : List Char) : ScriptOutcome :=
  let lexemes := lexChars cs
  Database.runStatements lexemes .empty 0 (lexemes.length + 1)

theorem runScript_of_toList {script : String} {cs : List Char} (h : script.toList = cs) :
    Database.empty.runScript 0 script = runChars cs := by
  subst h
  rfl

/-- The statement that lexemes are, if they are one. -/
def onlyStatement? (lexemes : List Lexeme) : Option Statement :=
  match readStatement lexemes with
  | .ok (some (s, rest)) => if readStatement rest matches .ok none then some s else none
  | _ => none

theorem isStatement_of_only {text : String} {s : Statement}
    (h : onlyStatement? (lex text) = some s) : IsStatement text s := by
  unfold onlyStatement? at h
  split at h
  · rename_i s' rest hread
    split at h
    · rename_i hmatch
      cases h
      refine ⟨rest, hread, ?_⟩
      revert hmatch
      rcases readStatement rest with e | _ | p <;> intro hmatch
      · cases hmatch
      · rfl
      · cases hmatch
    · cases h
  · cases h

theorem isStatement_of_ascii {text : String} {s : Statement}
    (hascii : (Text.bytes text).all (· < 128) = true)
    (h : onlyStatement? (lexChars (Text.asciiChars text)) = some s) : IsStatement text s := by
  refine isStatement_of_only ?_
  rwa [lex_eq_lexChars, Text.toList_eq_asciiChars hascii]

end Tablewright
