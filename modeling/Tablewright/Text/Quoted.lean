import Tablewright.Text.Printable

/-!
# Quoted text

A text between double quotes, on one line and in printable characters only: `quote` escapes the
quote, the backslash and the common control characters by a backslash and a letter, and every
other character that does not print, or that would join the character before it, by its code
point. `'` stands for itself. Quoted text is what generated string literals and diagnostics hold.
-/

namespace Tablewright.Text

/-- The hexadecimal digits of a number, in lower case. -/
def hex (n : Nat) : String :=
  String.ofList (Nat.toDigits 16 n)

/-- A character as it is written between double quotes. -/
def quoteChar (c : Char) : String :=
  match c with
  | '\x00' => "\\0"
  | '\t' => "\\t"
  | '\r' => "\\r"
  | '\n' => "\\n"
  | '\\' => "\\\\"
  | '"' => "\\\""
  | c =>
    if extendsGrapheme c || !isPrintable c then "\\u\x7b" ++ hex c.toNat ++ "\x7d"
    else c.toString

/-- The text between double quotes, escaped where needed. -/
def quote (s : String) : String :=
  "\"" ++ String.join (s.toList.map quoteChar) ++ "\""

end Tablewright.Text
