import Tablewright.Json.Value

/-!
# Reading JSON

`read?` reads a text that holds one JSON value and white space around it. White space is space,
tab, line feed and carriage return; strings hold no control characters. The recursion on nested
values is bounded by the length of the text.
-/

namespace Tablewright.Json

/-- White space between tokens. -/
def isSpace (c : Char) : Bool :=
  c == ' ' || c == '\t' || c == '\n' || c == '\r'

/-- The text without the white space at its beginning. -/
def skipSpace (cs : List Char) : List Char :=
  cs.dropWhile isSpace

/-! ## Strings -/

/-- The value of a hexadecimal digit. -/
def hexDigit? (c : Char) : Option Nat :=
  if c.isDigit then some (c.toNat - '0'.toNat)
  else if 'a' ≤ c && c ≤ 'f' then some (c.toNat - 'a'.toNat + 10)
  else if 'A' ≤ c && c ≤ 'F' then some (c.toNat - 'A'.toNat + 10)
  else none

/-- The value of four hexadecimal digits. -/
def hex4? (a b c d : Char) : Option Nat := do
  let a ← hexDigit? a
  let b ← hexDigit? b
  let c ← hexDigit? c
  let d ← hexDigit? d
  return ((a * 16 + b) * 16 + c) * 16 + d

/-- The first half of a surrogate pair. -/
def isHighSurrogate (n : Nat) : Bool :=
  0xD800 ≤ n && n < 0xDC00

/-- The second half of a surrogate pair. -/
def isLowSurrogate (n : Nat) : Bool :=
  0xDC00 ≤ n && n < 0xE000

/-- The character of a surrogate pair. -/
def ofSurrogates (high low : Nat) : Char :=
  Char.ofNat (0x10000 + (high - 0xD800) * 0x400 + (low - 0xDC00))

/-- The character that a one-letter escape stands for. -/
def simpleEscape? : Char → Option Char
  | '"' => some '"'
  | '\\' => some '\\'
  | '/' => some '/'
  | 'b' => some '\x08'
  | 'f' => some '\x0c'
  | 'n' => some '\n'
  | 'r' => some '\r'
  | 't' => some '\t'
  | _ => none

/-- A string so far: its text, unless a surrogate stood alone, and what follows it. -/
abbrev StringRest := Option (List Char) × List Char

/-- Put a character in front of a string. -/
def addChar (c : Char) (r : StringRest) : StringRest :=
  (r.1.map (c :: ·), r.2)

/-- Mark a string as spelling no text. -/
def loneSurrogate (r : StringRest) : StringRest :=
  (none, r.2)

/-- Read a string from behind its opening quote. -/
def readString : List Char → Option StringRest
  | [] => none
  | '"' :: rest => some (some [], rest)
  | '\\' :: 'u' :: a :: b :: c :: d :: rest => do
    let n ← hex4? a b c d
    if isHighSurrogate n then
      match rest with
      | '\\' :: 'u' :: e :: f :: g :: h :: rest' =>
        let m ← hex4? e f g h
        if isLowSurrogate m then (readString rest').map (addChar (ofSurrogates n m))
        else (readString ('\\' :: 'u' :: e :: f :: g :: h :: rest')).map loneSurrogate
      | rest => (readString rest).map loneSurrogate
    else if isLowSurrogate n then (readString rest).map loneSurrogate
    else (readString rest).map (addChar (Char.ofNat n))
  | '\\' :: e :: rest => do
    let c ← simpleEscape? e
    (readString rest).map (addChar c)
  | c :: rest => if c.toNat < 0x20 then none else (readString rest).map (addChar c)
termination_by cs => cs.length

/-! ## Numbers -/

/-- The digits at the beginning of a text. -/
def digitsOf (cs : List Char) : List Char :=
  cs.takeWhile Char.isDigit

/-- What follows the digits at the beginning of a text. -/
def afterDigits (cs : List Char) : List Char :=
  cs.dropWhile Char.isDigit

/-- What follows the fraction, if one begins here. -/
def afterFraction? : List Char → Option (List Char)
  | '.' :: rest => if (digitsOf rest).isEmpty then none else some (afterDigits rest)
  | rest => some rest

/-- What follows the exponent, if one begins here. -/
def afterExponent? : List Char → Option (List Char)
  | c :: rest =>
    if c == 'e' || c == 'E' then
      let digits :=
        match rest with
        | '+' :: r => r
        | '-' :: r => r
        | r => r
      if (digitsOf digits).isEmpty then none else some (afterDigits digits)
    else some (c :: rest)
  | [] => some []

/-- What follows the integer part: a zero, or digits that begin with none. -/
def afterInteger? : List Char → Option (List Char)
  | '0' :: rest => if (digitsOf rest).isEmpty then some rest else none
  | cs => if (digitsOf cs).isEmpty then none else some (afterDigits cs)

/-- Read a number. -/
def readNumber (cs : List Char) : Option (String × List Char) := do
  let unsigned :=
    match cs with
    | '-' :: r => r
    | r => r
  let rest ← afterExponent? (← afterFraction? (← afterInteger? unsigned))
  return (String.ofList (cs.take (cs.length - rest.length)), rest)

/-! ## Values -/

/-- A word that stands for a value. -/
def readWord (cs : List Char) : Option (Json × List Char) :=
  if "null".toList.isPrefixOf cs then some (null, cs.drop 4)
  else if "true".toList.isPrefixOf cs then some (bool true, cs.drop 4)
  else if "false".toList.isPrefixOf cs then some (bool false, cs.drop 5)
  else none

/-- A string with its quotes, as a value or a key. -/
def readText (cs : List Char) : Option (Option String × List Char) :=
  match cs with
  | '"' :: rest => (readString rest).map fun r => (r.1.map String.ofList, r.2)
  | _ => none

mutual

/-- Read a value; `fuel` bounds the depth and the length of what is read. -/
def readValue (fuel : Nat) (cs : List Char) : Option (Json × List Char) :=
  match fuel with
  | 0 => none
  | fuel + 1 =>
    match skipSpace cs with
    | '"' :: rest => (readText ('"' :: rest)).map fun r => (string r.1, r.2)
    | '[' :: rest =>
      match skipSpace rest with
      | ']' :: rest => some (array [], rest)
      | rest => (readItems fuel rest).map fun r => (array r.1, r.2)
    | '\x7b' :: rest =>
      match skipSpace rest with
      | '\x7d' :: rest => some (object [], rest)
      | rest => (readMembers fuel rest).map fun r => (object r.1, r.2)
    | c :: rest =>
      if c == '-' || c.isDigit then (readNumber (c :: rest)).map fun r => (number r.1, r.2)
      else readWord (c :: rest)
    | [] => none

/-- Read the items of an array up to its bracket. -/
def readItems (fuel : Nat) (cs : List Char) : Option (List Json × List Char) :=
  match fuel with
  | 0 => none
  | fuel + 1 => do
    let (item, rest) ← readValue fuel cs
    match skipSpace rest with
    | ',' :: rest => (readItems fuel rest).map fun r => (item :: r.1, r.2)
    | ']' :: rest => some ([item], rest)
    | _ => none

/-- Read the members of an object up to its brace. -/
def readMembers (fuel : Nat) (cs : List Char) :
    Option (List (Option String × Json) × List Char) :=
  match fuel with
  | 0 => none
  | fuel + 1 => do
    let (key, rest) ← readText (skipSpace cs)
    match skipSpace rest with
    | ':' :: rest =>
      let (value, rest) ← readValue fuel rest
      match skipSpace rest with
      | ',' :: rest => (readMembers fuel rest).map fun r => ((key, value) :: r.1, r.2)
      | '\x7d' :: rest => some ([(key, value)], rest)
      | _ => none
    | _ => none

end

/-- Read a text that holds one value. -/
def read? (s : String) : Option Json := do
  let cs := s.toList
  let (value, rest) ← readValue (2 * cs.length + 2) cs
  if (skipSpace rest).isEmpty then some value else none

end Tablewright.Json
