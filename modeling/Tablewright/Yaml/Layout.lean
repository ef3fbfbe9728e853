import Tablewright.Yaml.Scalar

/-!
# The layout of a YAML text

`tokens?` reads the tokens of a text. Outside of brackets, indentation makes the blocks: a block
begins where an entry or a key stands further to the right than those around it, and ends where
something stands further to the left. A key without a mark of its own is recognised by the colon
behind it: until that is seen, its place is remembered (`PendingKey`), for at most the rest of the
line.
-/

namespace Tablewright.Yaml

/-- A place where a key may turn out to stand. -/
structure PendingKey where
  /-- The number of tokens in front of it. -/
  tokens : Nat
  /-- Whether nothing else may stand there. -/
  isRequired : Bool
  place : Cursor

/-- The tokens read so far, and the blocks and brackets that are open. -/
structure Layout where
  place : Cursor
  tokens : List Token
  /-- The columns of the open blocks, the innermost first. -/
  blocks : List Nat
  /-- The places where a key may stand, one for each open bracket and one for the text around
  them, the innermost first. -/
  keys : List (Option PendingKey)
  /-- Whether a key may begin here. -/
  allowsKey : Bool

namespace Layout

/-- The layout at the beginning of a text. -/
def start (cs : List Char) : Layout :=
  ⟨.start cs, [], [], [none], true⟩

/-- Whether the place is between brackets. -/
def inFlow (l : Layout) : Bool :=
  1 < l.keys.length

/-- The least column of what belongs to the innermost block. -/
def leastColumn (l : Layout) : Nat :=
  l.blocks.head?.elim 0 (· + 1)

/-- Add a token and go on behind it. -/
def add (l : Layout) (t : Token) (length : Nat) : Layout :=
  { l with tokens := l.tokens ++ [t], place := l.place.skip length }

/-! ## Keys -/

/-- Forget the innermost place of a key, which must not be required. -/
def dropKey? (l : Layout) : Option Layout :=
  match l.keys with
  | some k :: rest => if k.isRequired then none else some { l with keys := none :: rest }
  | _ => some l

/-- Remember the place here for a key, if one may begin. -/
def saveKey? (l : Layout) : Option Layout :=
  if !l.allowsKey then some l
  else do
    let isRequired := !l.inFlow && l.blocks.head? == some l.place.column
    let l ← l.dropKey?
    return { l with keys := some ⟨l.tokens.length, isRequired, l.place⟩ :: l.keys.drop 1 }

/-- The greatest length of a key. -/
def longestKey : Nat :=
  1024

/-- A remembered place that is still one, where a required one must be. -/
def stillPending? (l : Layout) : Option PendingKey → Option (Option PendingKey)
  | none => some none
  | some k =>
    if k.place.line < l.place.line || k.place.index + longestKey < l.place.index then
      if k.isRequired then none else some none
    else some (some k)

/-- Forget the places that have become none. -/
def forgetStale? (l : Layout) : Option Layout := do
  return { l with keys := ← l.keys.mapM l.stillPending? }

/-! ## Blocks -/

/-- End the blocks that lie to the right of a column; all of them with none. -/
def endBlocks (l : Layout) (column : Option Nat) : Layout :=
  if l.inFlow then l
  else
    let ended := l.blocks.takeWhile fun b => column.all (· < b)
    { l with
      blocks := l.blocks.drop ended.length
      tokens := l.tokens ++ ended.map fun _ => .blockEnd }

/-- Begin a block at a column unless it is begun; its first token goes to the given position. -/
def beginBlock (l : Layout) (column position : Nat) (t : Token) : Layout :=
  if l.inFlow || l.blocks.head?.any (column ≤ ·) then l
  else { l with blocks := column :: l.blocks, tokens := l.tokens.insertIdx position t }

/-- Begin a block here. -/
def beginBlockHere (l : Layout) (t : Token) : Layout :=
  l.beginBlock l.place.column l.tokens.length t

/-- The end of all blocks in front of a mark that stands outside of them. -/
def leaveBlocks? (l : Layout) : Option Layout := do
  return { ← (l.endBlocks none).dropKey? with allowsKey := false }

/-! ## Gaps between tokens -/

/-- Skip blanks, comments and line breaks. -/
def skipGap : Nat → Layout → Layout
  | 0, l => l
  | fuel + 1, l =>
    let isSkipped := fun c => c == ' ' || (c == '\t' && (l.inFlow || !l.allowsKey))
    let place := l.place.skip (l.place.rest.takeWhile isSkipped).length
    let place := if place.next? == some '#' then place.skipLine else place
    if place.atBreak then
      skipGap fuel { l with place := place.skipBreak, allowsKey := l.allowsKey || !l.inFlow }
    else { l with place }

/-! ## Directives -/

/-- Read the number at the front of a text. -/
def readNumber? (cs : List Char) : Option (Nat × List Char) :=
  let digits := cs.takeWhile Char.isDigit
  if digits.isEmpty || 9 < digits.length then none
  else do return (← (String.ofList digits).toNat?, cs.drop digits.length)

/-- The version that a directive gives. -/
def version? (cs : List Char) : Option (Token × List Char) := do
  let (major, rest) ← readNumber? cs
  match rest with
  | '.' :: rest =>
    let (minor, rest) ← readNumber? rest
    return (.version major minor, rest)
  | _ => none

/-- The handle and expansion that a directive gives. -/
def tagHandle? (cs : List Char) : Option (Token × List Char) := do
  let isWord := fun c => !(isBlank c || isBreak c)
  let handle := cs.takeWhile isWord
  let between := (cs.drop handle.length).takeWhile isBlank
  let behind := cs.drop (handle.length + between.length)
  let expansion := behind.takeWhile isWord
  if handle.head? != some '!' || handle.getLast? != some '!' || expansion.isEmpty then none
  return (.tagHandle (String.ofList handle) (String.ofList expansion), behind.drop expansion.length)

/-- Read a directive. -/
def readDirective? (l : Layout) : Option Layout := do
  let l ← l.leaveBlocks?
  let line := l.place.rest.drop 1
  let name := line.takeWhile isNameChar
  let body := (line.drop name.length).dropWhile isBlank
  let (t, rest) ←
    if name == "YAML".toList then version? body
    else if name == "TAG".toList then tagHandle? body
    else none
  if !endsWord (line.drop name.length) then none
  let place ← endLine (l.place.skip (l.place.rest.length - rest.length))
  return { l with place, tokens := l.tokens ++ [t] }

/-! ## Tokens -/

/-- Read the mark at the beginning or end of a document. -/
def readMarker? (l : Layout) (t : Token) : Option Layout := do
  return (← l.leaveBlocks?).add t 3

/-- Read an opening bracket. -/
def openFlow? (l : Layout) (t : Token) : Option Layout := do
  let l ← l.saveKey?
  return { l.add t 1 with keys := none :: l.keys, allowsKey := true }

/-- Read a closing bracket. -/
def closeFlow? (l : Layout) (t : Token) : Option Layout := do
  let l ← l.dropKey?
  return { l.add t 1 with keys := if l.inFlow then l.keys.drop 1 else l.keys, allowsKey := false }

/-- Read a comma between brackets. -/
def readFlowEntry? (l : Layout) : Option Layout := do
  return { (← l.dropKey?).add .flowEntry 1 with allowsKey := true }

/-- Read the dash of an entry. -/
def readBlockEntry? (l : Layout) : Option Layout := do
  if !l.inFlow && !l.allowsKey then none
  let l ← (l.beginBlockHere .blockSequenceStart).dropKey?
  return { l.add .blockEntry 1 with allowsKey := true }

/-- Read the mark of a key. -/
def readKey? (l : Layout) : Option Layout := do
  if !l.inFlow && !l.allowsKey then none
  let l ← (l.beginBlockHere .blockMappingStart).dropKey?
  return { l.add .key 1 with allowsKey := !l.inFlow }

/-- Read a colon: what stands at the remembered place was a key. -/
def readValue? (l : Layout) : Option Layout :=
  match l.keys with
  | some k :: rest =>
    let l := { l with keys := none :: rest, tokens := l.tokens.insertIdx k.tokens .key }
    let l := l.beginBlock k.place.column k.tokens .blockMappingStart
    some { l.add .value 1 with allowsKey := false }
  | _ =>
    if !l.inFlow && !l.allowsKey then none
    else
      let l := l.beginBlockHere .blockMappingStart
      some { l.add .value 1 with allowsKey := !l.inFlow }

/-- Whether a name of an anchor may end here. -/
def endsName (cs : List Char) : Bool :=
  endsWord cs || cs.head?.any ['?', ':', ',', ']', '\x7d', '%', '@', '\x60'].contains

/-- Read an anchor or an alias. -/
def readAnchor? (l : Layout) (make : String → Token) : Option Layout := do
  let l ← l.saveKey?
  let name := (l.place.rest.drop 1).takeWhile isNameChar
  if name.isEmpty || !endsName (l.place.rest.drop (name.length + 1)) then none
  return { l.add (make (String.ofList name)) (name.length + 1) with allowsKey := false }

/-- A character of a tag. -/
def isTagChar (c : Char) : Bool :=
  isNameChar c || ";/?:@&=+$.!~*'()%".toList.contains c

/-- The tag at the beginning of a text, and its length. -/
def tagAt? (cs : List Char) : Option (Token × Nat) :=
  match cs with
  | '!' :: '<' :: rest =>
    let uri := rest.takeWhile fun c => isTagChar c || c == ',' || c == '[' || c == ']'
    if uri.isEmpty || (rest.drop uri.length).head? != some '>' then none
    else some (.tag "" (String.ofList uri), uri.length + 3)
  | '!' :: rest =>
    let name := rest.takeWhile isNameChar
    let behind := rest.drop name.length
    if behind.head? == some '!' then
      let suffix := (behind.drop 1).takeWhile isTagChar
      if suffix.isEmpty then none
      else some (.tag (String.ofList ('!' :: name ++ ['!'])) (String.ofList suffix),
        name.length + suffix.length + 2)
    else
      let suffix := rest.takeWhile isTagChar
      if suffix.isEmpty then some (.tag "" "!", 1)
      else some (.tag "!" (String.ofList suffix), suffix.length + 1)
  | _ => none

/-- Read a tag. -/
def readTag? (l : Layout) : Option Layout := do
  let l ← l.saveKey?
  let (t, length) ← tagAt? l.place.rest
  let l := { l.add t length with allowsKey := false }
  if (l.inFlow && l.place.next? == some ',') || endsWord l.place.rest then return l
  none

/-- Add a scalar and go on at a place. -/
def addScalar (l : Layout) (text : List Char) (isPlain : Bool) (place : Cursor) : Layout :=
  { l with tokens := l.tokens ++ [.scalar (String.ofList text) isPlain], place }

/-- Read a block scalar. -/
def readBlockScalar? (l : Layout) (isFolded : Bool) : Option Layout := do
  let l ← l.dropKey?
  let (text, place) ← readBlock isFolded l.blocks.head? (l.place.skip 1)
  return { l.addScalar text false place with allowsKey := true }

/-- Read a quoted scalar. -/
def readQuotedScalar? (l : Layout) (quote : Char) : Option Layout := do
  let l ← l.saveKey?
  let (text, place) ← readQuoted quote [] (l.place.rest.length + 1) (l.place.skip 1)
  return { l.addScalar text false place with allowsKey := false }

/-- Read a plain scalar. Behind a line break, a key may begin. -/
def readPlainScalar? (l : Layout) : Option Layout := do
  let l ← l.saveKey?
  let (text, behindBreak, place) ←
    readPlain l.inFlow l.leastColumn .empty [] (l.place.rest.length + 1) l.place
  return { l.addScalar text true place with allowsKey := behindBreak }

/-- The characters that begin no plain scalar. -/
def indicators : List Char :=
  "-?:,[]\x7b\x7d#&*!|>'\"%@\x60".toList

/-- Whether a plain scalar begins with a text. -/
def beginsPlain (l : Layout) (c : Char) (rest : List Char) : Bool :=
  !(isBlank c || isBreak c || indicators.contains c) ||
    (c == '-' && !rest.head?.any isBlank) ||
    (!l.inFlow && (c == '?' || c == ':') && !endsWord rest)

/-- Read a token that is known by its first character. -/
def readToken? (l : Layout) (c : Char) (rest : List Char) : Option Layout :=
  if c == '[' then l.openFlow? .flowSequenceStart
  else if c == '\x7b' then l.openFlow? .flowMappingStart
  else if c == ']' then l.closeFlow? .flowSequenceEnd
  else if c == '\x7d' then l.closeFlow? .flowMappingEnd
  else if c == ',' then l.readFlowEntry?
  else if c == '-' && endsWord rest then l.readBlockEntry?
  else if c == '?' && (l.inFlow || endsWord rest) then l.readKey?
  else if c == ':' && (l.inFlow || endsWord rest) then l.readValue?
  else if c == '*' then l.readAnchor? .reference
  else if c == '&' then l.readAnchor? .anchor
  else if c == '!' then l.readTag?
  else if c == '|' && !l.inFlow then l.readBlockScalar? false
  else if c == '>' && !l.inFlow then l.readBlockScalar? true
  else if c == '\'' || c == '"' then l.readQuotedScalar? c
  else if l.beginsPlain c rest then l.readPlainScalar?
  else none

/-- The tokens of a text that is read to its end. -/
def finish? (l : Layout) : Option (List Token) := do
  return (← l.leaveBlocks?).tokens ++ [.finish]

/-- Read tokens to the end of the text; `fuel` bounds their number. -/
def readAll? : Nat → Layout → Option (List Token)
  | 0, _ => none
  | fuel + 1, l => do
    let l ← (skipGap (l.place.rest.length + 1) l).forgetStale?
    let l := l.endBlocks (some l.place.column)
    match l.place.rest with
    | [] => l.finish?
    | c :: rest =>
      let next ←
        if l.place.column == 0 && c == '%' then l.readDirective?
        else if l.place.atMarker '-' then l.readMarker? .documentStart
        else if l.place.atMarker '.' then l.readMarker? .documentEnd
        else l.readToken? c rest
      readAll? fuel next

end Layout

/-- A text without a byte order mark in front. -/
def withoutMark : List Char → List Char
  | '\ufeff' :: rest => rest
  | cs => cs

/-- The tokens of a text. -/
def tokens? (text : String) : Option (List Token) :=
  let cs := withoutMark text.toList
  if cs.all isAllowed then (Layout.start cs).readAll? (cs.length + 1) else none

end Tablewright.Yaml
