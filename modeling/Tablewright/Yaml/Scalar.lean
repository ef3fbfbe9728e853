import Tablewright.Json.Reader
import Tablewright.Yaml.Token

/-!
# Scalars

Plain, quoted and block scalars. In plain and quoted scalars a line break counts as a space, and
empty lines count as line breaks (`Gap.folded`). A block scalar keeps its lines, or folds those
that are not indented further.
-/

namespace Tablewright.Yaml

/-! ## Gaps -/

/-- Blanks and line breaks inside of a scalar: the blanks if there is no line break, else the
texts of the line breaks. -/
structure Gap where
  blanks : List Char
  breaks : List (List Char)
  deriving DecidableEq, Repr

namespace Gap

/-- Nothing. -/
def empty : Gap :=
  ⟨[], []⟩

/-- The text that a gap stands for. -/
def folded (g : Gap) : List Char :=
  match g.breaks with
  | [] => g.blanks
  | ['\n'] :: [] => [' ']
  | ['\n'] :: more => more.flatten
  | breaks => breaks.flatten

/-- The text that a gap behind an escaped line break stands for. -/
def unfolded (g : Gap) : List Char :=
  g.breaks.flatten

end Gap

/-- Read a gap; `afterBreak` says that a line break is in front of it, and a tab that stands where
the line has not reached column `least` yet is refused. -/
def readGap (least : Nat) (afterBreak : Bool) : Nat → Cursor → Gap → Option (Gap × Cursor)
  | 0, c, g => some (g, c)
  | fuel + 1, c, g =>
    match c.rest with
    | [] => some (g, c)
    | ch :: _ =>
      let broken := afterBreak || !g.breaks.isEmpty
      if isBlank ch then
        if broken then
          if ch == '\t' && c.column < least then none
          else readGap least afterBreak fuel (c.skip 1) g
        else readGap least afterBreak fuel (c.skip 1) { g with blanks := g.blanks ++ [ch] }
      else if isBreak ch then
        readGap least afterBreak fuel c.skipBreak
          { g with breaks := g.breaks ++ [breakText c.rest] }
      else some (g, c)

/-- Read a gap of any length. -/
def gapFrom (least : Nat) (afterBreak : Bool) (c : Cursor) : Option (Gap × Cursor) :=
  readGap least afterBreak (c.rest.length + 1) c .empty

/-! ## Plain scalars -/

/-- The characters of a plain scalar up to a blank, a line break or an indicator, none if they are
refused. -/
def plainRun (inFlow : Bool) : List Char → Option (List Char)
  | [] => some []
  | c :: rest =>
    if isBlank c || isBreak c then some []
    else if inFlow && c == ':' && rest.head?.any fun d => isFlowIndicator d || d == '?' then none
    else if c == ':' && endsWord rest then some []
    else if inFlow && isFlowIndicator c then some []
    else (plainRun inFlow rest).map (c :: ·)

/-- Read a plain scalar: its text, whether it ends behind a line break, and what follows. -/
def readPlain (inFlow : Bool) (least : Nat) (gap : Gap) (text : List Char) :
    Nat → Cursor → Option (List Char × Bool × Cursor)
  | 0, c => some (text, false, c)
  | fuel + 1, c =>
    let stop := some (text, !gap.breaks.isEmpty, c)
    if c.atDocumentMarker || c.next? == some '#' then stop
    else do
      let run ← plainRun inFlow c.rest
      let behind := c.skip run.length
      let (gap, text) := if run.isEmpty then (gap, text) else (.empty, text ++ gap.folded ++ run)
      if !(behind.atBlank || behind.atBreak) then return (text, !gap.breaks.isEmpty, behind)
      let (gap, next) ← gapFrom least false behind
      if !inFlow && next.column < least then return (text, !gap.breaks.isEmpty, next)
      readPlain inFlow least gap text fuel next

/-! ## Quoted scalars -/

/-- The characters that a backslash and a letter stand for. -/
def escapes : List (Char × Nat) :=
  [('0', 0), ('a', 7), ('b', 8), ('t', 9), ('\t', 9), ('n', 10), ('v', 11), ('f', 12), ('r', 13),
    ('e', 27), (' ', 32), ('"', 34), ('/', 47), ('\\', 92), ('N', 0x85), ('_', 0xa0), ('L', 0x2028),
    ('P', 0x2029)]

/-- The number of hexadecimal digits behind a letter that takes some. -/
def escapeLength? (c : Char) : Option Nat :=
  [('x', 2), ('u', 4), ('U', 8)].lookup c

/-- The number that hexadecimal digits spell. -/
def hexNumber? (cs : List Char) : Option Nat :=
  cs.foldlM (fun n c => (Json.hexDigit? c).map (16 * n + ·)) 0

/-- The character with a code point, if it has one. -/
def charOf? (n : Nat) : Option Char :=
  if n.isValidChar then some (Char.ofNat n) else none

/-- The character that an escape stands for, given the text behind the backslash, and the length of
the escape. -/
def readEscape (cs : List Char) : Option (Char × Nat) := do
  let c ← cs.head?
  match escapes.lookup c with
  | some n => return (Char.ofNat n, 2)
  | none =>
    let length ← escapeLength? c
    let digits := (cs.drop 1).take length
    if digits.length < length then none
    return (← charOf? (← hexNumber? digits), length + 2)

/-- How the characters of a quoted scalar up to a blank or line break end. -/
inductive QuotedStop
  | quote
  | gap
  /-- A line break behind a backslash. -/
  | escapedBreak
  deriving DecidableEq, Repr

/-- Read the characters of a quoted scalar up to a blank or a line break. -/
def quotedRun (quote : Char) (text : List Char) :
    Nat → Cursor → Option (List Char × QuotedStop × Cursor)
  | 0, _ => none
  | fuel + 1, c =>
    match c.rest with
    | [] => some (text, .gap, c)
    | ch :: rest =>
      if isBlank ch || isBreak ch then some (text, .gap, c)
      else if quote == '\'' && ch == '\'' && rest.head? == some '\'' then
        quotedRun quote (text ++ ['\'']) fuel (c.skip 2)
      else if ch == quote then some (text, .quote, c.skip 1)
      else if quote == '"' && ch == '\\' then
        if rest.head?.any isBreak then some (text, .escapedBreak, (c.skip 1).skipBreak)
        else do
          let (decoded, length) ← readEscape rest
          quotedRun quote (text ++ [decoded]) fuel (c.skip length)
      else quotedRun quote (text ++ [ch]) fuel (c.skip 1)

/-- Read a quoted scalar from behind its first quote. -/
def readQuoted (quote : Char) (text : List Char) : Nat → Cursor → Option (List Char × Cursor)
  | 0, _ => none
  | fuel + 1, c =>
    if c.atDocumentMarker || c.rest.isEmpty then none
    else do
      let (text, stop, behind) ← quotedRun quote text (c.rest.length + 1) c
      match stop with
      | .quote => return (text, behind)
      | .gap =>
        let (gap, next) ← gapFrom 0 false behind
        readQuoted quote (text ++ gap.folded) fuel next
      | .escapedBreak =>
        let (gap, next) ← gapFrom 0 true behind
        readQuoted quote (text ++ gap.unfolded) fuel next

/-! ## Block scalars -/

/-- What becomes of the line breaks at the end of a block scalar. -/
inductive Chomping
  | strip
  | clip
  | keep
  deriving DecidableEq, Repr

/-- The chomping that a character asks for. -/
def chomping? : Char → Option Chomping
  | '+' => some .keep
  | '-' => some .strip
  | _ => none

/-- The indentation that a character asks for; zero is refused. -/
def increment? (c : Char) : Option (Option Nat) :=
  if c == '0' then none else if c.isDigit then some (some (c.toNat - '0'.toNat)) else some none

/-- The chomping and indentation at the head of a block scalar, in either order, and the number of
characters they take. -/
def blockHead? (cs : List Char) : Option (Chomping × Option Nat × Nat) := do
  let first := cs.headD '\n'
  let second := (cs.drop 1).headD '\n'
  match chomping? first with
  | some chomping =>
    match ← increment? second with
    | some n => return (chomping, some n, 2)
    | none => return (chomping, none, 1)
  | none =>
    match ← increment? first with
    | none => return (.clip, none, 0)
    | some n =>
      match chomping? second with
      | some chomping => return (chomping, some n, 2)
      | none => return (.clip, some n, 1)

/-- Read the indentation and the empty lines in front of a line of a block scalar: the texts of the
line breaks, and the greatest column reached. -/
def readIndentation (indent : Option Nat) (breaks : List Char) (reached : Nat) :
    Nat → Cursor → Option (List Char × Nat × Cursor)
  | 0, c => some (breaks, reached, c)
  | fuel + 1, c =>
    let spaces := (c.rest.takeWhile (· == ' ')).length
    let next := c.skip (indent.elim spaces fun n => min spaces (n - c.column))
    let reached := max reached next.column
    if indent.all (next.column < ·) && next.next? == some '\t' then none
    else if next.atBreak then
      readIndentation indent (breaks ++ breakText next.rest) reached fuel next.skipBreak
    else some (breaks, reached, next)

/-- The lines of a block scalar read so far. -/
structure BlockText where
  text : List Char
  /-- The line break in front of what comes next. -/
  leading : List Char
  /-- The empty lines behind it. -/
  trailing : List Char
  /-- Whether the last line begins with a blank. -/
  isIndented : Bool

/-- Add a line to a block scalar. A line break between two lines that are not indented further is
folded. -/
def BlockText.addLine (b : BlockText) (isFolded : Bool) (line : List Char) : BlockText :=
  let isIndented := line.head?.any isBlank
  let between :=
    if isFolded && b.leading == ['\n'] && !b.isIndented && !isIndented then
      if b.trailing.isEmpty then [' '] else []
    else b.leading
  ⟨b.text ++ between ++ b.trailing ++ line, [], [], isIndented⟩

/-- Read the lines of a block scalar. -/
def readBlockLines (isFolded : Bool) (indent : Nat) (b : BlockText) :
    Nat → Cursor → Option (BlockText × Cursor)
  | 0, c => some (b, c)
  | fuel + 1, c =>
    if c.column == indent && !c.rest.isEmpty then do
      let behind := c.skipLine
      let b := b.addLine isFolded (c.rest.take (behind.index - c.index))
      let next := if behind.atBreak then behind.skipBreak else behind
      let (trailing, _, start) ← readIndentation (some indent) [] 0 (c.rest.length + 1) next
      readBlockLines isFolded indent { b with leading := breakText behind.rest, trailing } fuel
        start
    else some (b, c)

/-- The text of a block scalar with the line breaks at its end. -/
def BlockText.chomped (b : BlockText) : Chomping → List Char
  | .strip => b.text
  | .clip => b.text ++ b.leading
  | .keep => b.text ++ b.leading ++ b.trailing

/-- The place behind the blanks and the comment at the end of a line, and behind its line break;
nothing else may stand there. -/
def endLine (c : Cursor) : Option Cursor :=
  let c := c.skipBlanks
  let c := if c.next? == some '#' then c.skipLine else c
  if c.atBreak then some c.skipBreak else if c.rest.isEmpty then some c else none

/-- Read a block scalar from behind its indicator, where `indent` is the indentation of the block
around it, none outside of all blocks. -/
def readBlock (isFolded : Bool) (indent : Option Nat) (c : Cursor) :
    Option (List Char × Cursor) := do
  let (chomping, increment, length) ← blockHead? c.rest
  let c ← endLine (c.skip length)
  let fixed := increment.map (indent.getD 0 + ·)
  let (trailing, reached, start) ← readIndentation fixed [] 0 (c.rest.length + 1) c
  let least := max 1 (indent.elim 0 (· + 1))
  let (b, c) ← readBlockLines isFolded (fixed.getD (max reached least)) ⟨[], [], trailing, false⟩
    (c.rest.length + 1) start
  return (b.chomped chomping, c)

end Tablewright.Yaml
