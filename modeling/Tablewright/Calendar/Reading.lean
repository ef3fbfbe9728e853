import Tablewright.Calendar.Timestamp
import Tablewright.Text.Blank

/-!
# Reading timestamps

`Timestamp.read` reads a timestamp as it is written and also in some other spellings: white space
may stand in front of every number, numbers may be shorter, a year with a sign may be longer, and
the milliseconds may be missing. Each part is tested for its range where it is read; that there is
such a day is tested last.
-/

namespace Tablewright

/-- Why a text is no timestamp. -/
inductive TimestampProblem
  | endsEarly
  | invalidCharacter
  | outOfRange
  | trailingText
  deriving DecidableEq, Repr

/-- The diagnostic for a text that is no timestamp. -/
def TimestampProblem.message : TimestampProblem → String
  | endsEarly => "premature end of input"
  | invalidCharacter => "input contains invalid characters"
  | outOfRange => "input is out of range"
  | trailingText => "trailing input"

namespace Timestamp

/-- Something that is read off the front of a text. -/
abbrev Reader := StateT (List Char) (Except TimestampProblem)

/-- The greatest number that is read. -/
def greatestNumber : Nat :=
  9223372036854775807

/-- The number that digits spell, given the one that those before them do. -/
def digitsValue (n : Nat) : List Char → Except TimestampProblem Nat
  | [] => .ok n
  | c :: rest =>
    let next := 10 * n + (c.toNat - '0'.toNat)
    if next ≤ greatestNumber then digitsValue next rest else .error .outOfRange

/-- Read a number of at most so many digits. -/
def digits (most : Nat) : Reader Nat := fun cs =>
  match cs with
  | [] => .error .endsEarly
  | c :: _ =>
    if c.isDigit then do
      let spelling := (cs.take most).takeWhile Char.isDigit
      return (← digitsValue 0 spelling, cs.drop spelling.length)
    else .error .invalidCharacter

/-- Read a number with white space in front of it. -/
def number (most : Nat) : Reader Nat := do
  modify Text.dropBlank
  digits most

/-- Read a number in a range. -/
def numberWithin (low high : Nat) : Reader Nat := do
  let n ← number 2
  if low ≤ n && n ≤ high then return n
  throw .outOfRange

/-- A year that fits into 32 bits. -/
def checkYear (year : Int) : Reader Int :=
  if -2147483648 ≤ year && year ≤ 2147483647 then return year else throw .outOfRange

/-- Read a year: with a sign, of any length, else of at most four digits. -/
def readYear : Reader Int := do
  modify Text.dropBlank
  match ← get with
  | '-' :: rest =>
    set rest
    checkYear (-(← digits rest.length))
  | '+' :: rest =>
    set rest
    checkYear (← digits rest.length)
  | _ => checkYear (← digits 4)

/-- Read a character. -/
def character (expected : Char) : Reader Unit := fun cs =>
  match cs with
  | [] => .error .endsEarly
  | c :: rest => if c = expected then .ok ((), rest) else .error .invalidCharacter

/-- The number of bytes of a text. -/
def byteLength (cs : List Char) : Nat :=
  cs.foldl (fun n c => n + c.utf8Size) 0

/-- Read the milliseconds behind the point. -/
def readMilliseconds : Reader Nat := do
  let cs ← get
  if byteLength cs < 3 then throw .endsEarly
  let spelling := cs.take 3
  if !(spelling.all Char.isDigit) then throw .invalidCharacter
  set (cs.drop 3)
  digitsValue 0 spelling

/-- Read a point and milliseconds, none if there is no point. -/
def readFraction : Reader Nat := do
  match ← get with
  | '.' :: rest =>
    set rest
    readMilliseconds
  | _ => return 0

/-- The end of the text. -/
def readEnd : Reader Unit := do
  if !(← get).isEmpty then throw .trailingText

/-- The timestamp of what was read, second 60 being a leap second. -/
def ofParts (date : Date) (hour minute second millisecond : Nat) : Timestamp :=
  let nanosecond := millisecond * nanosecondsPerMillisecond
  if second = 60 then ⟨date, hour, minute, 59, nanosecondsPerSecond + nanosecond⟩
  else ⟨date, hour, minute, second, nanosecond⟩

/-- Read a timestamp. -/
def reader : Reader Timestamp := do
  let year ← readYear
  character '-'
  let month ← numberWithin 1 12
  character '-'
  let day ← numberWithin 1 31
  character 'T'
  let hour ← numberWithin 0 23
  character ':'
  let minute ← numberWithin 0 59
  character ':'
  let second ← numberWithin 0 60
  let millisecond ← readFraction
  readEnd
  let date : Date := ⟨year, month, day⟩
  if date.isRepresented then return ofParts date hour minute second millisecond
  throw .outOfRange

/-- The timestamp that a text spells. -/
def read (text : String) : Except TimestampProblem Timestamp :=
  (reader.run text.toList).map (·.1)

end Timestamp

end Tablewright
