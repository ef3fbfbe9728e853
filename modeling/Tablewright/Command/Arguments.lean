import Tablewright.Extraction.Strategy

/-!
# Arguments

The arguments of the command: the script to read, the file to write, and options. An option takes
its value from the same argument, behind `=`, or from the next one. A value is looked at when the
argument behind it has been recognised, so that an unknown argument is reported before a bad value
in front of it.
-/

namespace Tablewright

/-- What is written. -/
inductive Emission
  /-- The generated module. -/
  | module
  /-- The schema document. -/
  | document
  deriving DecidableEq, Repr

/-- The word for what is written. -/
def Emission.ofKeyword? (s : String) : Option Emission :=
  if s = "rust" then some .module else if s = "json" then some .document else none

/-- A command to run. -/
structure Command where
  input : String
  output : String
  strategy : Option Strategy
  emission : Emission
  config : Option String
  /-- How often more events were asked for. -/
  verbosity : Nat
  deriving DecidableEq, Repr

/-- Why arguments make no command to run. -/
inductive ArgumentStop
  | missingArgument
  | unknownArgument
  | invalidValue
  /-- An option is given twice. -/
  | conflict
  /-- A flag is given a value. -/
  | tooManyValues
  | help
  | version
  deriving DecidableEq, Repr

/-- The exit code for arguments that make no command to run: to ask for a text is no mistake. -/
def ArgumentStop.exitCode : ArgumentStop → Nat
  | help | version => 0
  | _ => 2

namespace Arguments

/-- An option that takes a value. -/
inductive ValueOption
  | strategy
  | emission
  | config
  deriving DecidableEq, Repr

/-- An argument that takes no value. -/
inductive Flag
  | verbose
  | help
  | version
  deriving DecidableEq, Repr

/-- What a long name stands for. -/
def longOption? : String → Option (ValueOption ⊕ Flag)
  | "strategy" => some (.inl .strategy)
  | "emit" => some (.inl .emission)
  | "config" => some (.inl .config)
  | "verbose" => some (.inr .verbose)
  | "help" => some (.inr .help)
  | "version" => some (.inr .version)
  | _ => none

/-- What a short name stands for. -/
def shortFlag? : Char → Option Flag
  | 'v' => some .verbose
  | 'h' => some .help
  | 'V' => some .version
  | _ => none

/-- What an argument without a dash is for. -/
inductive Position
  | input
  | output
  deriving DecidableEq, Repr

/-- An argument that is recognised and not yet looked at. -/
inductive Pending
  | nothing
  | positional (position : Position) (text : String)
  /-- An option, its value if it is there. -/
  | option (o : ValueOption) (value : Option String)
  deriving DecidableEq, Repr

/-- The arguments read so far. -/
structure Parsed where
  input : Option String
  output : Option String
  strategy : Option Strategy
  emission : Option Emission
  config : Option String
  verbosity : Nat
  pending : Pending
  /-- How many arguments without a dash were recognised. -/
  positions : Nat
  /-- Whether no argument is an option any more. -/
  isTrailing : Bool

/-- Nothing read. -/
def start : Parsed :=
  ⟨none, none, none, none, none, 0, .nothing, 0, false⟩

/-- A path, which is not empty. -/
def path (text : String) : Except ArgumentStop String :=
  if text.isEmpty then .error .invalidValue else .ok text

/-- A word for a value. -/
def word {α : Type} : Option α → Except ArgumentStop α
  | some a => .ok a
  | none => .error .invalidValue

/-- Take a value for an option that has none yet. -/
def takeOption (p : Parsed) (o : ValueOption) (value : String) : Except ArgumentStop Parsed := do
  match o with
  | .strategy =>
    if p.strategy.isSome then throw .conflict
    return { p with strategy := some (← word (Strategy.ofKeyword? value)) }
  | .emission =>
    if p.emission.isSome then throw .conflict
    return { p with emission := some (← word (Emission.ofKeyword? value)) }
  | .config =>
    if p.config.isSome then throw .conflict
    return { p with config := some (← path value) }

/-- Look at the pending argument. -/
def settle (p : Parsed) : Except ArgumentStop Parsed := do
  let q := { p with pending := .nothing }
  match p.pending with
  | .nothing => return q
  | .positional .input text => return { q with input := some (← path text) }
  | .positional .output text => return { q with output := some (← path text) }
  | .option _ none => throw .invalidValue
  | .option o (some value) => takeOption q o value

/-- Take a flag. -/
def takeFlag (p : Parsed) (f : Flag) : Except ArgumentStop Parsed := do
  let p ← settle p
  match f with
  | .verbose => return { p with verbosity := p.verbosity + 1 }
  | .help => throw .help
  | .version => throw .version

/-- The position of the next argument without a dash. -/
def nextPosition? (p : Parsed) : Option Position :=
  match p.positions with
  | 0 => some .input
  | 1 => some .output
  | _ => none

/-- Take an argument without a dash. -/
def takePositional (p : Parsed) (text : String) : Except ArgumentStop Parsed := do
  match nextPosition? p with
  | none => throw .unknownArgument
  | some position =>
    let p ← settle p
    return { p with pending := .positional position text, positions := p.positions + 1 }

/-- The name of a long option and the value behind `=`. -/
def splitLong (cs : List Char) : String × Option String :=
  let name := cs.takeWhile (· != '=')
  (String.ofList name,
    match cs.drop name.length with
    | _ :: value => some (String.ofList value)
    | [] => none)

/-- Take a long option, given without its dashes. -/
def takeLong (p : Parsed) (cs : List Char) : Except ArgumentStop Parsed := do
  let (name, value) := splitLong cs
  match longOption? name, value with
  | none, _ => throw .unknownArgument
  | some (.inl o), some value => takeOption (← settle p) o value
  | some (.inl o), none => return { ← settle p with pending := .option o none }
  | some (.inr _), some _ => throw .tooManyValues
  | some (.inr f), none => takeFlag p f

/-- Take short flags, given without their dash. -/
def takeShort (p : Parsed) : List Char → Except ArgumentStop Parsed
  | [] => .ok p
  | c :: rest => do
    match shortFlag? c with
    | none => throw .unknownArgument
    | some f => takeShort (← takeFlag p f) rest

/-- Take an argument that is no option: the value of the option in front, if it has none. -/
def takeText (p : Parsed) (text : String) : Except ArgumentStop Parsed :=
  match p.isTrailing, p.pending with
  | false, .option o none => .ok { p with pending := .option o (some text) }
  | _, _ => takePositional p text

/-- Take an argument. -/
def take (p : Parsed) (argument : String) : Except ArgumentStop Parsed :=
  if p.isTrailing then takeText p argument
  else
    match argument.toList with
    | ['-', '-'] => .ok { p with isTrailing := true }
    | '-' :: '-' :: long => takeLong p long
    | '-' :: c :: rest => takeShort p (c :: rest)
    | _ => takeText p argument

/-- The command that arguments make. -/
def finish (p : Parsed) : Except ArgumentStop Command := do
  let p ← settle p
  match p.input, p.output with
  | some input, some output =>
    return ⟨input, output, p.strategy, p.emission.getD .module, p.config, p.verbosity⟩
  | _, _ => throw .missingArgument

end Arguments

/-- The command that arguments make. -/
def Command.ofArguments (arguments : List String) : Except ArgumentStop Command := do
  Arguments.finish (← arguments.foldlM Arguments.take Arguments.start)

end Tablewright
