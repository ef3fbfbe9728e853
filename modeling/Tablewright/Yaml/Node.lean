import Tablewright.Yaml.Layout

/-!
# YAML nodes

A YAML text holds a tree of scalars, sequences and mappings. `Yaml.read?` answers the tree of a text
with at most one document. An alias stands for the node that was marked with its name before.
-/

namespace Tablewright.Yaml

/-- A node. -/
inductive Node
  | scalar (text : String) (isPlain : Bool) (tag : Option String)
  | sequence (items : List Node)
  /-- Keys with their values. -/
  | mapping (entries : List (Node × Node))

/-- What is known while nodes are read. -/
structure Reading where
  tokens : List Token
  /-- The nodes marked with a name, the last first. -/
  anchors : List (String × Node)
  /-- The handles of tags with what they stand for. -/
  handles : List (String × String)

/-- Something that is read off the front of a list of tokens. -/
abbrev Reader := StateT Reading Option

namespace Reader

/-- The next token, which stays. -/
def peek : Reader Token := do
  return (← get).tokens.headD .finish

/-- Take off the next token. -/
def skip : Reader Unit :=
  modify fun r => { r with tokens := r.tokens.drop 1 }

/-- Take off a token if it comes next. -/
def accept (t : Token) : Reader Bool := do
  if (← peek) = t then
    skip
    return true
  return false

/-- Take off a token. -/
def expect (t : Token) : Reader Unit := do
  if !(← accept t) then failure

/-! ## Properties -/

/-- A node that is not there. -/
def nothing (tag : Option String) : Node :=
  .scalar "" true tag

/-- The tag that a handle and a suffix make. -/
def resolveTag (handle suffix : String) : Reader String := do
  if handle.isEmpty then return suffix
  match (← get).handles.lookup handle with
  | some expansion => return expansion ++ suffix
  | none => failure

/-- Read an anchor. -/
def anchor? : Reader (Option String) := do
  match ← peek with
  | .anchor name => skip; return some name
  | _ => return none

/-- Read a tag. -/
def tag? : Reader (Option String) := do
  match ← peek with
  | .tag handle suffix => skip; return some (← resolveTag handle suffix)
  | _ => return none

/-- Read an anchor and a tag in either order. -/
def properties : Reader (Option String × Option String) := do
  match ← anchor? with
  | some name => return (some name, ← tag?)
  | none =>
    let tag ← tag?
    return (← anchor?, tag)

/-- Mark a node with a name. -/
def mark (name : Option String) (n : Node) : Reader Unit :=
  match name with
  | some name => modify fun r => { r with anchors := (name, n) :: r.anchors }
  | none => pure ()

/-! ## Nodes -/

/-- Whether an entry is empty, given the token behind its mark. -/
def endsEntry (isBlock : Bool) (t : Token) : Bool :=
  match t with
  | .key | .value | .blockEnd => isBlock
  | .flowEntry | .flowMappingEnd | .flowSequenceEnd => !isBlock
  | _ => false

mutual

/-- Read a node. -/
def node (isBlock allowsEntries : Bool) : Nat → Reader Node
  | 0 => failure
  | fuel + 1 => do
    match ← peek with
    | .reference name =>
      skip
      match (← get).anchors.lookup name with
      | some n => return n
      | none => failure
    | _ =>
      let (name, tag) ← properties
      let n ← content isBlock allowsEntries (name.isSome || tag.isSome) tag fuel
      mark name n
      return n

/-- Read the content of a node; with properties it may be missing. -/
def content (isBlock allowsEntries hasProperties : Bool) (tag : Option String) :
    Nat → Reader Node
  | 0 => failure
  | fuel + 1 => do
    match ← peek with
    | .scalar text isPlain => skip; return .scalar text isPlain tag
    | .flowSequenceStart => skip; return .sequence (← flowItems true fuel)
    | .flowMappingStart => skip; return .mapping (← flowEntries true fuel)
    | .blockEntry =>
      if allowsEntries then return .sequence (← indentlessItems fuel)
      if hasProperties then return nothing tag
      failure
    | .blockSequenceStart =>
      if isBlock then
        skip
        return .sequence (← blockItems fuel)
      if hasProperties then return nothing tag
      failure
    | .blockMappingStart =>
      if isBlock then
        skip
        return .mapping (← blockEntries fuel)
      if hasProperties then return nothing tag
      failure
    | _ => if hasProperties then return nothing tag else failure

/-- Read a node unless a mark comes next. -/
def nodeUnless (ends : Token → Bool) (isBlock allowsEntries : Bool) : Nat → Reader Node
  | 0 => failure
  | fuel + 1 => do
    if ends (← peek) then return nothing none
    node isBlock allowsEntries fuel

/-- Read the entries of a block sequence. -/
def blockItems : Nat → Reader (List Node)
  | 0 => failure
  | fuel + 1 => do
    if ← accept .blockEnd then return []
    expect .blockEntry
    let item ← nodeUnless (fun t => t = .blockEntry || t = .blockEnd) true false fuel
    return item :: (← blockItems fuel)

/-- Read the entries of a sequence that is not indented further than its key. -/
def indentlessItems : Nat → Reader (List Node)
  | 0 => failure
  | fuel + 1 => do
    if !(← accept .blockEntry) then return []
    let item ← nodeUnless (fun t => t = .blockEntry || endsEntry true t) true false fuel
    return item :: (← indentlessItems fuel)

/-- Read the value behind a key, which may be missing. -/
def entryValue (isBlock : Bool) : Nat → Reader Node
  | 0 => failure
  | fuel + 1 => do
    if !(← accept .value) then return nothing none
    nodeUnless (endsEntry isBlock) isBlock isBlock fuel

/-- Read the entries of a block mapping. -/
def blockEntries : Nat → Reader (List (Node × Node))
  | 0 => failure
  | fuel + 1 => do
    if ← accept .blockEnd then return []
    expect .key
    let k ← nodeUnless (endsEntry true) true true fuel
    let v ← entryValue true fuel
    return (k, v) :: (← blockEntries fuel)

/-- Read an entry of a flow sequence: a node, or a mapping of a single key. -/
def flowItem : Nat → Reader Node
  | 0 => failure
  | fuel + 1 => do
    if ← accept .key then
      let k ← nodeUnless (fun t => t = .value || endsEntry false t) false false fuel
      return .mapping [(k, ← entryValue false fuel)]
    node false false fuel

/-- Read the entries of a flow sequence. -/
def flowItems (isFirst : Bool) : Nat → Reader (List Node)
  | 0 => failure
  | fuel + 1 => do
    if ← accept .flowSequenceEnd then return []
    if !isFirst then expect .flowEntry
    if ← accept .flowSequenceEnd then return []
    let item ← flowItem fuel
    return item :: (← flowItems false fuel)

/-- Read an entry of a flow mapping; a key without a mark has no value. -/
def flowPair : Nat → Reader (Node × Node)
  | 0 => failure
  | fuel + 1 => do
    if ← accept .key then
      let k ← nodeUnless (fun t => t = .value || endsEntry false t) false false fuel
      return (k, ← entryValue false fuel)
    return (← node false false fuel, nothing none)

/-- Read the entries of a flow mapping. -/
def flowEntries (isFirst : Bool) : Nat → Reader (List (Node × Node))
  | 0 => failure
  | fuel + 1 => do
    if ← accept .flowMappingEnd then return []
    if !isFirst then expect .flowEntry
    if ← accept .flowMappingEnd then return []
    let entry ← flowPair fuel
    return entry :: (← flowEntries false fuel)

end

/-! ## Documents -/

/-- The handles that every document has. -/
def usualHandles : List (String × String) :=
  [("!", "!"), ("!!", "tag:yaml.org,2002:")]

/-- Read the directives in front of a document: at most one version, and handles. -/
def directives (hasVersion : Bool) : Nat → Reader Unit
  | 0 => failure
  | fuel + 1 => do
    match ← peek with
    | .version major minor =>
      if hasVersion || major != 1 || !(minor == 1 || minor == 2) then failure
      skip
      directives true fuel
    | .tagHandle handle expansion =>
      skip
      modify fun r => { r with handles := (handle, expansion) :: r.handles }
      directives hasVersion fuel
    | _ => return

/-- Skip the marks at the end of a document. -/
def documentEnds : Nat → Reader Unit
  | 0 => failure
  | fuel + 1 => do
    if ← accept .documentEnd then documentEnds fuel

/-- Whether a document is empty, given the token behind the mark at its beginning. -/
def endsDocument : Token → Bool
  | .version _ _ | .tagHandle _ _ | .documentStart | .documentEnd | .finish => true
  | _ => false

/-- Whether a document begins with a directive or a mark. -/
def beginsExplicitly : Token → Bool
  | .version _ _ | .tagHandle _ _ | .documentStart => true
  | _ => false

/-- Read the only document. -/
def document (fuel : Nat) : Reader Node := do
  let n ←
    if beginsExplicitly (← peek) then
      directives false fuel
      expect .documentStart
      nodeUnless endsDocument true false fuel
    else node true false fuel
  documentEnds fuel
  expect .finish
  return n

/-- Read the only document, if there is one. -/
def stream (fuel : Nat) : Reader (Option Node) := do
  if (← peek) = .finish then return none
  return some (← document fuel)

end Reader

/-- The tree of a text without a fault, none if the text has no document. -/
def read? (text : String) : Option (Option Node) := do
  let tokens ← tokens? text
  let (n, _) ← (Reader.stream (4 * tokens.length + 10)).run ⟨tokens, [], Reader.usualHandles⟩
  return n

end Tablewright.Yaml
