import Tablewright.Proofs.AccessModule.BoundFields
import Tablewright.Proofs.AccessModule.ModuleItems
import Tablewright.Proofs.FallibleSteps

/-!
# Methods of parameter structs, run

A parameter struct is read off a generated module: its members, and the statements of the method
that lists its fields (`parameterStruct?`). The statements are run on what the members hold
(`ParameterStruct.fields?`), step by step. A run has a result only if every value that it takes over
may be taken over: what is copied and what is cloned may, what is borrowed may not. A member that is
absent is taken over as NULL.

On all values that a struct admits, the method lists exactly what the members bind
(`fields?_roleStruct`). A statement does so for one member, whatever is listed before it
(`step?_statementOf`).
-/

namespace Tablewright.AccessModule

open Naming

/-! ## Members -/

/-- A member as a struct declares it. -/
structure DeclaredMember where
  name : String
  type : MemberType
  isOptional : Bool
  deriving DecidableEq, Repr

/-- The type of values that trees spell. -/
def readScalar? : List Tree → Option MemberType
  | [.word name] =>
    if name = "i64" then some .i64
    else if name = "f64" then some .f64
    else if name = "String" then some .string
    else none
  | [.word name, .mark c, .word item, .mark d] =>
    if name = "Vec" ∧ c = '<' ∧ item = "u8" ∧ d = '>' then some .bytes else none
  | _ => none

/-- The type of a member that trees spell, and whether the member may be absent. -/
def readType? : List Tree → Option (MemberType × Bool)
  | .word name :: .mark c :: inner =>
    if name = "Option" ∧ c = '<' then
      if inner.getLast?.any (Tree.isMark '>') then
        (readScalar? inner.dropLast).map fun type => (type, true)
      else none
    else (readScalar? (.word name :: .mark c :: inner)).map fun type => (type, false)
  | ts => (readScalar? ts).map fun type => (type, false)

/-- The declaration of a member. -/
def readMember? : List Tree → Option DeclaredMember
  | .word p :: .word name :: .mark c :: type =>
    if p = "pub" ∧ c = ':' then (readType? type).map fun t => ⟨name, t.1, t.2⟩ else none
  | _ => none

/-- What the members of a struct hold: the values of names. -/
abbrev Held := String → Option Value

/-- Whether a member can hold a value, or none. -/
def DeclaredMember.Admits (d : DeclaredMember) : Option Value → Prop
  | none => d.isOptional = true
  | some v => d.type.holds v = true

instance (d : DeclaredMember) : (value : Option Value) → Decidable (d.Admits value)
  | none => inferInstanceAs (Decidable (d.isOptional = true))
  | some v => inferInstanceAs (Decidable (d.type.holds v = true))

/-! ## The method -/

namespace FieldsMethod

/-- Where a value comes from. -/
inductive Origin
  /-- A member of the struct at hand. -/
  | member (name : String)
  /-- A variable that a pattern has bound. -/
  | bound (name : String)
  deriving DecidableEq, Repr

/-- What is turned into a value of a field. -/
structure Operand where
  origin : Origin
  isCloned : Bool
  deriving DecidableEq, Repr

/-- The name of a column with the value for it. -/
structure Pair where
  column : String
  operand : Operand
  deriving DecidableEq, Repr

/-- A statement of a list that grows. -/
inductive Statement
  | push (pair : Pair)
  /-- Push the pairs if there is a value, which the variable is bound to or borrows. -/
  | ifLet (name : String) (isBorrowed : Bool) (origin : Origin) (pairs : List Pair)
  deriving DecidableEq, Repr

/-- What the method does. -/
inductive Body
  | listed (pairs : List Pair)
  | grown (statements : List Statement)
  deriving DecidableEq, Repr

/-! ### Reading -/

def readOrigin? : List Tree → Option Origin
  | [.word name] => some (.bound name)
  | [.word first, .mark c, .word name] =>
    if first = "self" ∧ c = '.' then some (.member name) else none
  | _ => none

/-- The trees in front of a call of `clone`, if there is one. -/
def beforeClone? : List Tree → Option (List Tree)
  | [.mark c, .word name, .group .round []] => if c = '.' ∧ name = "clone" then some [] else none
  | t :: rest => (beforeClone? rest).map (t :: ·)
  | [] => none

def readOperand? (ts : List Tree) : Option Operand :=
  match beforeClone? ts with
  | some origin => (readOrigin? origin).map fun o => ⟨o, true⟩
  | none => (readOrigin? ts).map fun o => ⟨o, false⟩

/-- What is handed to the function of a path. -/
def handedTo? (path : List String) (call : List Tree) : Option (List Tree) :=
  match call.getLast? with
  | some (.group .round inner) => if readPath? call.dropLast = some path then some inner else none
  | _ => none

def readPair? : List Tree → Option Pair
  | [.group .round inner] =>
    match parts inner with
    | [[.text column], call] =>
      ((handedTo? ["rt", "Value", "from"] call).bind readOperand?).map fun o => ⟨column, o⟩
    | _ => none
  | _ => none

/-- The pair that is pushed to the list. -/
def readPush? (i : Item) : Option Pair :=
  match i.head, i.body with
  | [.word list, .mark c, .word method, .group .round pair], [] =>
    if list = "fields" ∧ c = '.' ∧ method = "push" then readPair? pair else none
  | _, _ => none

/-- What a pattern is matched with, and whether it is borrowed. -/
def readMatched? : List Tree → Option (Bool × Origin)
  | .mark c :: place => if c = '&' then (readOrigin? place).map fun o => (true, o) else none
  | place => (readOrigin? place).map fun o => (false, o)

def readStatement? (i : Item) : Option Statement :=
  match i.head with
  | .word k :: .word l :: .word p :: .group .round [.word name] :: .mark c :: place =>
    if k = "if" ∧ l = "let" ∧ p = "Some" ∧ c = '=' then
      (readMatched? place).bind fun o =>
        ((items i.body).mapM readPush?).map fun pairs => .ifLet name o.1 o.2 pairs
    else none
  | _ => (readPush? i).map .push

/-- The statement that makes an empty list. -/
def newFields : List Token :=
  [.word "let", .word "mut", .word "fields", .mark '=', .word "rt", .mark ':', .mark ':',
    .word "Fields", .mark ':', .mark ':', .word "new", .opening .round, .closing .round]

/-- The statements between the one that makes a list and the list as the result. -/
def readGrown? : List Item → Option (List Statement)
  | [] => none
  | first :: rest =>
    if flatten first.head = newFields ∧
        (rest.getLast?.map fun i => flatten i.head) = some [.word "fields"] then
      rest.dropLast.mapM readStatement?
    else none

def readBody? : List Tree → Option Body
  | [.word name, .mark c, .group .square inner] =>
    if name = "vec" ∧ c = '!' then ((parts inner).mapM readPair?).map .listed else none
  | body => (readGrown? (items (body ++ [.mark ';']))).map .grown

/-! ### Running -/

/-- What is known of a value in the method. -/
structure Content where
  isOptional : Bool
  /-- Whether the value may be taken over. -/
  isOwned : Bool
  value : Option Value

/-- The value that is taken over, NULL if it is absent. -/
def Content.taken? (d : Content) : Option Value :=
  if d.isOwned && (d.isOptional || d.value.isSome) then some (d.value.getD .null) else none

/-- The struct at hand, with what its members hold, and the variables. -/
structure Scope where
  members : List DeclaredMember
  held : Held
  bound : List (String × Content)

namespace Scope

def origin? (s : Scope) : Origin → Option Content
  | .member name => (s.members.find? fun d => d.name == name).map fun d =>
    ⟨d.isOptional, d.type.isCopy, s.held name⟩
  | .bound name => s.bound.lookup name

def operand? (s : Scope) (o : Operand) : Option Content :=
  (s.origin? o.origin).map fun d => { d with isOwned := d.isOwned || o.isCloned }

def pair? (s : Scope) (p : Pair) : Option (String × Value) :=
  ((s.operand? p.operand).bind Content.taken?).map fun v => (p.column, v)

/-- The scope in which a variable is bound to a value. -/
def withBound (s : Scope) (name : String) (d : Content) : Scope :=
  { s with bound := (name, d) :: s.bound }

/-- One statement. What is not borrowed can only be matched if it may be taken over. -/
def step? (s : Scope) (fields : Fields) : Statement → Option Fields
  | .push p => (s.pair? p).map fun field => fields ++ [field]
  | .ifLet name isBorrowed origin pairs =>
    (s.origin? origin).bind fun d =>
      if d.isOptional && (isBorrowed || d.isOwned) then
        match d.value with
        | none => some fields
        | some v =>
          (pairs.mapM (s.withBound name ⟨false, !isBorrowed, some v⟩).pair?).map (fields ++ ·)
      else none

def run? (s : Scope) : Body → Option Fields
  | .listed pairs => pairs.mapM s.pair?
  | .grown statements => statements.foldlM s.step? []

end Scope

end FieldsMethod

/-! ## Parameter structs -/

/-- A parameter struct: its members, and what the method does that lists its fields. -/
structure ParameterStruct where
  members : List DeclaredMember
  body : FieldsMethod.Body

namespace ParameterStruct

/-- Whether values are such as the members can hold. -/
def Admits (S : ParameterStruct) (held : Held) : Prop :=
  ∀ d ∈ S.members, d.Admits (held d.name)

/-- The fields that the method lists. -/
def fields? (S : ParameterStruct) (held : Held) : Option Fields :=
  FieldsMethod.Scope.run? ⟨S.members, held, []⟩ S.body

end ParameterStruct

/-- What stands between the name of the method and its braces. -/
def methodSignature : List Token :=
  [.opening .round, .mark '&', .word "self", .closing .round, .mark '-', .mark '>', .word "rt",
    .mark ':', .mark ':', .word "Fields"]

/-- The parameter struct of a name, with the only method of its only implementation. -/
def parameterStruct? (name : String) (root : List Tree) : Option ParameterStruct :=
  match named "struct" name root, implementations name root with
  | [(_, declared)], [methods] =>
    match named "fn" "fields" methods with
    | [(signature, body)] =>
      if flatten signature = methodSignature then
        ((parts declared).mapM readMember?).bind fun ds =>
          (FieldsMethod.readBody? body).map fun b => ⟨ds, b⟩
      else none
    | _ => none
  | _, _ => none

/-! ## The structs of a generated module -/

/-- The declaration of a member. -/
def Member.declared (m : Member) : DeclaredMember :=
  ⟨m.identifier, m.type, m.presence.isOptional⟩

@[simp] theorem Member.declared_name (m : Member) : m.declared.name = m.identifier := by
  rw [declared]

theorem readMember?_memberTrees (m : Member) : readMember? (memberTrees m) = some m.declared := by
  rw [memberTrees, Member.declared]
  cases m.presence.isOptional <;> cases m.type <;> rfl

theorem commaFree_memberTrees (m : Member) : commaFree (memberTrees m) = true := by
  rw [memberTrees, typeTrees]
  cases m.presence.isOptional <;> cases m.type <;> rfl

namespace FieldsMethod

/-- The pair of a member with the value of an origin. -/
def pairOf (m : Member) (origin : Origin) : Pair :=
  ⟨m.column.name, origin, !m.type.isCopy⟩

/-- The statement that binds a member. -/
def statementOf (m : Member) : Statement :=
  match m.presence with
  | .required _ => .push (pairOf m (.member m.identifier))
  | .omittable => .ifLet "value" (!m.type.isCopy) (.member m.identifier) [pairOf m (.bound "value")]

/-- What the method of a struct does. -/
def bodyOf (ms : List Member) : Body :=
  if ms.all fun m => m.presence ≠ .omittable then
    .listed (ms.map fun m => pairOf m (.member m.identifier))
  else .grown (ms.map statementOf)

/-! ### Read back -/

theorem readPair?_member (m : Member) : readPair? [pairTree m (ownedTrees m (placeTrees m))] =
    some (pairOf m (.member m.identifier)) := by
  rw [ownedTrees, pairOf]
  cases m.type.isCopy <;> rfl

theorem readPair?_bound (m : Member) : readPair? [pairTree m (ownedTrees m [.word "value"])] =
    some (pairOf m (.bound "value")) := by
  rw [ownedTrees, pairOf]
  cases m.type.isCopy <;> rfl

/-- The item of the statement that pushes a pair. -/
def addItem (m : Member) (value : List Tree) : Item :=
  ⟨[.word "fields", .mark '.', .word "push", .group .round [pairTree m value]], []⟩

/-- The item of the statement that binds a member. -/
def pushItem (m : Member) : Item :=
  match m.presence with
  | .required _ => addItem m (ownedTrees m (placeTrees m))
  | .omittable =>
    ⟨([.word "if", .word "let", .word "Some", .group .round [.word "value"], .mark '='] :
        List Tree) ++ (if m.type.isCopy then placeTrees m else .mark '&' :: placeTrees m),
      addTrees m (ownedTrees m [.word "value"])⟩

theorem itemized_pushTrees (m : Member) : Itemized (pushTrees m) [pushItem m] := by
  rw [pushTrees, pushItem]
  cases m.presence with
  | required nullable => exact fun _ => rfl
  | omittable => cases m.type.isCopy <;> exact fun _ => rfl

theorem readStatement?_pushItem (m : Member) :
    readStatement? (pushItem m) = some (statementOf m) := by
  rw [pushItem, statementOf]
  cases m.presence with
  | required nullable =>
    have hpush : readStatement? (addItem m (ownedTrees m (placeTrees m))) =
      (readPair? [pairTree m (ownedTrees m (placeTrees m))]).map .push := rfl
    rw [hpush, readPair?_member]
    rfl
  | omittable =>
    have hpushes : (items (addTrees m (ownedTrees m [.word "value"]))).mapM readPush? =
        some [pairOf m (.bound "value")] := by
      have hitems : items (addTrees m (ownedTrees m [.word "value"])) =
          [addItem m (ownedTrees m [.word "value"])] := rfl
      have hpush : readPush? (addItem m (ownedTrees m [.word "value"])) =
          readPair? [pairTree m (ownedTrees m [.word "value"])] := rfl
      rw [hitems, List.mapM_cons, hpush, readPair?_bound]
      rfl
    cases hcopy : m.type.isCopy <;> simp [readStatement?, readMatched?, readOrigin?, placeTrees, hpushes]

/-- The statement that makes an empty list. -/
def newTrees : List Tree :=
  [.word "let", .word "mut", .word "fields", .mark '=', .word "rt", .mark ':', .mark ':',
    .word "Fields", .mark ':', .mark ':', .word "new", .group .round [], .mark ';']

/-- The item of this statement. -/
def newItem : Item :=
  ⟨[.word "let", .word "mut", .word "fields", .mark '=', .word "rt", .mark ':', .mark ':',
    .word "Fields", .mark ':', .mark ':', .word "new", .group .round []], []⟩

theorem readGrown?_items (ms : List Member) :
    readGrown? (newItem :: ms.map pushItem ++ [⟨[.word "fields"], []⟩]) =
      some (ms.map statementOf) := by
  have hread : (ms.map pushItem).mapM readStatement? = some (ms.map statementOf) := by
    rw [List.mapM_map]
    exact mapM_eq_some fun m _ => readStatement?_pushItem m
  rw [List.cons_append, readGrown?, List.getLast?_concat, List.dropLast_concat]
  exact (if_pos ⟨rfl, rfl⟩).trans hread

theorem readBody?_grown (ms : List Member) :
    readBody? (newTrees ++ ms.flatMap pushTrees ++ [.word "fields"]) =
      some (.grown (ms.map statementOf)) := by
  have hnew : Itemized newTrees [newItem] := fun _ => rfl
  have hpushes : Itemized (ms.flatMap pushTrees) (ms.map pushItem) :=
    .map fun m _ => itemized_pushTrees m
  have hresult : Itemized ([.word "fields"] ++ [.mark ';']) [⟨[.word "fields"], []⟩] := fun _ => rfl
  have hitems := ((hnew.append hpushes).append hresult).items_eq
  have hbody : readBody? (newTrees ++ ms.flatMap pushTrees ++ [.word "fields"]) =
      (readGrown? (items (newTrees ++ ms.flatMap pushTrees ++ [.word "fields"] ++
        [.mark ';']))).map .grown := rfl
  rw [hbody, List.append_assoc, hitems, List.singleton_append, readGrown?_items]
  rfl

/-- The body of the method is read as a list or as statements. -/
theorem readBody?_fieldsTrees (ms : List Member) :
    readBody? (fieldsTrees ms) = some (bodyOf ms) := by
  rw [fieldsTrees, bodyOf]
  split
  · have hparts := parts_flatMap (l := ms) (f := fun m => [pairTree m (ownedTrees m (placeTrees m))])
      fun _ _ => rfl
    have hread : ms.mapM (fun m => readPair? [pairTree m (ownedTrees m (placeTrees m))]) =
        some (ms.map fun m => pairOf m (.member m.identifier)) :=
      mapM_eq_some fun m _ => readPair?_member m
    rw [readBody?, if_pos ⟨rfl, rfl⟩, hparts, List.mapM_map]
    exact congrArg (Option.map Body.listed) hread
  · exact readBody?_grown ms

/-! ### Run on the members -/

section Run

variable {ms : List Member} {held : Held} {m : Member}

/-- The scope of the method of a struct with the members. -/
def scopeOf (ms : List Member) (held : Held) : Scope :=
  ⟨ms.map Member.declared, held, []⟩

theorem find?_declared (hdistinct : (ms.map Member.identifier).Nodup) (hm : m ∈ ms) :
    (ms.map Member.declared).find? (fun d => d.name == m.identifier) = some m.declared := by
  induction ms with
  | nil => cases hm
  | cons m' ms ih =>
    rw [List.map_cons, List.nodup_cons] at hdistinct
    rw [List.map_cons, List.find?_cons]
    rcases List.mem_cons.1 hm with rfl | hm
    · rw [Member.declared_name, beq_self_eq_true]
    · have hne : m'.identifier ≠ m.identifier := fun heq =>
        hdistinct.1 (List.mem_map.2 ⟨m, hm, heq.symm⟩)
      rw [Member.declared_name, beq_eq_false_iff_ne.2 hne, ih hdistinct.2 hm]

theorem origin?_member (hdistinct : (ms.map Member.identifier).Nodup) (hm : m ∈ ms) :
    (scopeOf ms held).origin? (.member m.identifier) =
      some ⟨m.presence.isOptional, m.type.isCopy, held m.identifier⟩ := by
  rw [scopeOf, Scope.origin?, find?_declared hdistinct hm]
  rfl

/-- What is copied is taken over as it is, everything else as a clone. -/
theorem pair?_pairOf {s : Scope} {origin : Origin} {d : Content}
    (horigin : s.origin? origin = some d) (howned : d.isOwned = m.type.isCopy)
    (hthere : (d.isOptional || d.value.isSome) = true) :
    s.pair? (pairOf m origin) = some (m.column.name, d.value.getD .null) := by
  have htaken : (d.isOwned || !m.type.isCopy) = true := by rw [howned, Bool.or_not_self]
  simp [Scope.pair?, pairOf, Scope.operand?, horigin, Content.taken?, htaken, hthere]

theorem isSome_of_admits (h : m.declared.Admits (held m.identifier)) :
    (m.presence.isOptional || (held m.identifier).isSome) = true := by
  cases hvalue : held m.identifier with
  | none =>
    rw [hvalue] at h
    exact Bool.or_eq_true_iff.2 (.inl h)
  | some v => exact Bool.or_true _

theorem pair?_member (hdistinct : (ms.map Member.identifier).Nodup) (hm : m ∈ ms)
    (h : m.declared.Admits (held m.identifier)) :
    (scopeOf ms held).pair? (pairOf m (.member m.identifier)) =
      some (m.column.name, (held m.identifier).getD .null) := by
  have horigin : (scopeOf ms held).origin? (.member m.identifier) =
      some ⟨m.presence.isOptional, m.type.isCopy, held m.identifier⟩ := origin?_member hdistinct hm
  have hthere := isSome_of_admits h
  generalize held m.identifier = value at horigin hthere ⊢
  exact pair?_pairOf horigin rfl hthere

/-- **A statement lists what its member binds**, behind what is listed before it. -/
theorem step?_statementOf (hdistinct : (ms.map Member.identifier).Nodup) (hm : m ∈ ms)
    (h : m.declared.Admits (held m.identifier)) (fields : Fields) :
    (scopeOf ms held).step? fields (statementOf m) =
      some (fields ++ (m.field? (held m.identifier)).toList) := by
  rw [statementOf, Member.field?]
  cases hpresence : m.presence with
  | required nullable =>
    simp only [Scope.step?]
    rw [pair?_member hdistinct hm h]
    rfl
  | omittable =>
    have hoptional : m.presence.isOptional = true := by rw [hpresence]; rfl
    have hmatched : (!m.type.isCopy || m.type.isCopy) = true := by simp
    simp only [Scope.step?]
    rw [origin?_member hdistinct hm, Option.bind_some]
    simp only [hoptional, hmatched, Bool.and_self, if_true]
    cases hvalue : held m.identifier with
    | none => simp
    | some v =>
      have hpair : ((scopeOf ms held).withBound "value" ⟨false, m.type.isCopy, some v⟩).pair?
          (pairOf m (.bound "value")) = some (m.column.name, v) :=
        pair?_pairOf (d := ⟨false, m.type.isCopy, some v⟩) rfl rfl rfl
      simp [hpair]

/-- Statements list what their members bind. -/
theorem foldlM_statementOf (hdistinct : (ms.map Member.identifier).Nodup)
    (h : ∀ m ∈ ms, m.declared.Admits (held m.identifier)) {l : List Member} (hl : ∀ m ∈ l, m ∈ ms)
    (fields : Fields) :
    (l.map statementOf).foldlM (scopeOf ms held).step? fields =
      some (fields ++ l.filterMap fun m => m.field? (held m.identifier)) := by
  induction l generalizing fields with
  | nil => simp
  | cons m l ih =>
    obtain ⟨hm, hl⟩ := List.forall_mem_cons.1 hl
    rw [List.map_cons, List.foldlM_cons, step?_statementOf hdistinct hm (h m hm), Option.bind_eq_bind,
      Option.bind_some, ih hl, List.append_assoc, List.filterMap_cons]
    cases m.field? (held m.identifier) <;> rfl

/-- **The method lists what the members bind.** -/
theorem run?_bodyOf (hdistinct : (ms.map Member.identifier).Nodup)
    (h : ∀ m ∈ ms, m.declared.Admits (held m.identifier)) :
    (scopeOf ms held).run? (bodyOf ms) =
      some (ms.filterMap fun m => m.field? (held m.identifier)) := by
  rw [bodyOf]
  split
  · rename_i hrequired
    have hfields : ∀ m ∈ ms, m.field? (held m.identifier) =
        some (m.column.name, (held m.identifier).getD .null) := by
      intro m hm
      have hpresence := List.all_eq_true.1 hrequired m hm
      rw [decide_eq_true_eq] at hpresence
      rw [Member.field?]
      cases hcase : m.presence with
      | required nullable => rfl
      | omittable => exact absurd hcase hpresence
    rw [List.filterMap_eq_map_iff_forall_eq_some.2 hfields, Scope.run?, List.mapM_map]
    exact mapM_eq_some fun m hm => pair?_member hdistinct hm (h m hm)
  · exact foldlM_statementOf hdistinct h (fun _ hm => hm) []

end Run

end FieldsMethod

/-- The parameter struct of a role. -/
def roleStruct (role : Role) (t : Table) : ParameterStruct :=
  ⟨(members role t).map Member.declared, FieldsMethod.bodyOf (members role t)⟩

/-- **The method of a parameter struct lists what the struct binds.** -/
theorem fields?_roleStruct {role : Role} {t : Table}
    (hdistinct : ((members role t).map Member.identifier).Nodup) {held : Held}
    (h : (roleStruct role t).Admits held) : (roleStruct role t).fields? held =
      some (boundFields role t fun c => held (fieldIdentifier c)) := by
  have hadmits : ∀ m ∈ members role t, m.declared.Admits (held m.identifier) := by
    intro m hm
    have hm := h m.declared (List.mem_map.2 ⟨m, hm, rfl⟩)
    rwa [Member.declared_name] at hm
  have hrun := FieldsMethod.run?_bodyOf hdistinct hadmits
  simp only [Member.identifier] at hrun
  exact hrun

theorem parameterStruct?_moduleTrees {path : List Tree} (hpath : ∀ t ∈ path, IsPathPart t)
    (derives : List Tree) {tables : List Table} (script : String) (h : ItemsDistinct tables)
    {t : Table} (ht : t ∈ tables) (role : Role) :
    parameterStruct? (structName role t) (moduleTrees path derives tables script) =
      some (roleStruct role t) := by
  have hmethod : ∀ ms, named "fn" "fields" (methodTrees ms) =
      [([.group .round [.mark '&', .word "self"], .mark '-', .mark '>', .word "rt", .mark ':',
        .mark ':', .word "Fields"], fieldsTrees ms)] := fun _ => rfl
  have hmembers : (parts (memberListTrees (members role t))).mapM readMember? =
      some ((members role t).map Member.declared) := by
    rw [memberListTrees, parts_flatMap fun m _ => commaFree_memberTrees m, List.mapM_map]
    exact mapM_eq_some fun m _ => readMember?_memberTrees m
  rw [parameterStruct?, named_struct hpath derives script h ht,
    implementations_struct hpath derives script h ht]
  simp only [hmethod, hmembers, FieldsMethod.readBody?_fieldsTrees]
  rfl

end Tablewright.AccessModule
