import Mathlib.Data.List.Nodup
import Tablewright.Proofs.AccessModule.SourceParts

/-!
# Items of source read back

The trees of a source text are cut into items (`items`): what stands in front of a semicolon or of
braces, and what the braces hold. Items are found by their keyword and name (`named`), the constant
that a path leads to through modules is looked up (`resolve`), and an expression that is a literal or
such a path denotes a text (`denoted?`). Lists are cut at their commas (`parts`), a `match` is
answered by its first arm that fits (`answerTo?`), and the arguments of a call are found by the name
of the function (`callArguments?`). What stands anywhere in an item is found token by token (`scan`).

`Itemized` and `Scanned` say what a piece of source contributes, whatever follows it, so that pieces
can be put together.
-/

namespace Tablewright.AccessModule

/-! ## Items -/

/-- An item of a module: what stands in front of its semicolon or braces, without attributes, and
what the braces hold. -/
structure Item where
  head : List Tree
  body : List Tree

/-- Whether trees are the mark in front of the brackets of an attribute. -/
def isAttributeMark : List Tree → Bool
  | [.mark c] => c == '#'
  | _ => false

/-- The items of trees, where `head` stands in front of the first tree. -/
def itemsFrom (head : List Tree) : List Tree → List Item
  | [] => []
  | .mark c :: rest =>
    if c == ';' then ⟨head, []⟩ :: itemsFrom [] rest else itemsFrom (head ++ [.mark c]) rest
  | .group .curly inner :: rest => ⟨head, inner⟩ :: itemsFrom [] rest
  | .group .square inner :: rest =>
    if isAttributeMark head then itemsFrom [] rest
    else itemsFrom (head ++ [.group .square inner]) rest
  | .group .round inner :: rest => itemsFrom (head ++ [.group .round inner]) rest
  | .word name :: rest => itemsFrom (head ++ [.word name]) rest
  | .text content :: rest => itemsFrom (head ++ [.text content]) rest

/-- The items of trees. -/
def items (ts : List Tree) : List Item :=
  itemsFrom [] ts

/-- Trees are whole items. -/
def Itemized (ts : List Tree) (is : List Item) : Prop :=
  ∀ rest, items (ts ++ rest) = is ++ items rest

namespace Itemized

variable {ts us : List Tree} {is js : List Item}

theorem items_eq (h : Itemized ts is) : items ts = is := by
  have hall := h []
  rwa [List.append_nil, show items [] = [] from rfl, List.append_nil] at hall

theorem append (h : Itemized ts is) (h' : Itemized us js) : Itemized (ts ++ us) (is ++ js) := by
  intro rest
  rw [List.append_assoc, h, h', List.append_assoc]

theorem flatMap {α : Type} {l : List α} {f : α → List Tree} {g : α → List Item}
    (h : ∀ a ∈ l, Itemized (f a) (g a)) : Itemized (l.flatMap f) (l.flatMap g) := by
  induction l with
  | nil => exact fun _ => rfl
  | cons a l ih =>
    obtain ⟨ha, hl⟩ := List.forall_mem_cons.1 h
    rw [List.flatMap_cons, List.flatMap_cons]
    exact ha.append (ih hl)

theorem map {α : Type} {l : List α} {f : α → List Tree} {g : α → Item}
    (h : ∀ a ∈ l, Itemized (f a) [g a]) : Itemized (l.flatMap f) (l.map g) := by
  rw [List.map_eq_flatMap]
  exact flatMap h

end Itemized

/-! ## Items by name -/

/-- A public item of a kind. -/
def Item.public (keyword name : String) (rest body : List Tree) : Item :=
  ⟨.word "pub" :: .word keyword :: .word name :: rest, body⟩

/-- What follows the name of a public item in front of its semicolon or braces, and what its braces
hold, if it is of the kind and has the name. The lone underscore is no name. -/
def Item.named? (keyword name : String) (i : Item) : Option (List Tree × List Tree) :=
  match i.head with
  | .word p :: .word k :: .word n :: rest =>
    if p = "pub" ∧ k = keyword ∧ n = name ∧ n ≠ "_" then some (rest, i.body) else none
  | _ => none

/-- The public items of a kind and a name. -/
def named (keyword name : String) (ts : List Tree) : List (List Tree × List Tree) :=
  (items ts).filterMap (Item.named? keyword name)

/-- What the braces of the implementation of a type hold. -/
def Item.implementation? (type : String) (i : Item) : Option (List Tree) :=
  match i.head with
  | [.word k, .word n] => if k = "impl" ∧ n = type then some i.body else none
  | _ => none

/-- The implementations of a type, traits apart. -/
def implementations (type : String) (ts : List Tree) : List (List Tree) :=
  (items ts).filterMap (Item.implementation? type)

theorem named?_public (keyword name k n : String) (rest body : List Tree) :
    (Item.public k n rest body).named? keyword name =
      if k = keyword ∧ n = name ∧ n ≠ "_" then some (rest, body) else none := by
  simp [Item.named?, Item.public]

theorem named?_of_ne (keyword name : String) {p : String} (hp : p ≠ "pub") (rest body : List Tree) :
    Item.named? keyword name ⟨.word p :: rest, body⟩ = none := by
  rw [Item.named?]
  split
  · rename_i heq
    simp only [List.cons.injEq, Tree.word.injEq] at heq
    rw [if_neg]
    rintro ⟨rfl, -⟩
    exact hp heq.1
  · rfl

theorem implementation?_impl (type n : String) (body : List Tree) :
    Item.implementation? type ⟨[.word "impl", .word n], body⟩ = if n = type then some body else none := by
  simp [Item.implementation?]

theorem implementation?_of_ne (type : String) {p : String} (hp : p ≠ "impl") (rest body : List Tree) :
    Item.implementation? type ⟨.word p :: rest, body⟩ = none := by
  rw [Item.implementation?]
  split
  · rename_i heq
    simp only [List.cons.injEq, Tree.word.injEq] at heq
    rw [if_neg]
    rintro ⟨rfl, -⟩
    exact hp heq.1
  · rfl

/-- Among entries with different keys, one is found by its key. -/
theorem flatMap_key {α β : Type} {key : α → String} {l : List α} (h : (l.map key).Nodup)
    (f : α → β) {a : α} (ha : a ∈ l) :
    l.flatMap (fun b => if key b = key a then [f b] else []) = [f a] := by
  induction l with
  | nil => cases ha
  | cons b l ih =>
    rw [List.map_cons, List.nodup_cons] at h
    rw [List.flatMap_cons]
    rcases List.mem_cons.1 ha with rfl | ha
    · have hnone : l.flatMap (fun b => if key b = key a then [f b] else []) = [] := by
        rw [List.flatMap_eq_nil_iff]
        intro b hb
        rw [if_neg]
        exact fun heq => h.1 (List.mem_map.2 ⟨b, hb, heq⟩)
      rw [if_pos rfl, hnone, List.append_nil]
    · have hne : key b ≠ key a := fun heq => h.1 (List.mem_map.2 ⟨a, ha, heq.symm⟩)
      rw [if_neg hne, List.nil_append, ih h.2 ha]

/-- A public item is found by its name among items of a kind with different names. -/
theorem named_key {α : Type} {ts : List Tree} {keyword : String} {key : α → String}
    {rest body : α → List Tree} {l : List α} {others : List Item}
    (hitems : items ts = l.map (fun a => .public keyword (key a) (rest a) (body a)) ++ others)
    (hkeys : (l.map key).Nodup) {a : α} (ha : a ∈ l) (hname : key a ≠ "_")
    (hothers : others.filterMap (Item.named? keyword (key a)) = []) :
    named keyword (key a) ts = [(rest a, body a)] := by
  have hfound : ∀ b, (Item.public keyword (key b) (rest b) (body b)).named? keyword (key a) =
      if key b = key a then some (rest b, body b) else none := by
    intro b
    rw [named?_public]
    by_cases hkey : key b = key a <;> simp [hkey, hname]
  rw [named, hitems, List.filterMap_append, hothers, List.append_nil, List.filterMap_map,
    List.filterMap_eq_flatMap_toList]
  simp only [Function.comp_def, hfound]
  rw [← flatMap_key hkeys (fun b => (rest b, body b)) ha]
  refine List.flatMap_congr fun b _ => ?_
  split <;> rfl

/-! ## Constants and paths -/

/-- Whether a tree is the mark. -/
def Tree.isMark (c : Char) : Tree → Bool
  | .mark d => d == c
  | _ => false

/-- The values of the constants of a name. -/
def constantValues (name : String) (ts : List Tree) : List (List Tree) :=
  (named "const" name ts).map fun p => (p.1.dropWhile fun t => !t.isMark '=').tail

/-- The values of the constants that a path leads to, through public modules. -/
def resolve : List String → List Tree → List (List Tree)
  | [], _ => []
  | [name], ts => constantValues name ts
  | name :: next :: path, ts => (named "mod" name ts).flatMap fun p => resolve (next :: path) p.2

/-- A path of names. -/
def readPath? : List Tree → Option (List String)
  | [.word name] => some [name]
  | .word name :: .mark c :: .mark d :: rest =>
    if c = ':' ∧ d = ':' then (readPath? rest).map (name :: ·) else none
  | _ => none

/-- The text of values that are one literal. -/
def literal? : List (List Tree) → Option String
  | [[.text content]] => some content
  | _ => none

/-- The text that an expression denotes: a literal, or a path that leads to one. -/
def denoted? (root : List Tree) (expression : List Tree) : Option String :=
  match readPath? expression with
  | some path => literal? (resolve path root)
  | none => literal? [expression]

/-! ## Lists -/

/-- The parts of trees between commas, where `part` stands in front of the first tree. -/
def partsFrom (part : List Tree) : List Tree → List (List Tree)
  | [] => if part.isEmpty then [] else [part]
  | t :: rest => if t.isMark ',' then part :: partsFrom [] rest else partsFrom (part ++ [t]) rest

/-- The parts of trees between commas; behind the last comma nothing has to follow. -/
def parts (ts : List Tree) : List (List Tree) :=
  partsFrom [] ts

/-- Whether no comma stands among trees. -/
def commaFree (ts : List Tree) : Bool :=
  ts.all fun t => !t.isMark ','

theorem partsFrom_append {ts : List Tree} (h : commaFree ts = true) (part rest : List Tree) :
    partsFrom part (ts ++ rest) = partsFrom (part ++ ts) rest := by
  induction ts generalizing part with
  | nil => simp
  | cons t ts ih =>
    rw [commaFree, List.all_cons, Bool.and_eq_true, Bool.not_eq_true'] at h
    rw [List.cons_append, partsFrom, h.1, if_neg Bool.false_ne_true, ih h.2, List.append_assoc]
    rfl

theorem parts_append_comma {ts : List Tree} (h : commaFree ts = true) (rest : List Tree) :
    parts (ts ++ .mark ',' :: rest) = ts :: parts rest := by
  rw [parts, partsFrom_append h]
  rfl

/-- A list with a comma behind every part. -/
theorem parts_flatMap {α : Type} {l : List α} {f : α → List Tree}
    (h : ∀ a ∈ l, commaFree (f a) = true) :
    parts (l.flatMap fun a => f a ++ [.mark ',']) = l.map f := by
  induction l with
  | nil => rfl
  | cons a l ih =>
    obtain ⟨ha, hl⟩ := List.forall_mem_cons.1 h
    rw [List.flatMap_cons, List.append_assoc, List.singleton_append, parts_append_comma ha, ih hl,
      List.map_cons]

/-- A list with a comma between any two parts. -/
theorem parts_commaTrees {α : Type} {l : List α} {f : α → List Tree}
    (h : ∀ a ∈ l, f a ≠ [] ∧ commaFree (f a) = true) : parts (commaTrees (l.map f)) = l.map f := by
  induction l with
  | nil => rfl
  | cons a l ih =>
    obtain ⟨⟨hne, ha⟩, hl⟩ := List.forall_mem_cons.1 h
    cases l with
    | nil =>
      have hlast := partsFrom_append ha [] []
      rw [List.append_nil, List.nil_append, partsFrom, List.isEmpty_eq_false_iff.2 hne,
        if_neg Bool.false_ne_true] at hlast
      simpa [commaTrees, parts] using hlast
    | cons a' l =>
      have htrees : commaTrees ((a :: a' :: l).map f) =
          f a ++ .mark ',' :: commaTrees ((a' :: l).map f) := by
        simp [commaTrees, List.intercalate_cons_cons]
      rw [htrees, parts_append_comma ha, ih hl]
      rfl

/-! ## Matches and calls -/

/-- An arm of a match: the path that is its pattern, and its answer. -/
def readArm? (part : List Tree) : Option (List String × List Tree) :=
  match part.dropWhile fun t => !t.isMark '=' with
  | .mark c :: .mark d :: answer =>
    if c = '=' ∧ d = '>' then
      (readPath? (part.takeWhile fun t => !t.isMark '=')).map fun pattern => (pattern, answer)
    else none
  | _ => none

/-- The answer of the first arm whose pattern is the path, if all arms up to it can be read. -/
def firstAnswer? (path : List String) : List (List Tree) → Option (List Tree)
  | [] => none
  | part :: rest =>
    match readArm? part with
    | none => none
    | some (pattern, answer) => if pattern = path then some answer else firstAnswer? path rest

/-- What a body answers to a path by one match on `self`. -/
def answerTo? (path : List String) : List Tree → Option (List Tree)
  | [.word k, .word s, .group .curly arms] =>
    if k = "match" ∧ s = "self" then firstAnswer? path (parts arms) else none
  | _ => none

/-- Among arms with different patterns, each path gets its own answer. -/
theorem firstAnswer?_eq_some {α : Type} {part : α → List Tree} {pattern : α → List String}
    {answer : α → List Tree} {l : List α}
    (hread : ∀ a ∈ l, readArm? (part a) = some (pattern a, answer a)) (h : (l.map pattern).Nodup)
    {a : α} (ha : a ∈ l) : firstAnswer? (pattern a) (l.map part) = some (answer a) := by
  induction l with
  | nil => cases ha
  | cons b l ih =>
    rw [List.map_cons, List.nodup_cons] at h
    obtain ⟨hb, hl⟩ := List.forall_mem_cons.1 hread
    rw [List.map_cons, firstAnswer?, hb]
    rcases List.mem_cons.1 ha with rfl | ha
    · exact if_pos rfl
    · have hne : pattern b ≠ pattern a := fun heq => h.1 (List.mem_map.2 ⟨a, ha, heq.symm⟩)
      exact (if_neg hne).trans (ih hl h.2 ha)

/-- The arguments of the first call of a function. -/
def callArguments? (name : String) : List Tree → Option (List (List Tree))
  | .word n :: .group .round inner :: rest =>
    if n = name then some (parts inner) else callArguments? name rest
  | _ :: rest => callArguments? name rest
  | [] => none

/-- The entries of values that are one reference to a list. -/
def entries : List (List Tree) → List (List Tree)
  | [[.mark c, .group .square inner]] => if c = '&' then parts inner else []
  | _ => []

/-! ## Tokens of items -/

/-- The tokens of an item. Imports have none here: the paths they hold come from elsewhere. -/
def Item.tokens (i : Item) : List Token :=
  match i.head with
  | .word k :: rest =>
    if k = "use" then [] else flatten (.word k :: rest ++ [.group .curly i.body])
  | head => flatten (head ++ [.group .curly i.body])

/-- What is found among the tokens of all items. -/
def foundIn {α : Type} (find : List Token → List α) (root : List Tree) : List α :=
  (items root).flatMap fun i => find i.tokens

/-- What is found among tokens, whatever follows them. -/
def Scanned {α : Type} (find : List Token → List α) (ts : List Token) (found : List α) : Prop :=
  ∀ rest, find (ts ++ rest) = found ++ find rest

namespace Scanned

variable {α β : Type} {find : List Token → List α} {ts us : List Token} {found more : List α}

theorem find_eq (h : Scanned find ts found) (hempty : find [] = []) : find ts = found := by
  have hall := h []
  rwa [List.append_nil, hempty, List.append_nil] at hall

theorem append (h : Scanned find ts found) (h' : Scanned find us more) :
    Scanned find (ts ++ us) (found ++ more) := by
  intro rest
  rw [List.append_assoc, h, h', List.append_assoc]

theorem flatMap {l : List β} {f : β → List Token} {g : β → List α}
    (h : ∀ b ∈ l, Scanned find (f b) (g b)) : Scanned find (l.flatMap f) (l.flatMap g) := by
  induction l with
  | nil => exact fun _ => rfl
  | cons b l ih =>
    obtain ⟨hb, hl⟩ := List.forall_mem_cons.1 h
    rw [List.flatMap_cons, List.flatMap_cons]
    exact hb.append (ih hl)

theorem flatMap_nil {l : List β} {f : β → List Token} (h : ∀ b ∈ l, Scanned find (f b) []) :
    Scanned find (l.flatMap f) [] := by
  have hall := flatMap h
  rwa [List.flatMap_eq_nil_iff.2 fun _ _ => rfl] at hall

/-- What stands between brackets. -/
theorem group {inner : List Tree} {b : Bracket} (hopen : Scanned find [.opening b] [])
    (h : Scanned find (flatten inner) found) (hclose : Scanned find [.closing b] []) :
    Scanned find (flatten [.group b inner]) found := by
  simpa [Tree.tokens] using (hopen.append h).append hclose

/-- What is found in an item: in front of its braces and between them. -/
theorem item {i : Item} {k : String} {rest : List Tree} (hi : i.head = .word k :: rest)
    (hk : k ≠ "use") (hhead : Scanned find (flatten i.head ++ [.opening .curly]) found)
    (hbody : Scanned find (flatten i.body) more) (hclose : Scanned find [.closing .curly] []) :
    Scanned find i.tokens (found ++ more) := by
  have htokens : i.tokens = flatten i.head ++ [.opening .curly] ++ flatten i.body ++
      [.closing .curly] := by
    simp [Item.tokens, hi, hk, Tree.tokens]
  simpa [htokens] using (hhead.append hbody).append hclose

end Scanned

end Tablewright.AccessModule
