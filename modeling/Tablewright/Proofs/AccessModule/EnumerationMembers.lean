import Tablewright.Proofs.AccessModule.LegalNames
import Tablewright.Proofs.AccessModule.Resolution

/-!
# Members of the enumeration of columns

A path into the enumeration of columns leads to a variant, or to an item of its implementation: the
list of all columns or a method (`meanings`). Of ASCII names no variant has the name of a method,
which begins in lower case. A variant is made of two names, each with a capital in front of every
word, so it is `ALL` exactly if the words of the table and of the column are single letters that spell
it (`variant_eq_all_iff`). The check of collisions looks at the name of the table alone, so it passes
such a column, and then the path of the list means the variant as well (`variant_shadows_all`); else
every path means one thing (`meanings_unique_iff`).
-/

namespace Tablewright.Naming

open Text AccessModule

variable {name : String}

/-! ## Names of capitals -/

theorem isUpper_of_isWordChar : ∀ n : Fin 128, isWordChar (Char.ofNat n) = true →
    (Char.ofNat n).isUpper = false := by
  decide

theorem not_isUpper_of_isWordChar {c : Char} (h : isWordChar c = true) : c.isUpper = false := by
  obtain ⟨n, rfl⟩ := exists_fin_of_isAscii (isAscii_of_isSnakeChar (isSnakeChar_of_isWordChar h))
  exact isUpper_of_isWordChar n h

/-- A capitalized word without lower-case letters and digits is one letter. -/
theorem eq_singleton_of_capitalize {w : List Char} (h : w ≠ [] ∧ ∀ c ∈ w, isWordChar c = true)
    (hupper : ∀ c ∈ capitalize w, c.isUpper = true) : ∃ c, capitalize w = [c] ∧ w = [c.toLower] := by
  obtain ⟨c, rest, rfl⟩ := List.exists_cons_of_ne_nil h.1
  obtain ⟨hc, hrest⟩ := List.forall_mem_cons.1 h.2
  have hsnake := isSnakeChar_of_isWordChar hc
  have hcapital : capitalize (c :: rest) = c.toUpper :: rest := by
    rw [capitalize, uppercase, if_pos (isAscii_of_isSnakeChar hsnake)]
    rfl
  rw [hcapital, List.forall_mem_cons] at hupper
  have hnil : rest = [] := by
    refine List.eq_nil_iff_forall_not_mem.2 fun d hd => ?_
    have hlower := not_isUpper_of_isWordChar (hrest d hd)
    exact Bool.false_ne_true (hlower.symm.trans (hupper.2 d hd))
  obtain ⟨n, rfl⟩ := exists_fin_of_isAscii (isAscii_of_isSnakeChar hsnake)
  exact ⟨_, by rw [hcapital, hnil], by rw [hnil, toLower_toUpper n hsnake]⟩

/-- **A name that becomes capitals alone has words of one letter.** -/
theorem words_of_capitals (h : IsAsciiName name) {cs : List Char}
    (hcamel : upperCamelChars name.toList = cs) (hall : cs.all Char.isUpper = true) :
    words name.toList = cs.map fun c => [c.toLower] := by
  have hupper : ∀ c ∈ cs, c.isUpper = true := List.all_eq_true.1 hall
  have hletters : ∀ ws : List (List Char), (∀ w ∈ ws, w ≠ [] ∧ ∀ c ∈ w, isWordChar c = true) →
      (∀ c ∈ ws.flatMap capitalize, c.isUpper = true) →
      ws = (ws.flatMap capitalize).map fun c => [c.toLower] := by
    intro ws hws hall
    induction ws with
    | nil => rfl
    | cons w ws ih =>
      obtain ⟨hw, hws⟩ := List.forall_mem_cons.1 hws
      rw [List.flatMap_cons, List.forall_mem_append] at hall
      obtain ⟨c, hcapital, hword⟩ := eq_singleton_of_capitalize hw hall.1
      rw [List.flatMap_cons, hcapital, List.singleton_append, List.map_cons, ← hword,
        ← ih hws hall.2]
  rw [upperCamelChars] at hcamel
  rcases guardLeadingDigit_cases ((words name.toList).flatMap capitalize) with hguard | hguard
  · rw [hguard] at hcamel
    subst hcamel
    exact hletters _ (isWordChar_of_mem_words h) hupper
  · rw [hguard] at hcamel
    have hunderscore : '_'.isUpper = true := hupper '_' (hcamel ▸ List.mem_cons_self)
    exact absurd hunderscore (by decide)

/-! ## Variants -/

theorem toList_variant (t : Table) (c : Column) :
    (variant t c).toList = upperCamelChars t.name.toList ++ upperCamelChars c.name.toList := by
  rw [variant, String.toList_append, upperCamelCase, upperCamelCase, String.toList_ofList,
    String.toList_ofList]

/-- The words of a table and of a column are the letters of `ALL`, with at least one for each. -/
def SpellsAll (t : Table) (c : Column) : Prop :=
  (words t.name.toList = [['a']] ∧ words c.name.toList = [['l'], ['l']]) ∨
    (words t.name.toList = [['a'], ['l']] ∧ words c.name.toList = [['l']])

instance (t : Table) (c : Column) : Decidable (SpellsAll t c) :=
  inferInstanceAs (Decidable (_ ∨ _))

variable {t : Table} {c : Column}

/-- **A variant is `ALL` exactly if the words of its names spell it.** -/
theorem variant_eq_all_iff (ht : IsAsciiName t.name) (hc : IsAsciiName c.name) :
    variant t c = "ALL" ↔ SpellsAll t c := by
  have hall : "ALL".toList = ['A', 'L', 'L'] := String.toList_ofList
  rw [← String.toList_inj, toList_variant, hall]
  constructor
  · intro heq
    obtain ⟨d, front, htable, -, -⟩ := exists_upperCamel_head ht
    obtain ⟨e, behind, hcolumn, -, -⟩ := exists_upperCamel_head hc
    rw [htable, hcolumn] at heq
    -- the three letters are cut behind the first one or behind the second one
    rcases front with _ | ⟨f, _ | ⟨g, front⟩⟩
    · simp only [List.cons_append, List.nil_append, List.cons.injEq] at heq
      obtain ⟨rfl, rfl, rfl⟩ := heq
      exact .inl ⟨words_of_capitals ht htable (by decide), words_of_capitals hc hcolumn (by decide)⟩
    · simp only [List.cons_append, List.nil_append, List.cons.injEq] at heq
      obtain ⟨rfl, rfl, rfl, rfl⟩ := heq
      exact .inr ⟨words_of_capitals ht htable (by decide), words_of_capitals hc hcolumn (by decide)⟩
    · simp at heq
  · rintro (⟨htable, hcolumn⟩ | ⟨htable, hcolumn⟩) <;>
      · rw [upperCamelChars, upperCamelChars, htable, hcolumn]
        decide

/-- A variant begins with a capital or an underscore. -/
theorem variant_ne_of_isLower (ht : IsAsciiName t.name) (hlower : name.toList.head?.any Char.isLower = true) :
    variant t c ≠ name := by
  rintro rfl
  obtain ⟨d, front, htable, -, hd⟩ := exists_upperCamel_head ht
  rw [toList_variant, htable, List.cons_append, List.head?_cons, Option.any_some] at hlower
  exact Bool.false_ne_true (hd.symm.trans hlower)

end Tablewright.Naming

namespace Tablewright.AccessModule

open Naming

/-! ## Reading members -/

/-- What a path into the enumeration of columns may mean. -/
inductive Meaning
  | variant
  /-- An item of the implementation: a constant or a method. -/
  | item (i : Item)

/-- The items of the implementations of the enumeration. -/
def associatedItems (root : List Tree) : List Item :=
  (implementations "AllColumns" root).flatMap items

/-- The names of these items. -/
def associatedNames (root : List Tree) : List String :=
  (associatedItems root).filterMap Item.name?

/-- All that the path of a name may mean: the variants and the items of that name. -/
def meanings (name : String) (root : List Tree) : List Meaning :=
  ((declaredVariants root).filter (· = some [name])).map (fun _ => .variant) ++
    ((associatedItems root).filter (·.name? = some name)).map .item

/-- No variant has the name of an item. -/
def IsUnshadowed (root : List Tree) : Prop :=
  ∀ v ∈ declaredVariants root, ∀ name ∈ associatedNames root, v ≠ some [name]

/-! ## The members of a generated module -/

/-- Among different names, one is found once at most. -/
theorem filter_paths {names : List String} (h : names.Nodup) (name : String) :
    (names.map fun v => some [v]).filter (· = some [name]) =
      if name ∈ names then [some [name]] else [] := by
  induction names with
  | nil => rfl
  | cons v names ih =>
    obtain ⟨hv, hnames⟩ := List.nodup_cons.1 h
    rw [List.map_cons, List.filter_cons, ih hnames]
    by_cases heq : v = name
    · subst heq
      simp [hv]
    · simp [heq, Ne.symm heq]

/-- The names of the items of the enumeration. -/
def memberNames : List String :=
  ["ALL", "as_str", "column_name", "alias"]

theorem isLower_memberNames : ∀ name ∈ memberNames, name ≠ "ALL" →
    name.toList.head?.any Char.isLower = true := by
  decide

/-- Variants of ASCII names are told apart from the names of items. -/
theorem variant_mem_memberNames_iff {t : Table} {c : Column} (ht : IsAsciiName t.name)
    (hc : IsAsciiName c.name) : variant t c ∈ memberNames ↔ SpellsAll t c := by
  rw [← variant_eq_all_iff ht hc]
  constructor
  · intro hmem
    by_contra hne
    exact variant_ne_of_isLower ht (isLower_memberNames _ hmem hne) rfl
  · intro heq
    rw [heq]
    decide

section Module

variable {path : List Tree} (hpath : ∀ t ∈ path, IsPathPart t) (derives : List Tree)
  {tables : List Table} (script : String)

include hpath

theorem associatedItems_moduleTrees (tables : List Table) :
    associatedItems (moduleTrees path derives tables script) =
      [variantListItem tables, byVariantItem tables "as_str" columnTrees,
        byVariantItem tables "column_name" fun p => [.text p.2.name], aliasItem] := by
  rw [associatedItems, implementations_enumeration hpath, List.flatMap_singleton,
    items_enumerationBodyTrees]

theorem associatedNames_moduleTrees (tables : List Table) :
    associatedNames (moduleTrees path derives tables script) = memberNames := by
  rw [associatedNames, associatedItems_moduleTrees hpath]
  rfl

theorem meanings_moduleTrees (h : ((allColumns tables).map fun p => variant p.1 p.2).Nodup)
    (name : String) : meanings name (moduleTrees path derives tables script) =
      (if name ∈ (allColumns tables).map (fun p => variant p.1 p.2) then [.variant] else []) ++
        ([variantListItem tables, byVariantItem tables "as_str" columnTrees,
          byVariantItem tables "column_name" fun p => [.text p.2.name], aliasItem].filter
            (·.name? = some name)).map .item := by
  have hvariants : declaredVariants (moduleTrees path derives tables script) =
      ((allColumns tables).map fun p => variant p.1 p.2).map fun v => some [v] := by
    rw [declaredVariants_moduleTrees hpath, List.map_map]
    rfl
  rw [meanings, hvariants, filter_paths h, associatedItems_moduleTrees hpath]
  split <;> rfl

/-- A name has a meaning as a variant, and one as an item. -/
theorem length_meanings (h : ((allColumns tables).map fun p => variant p.1 p.2).Nodup)
    (name : String) : (meanings name (moduleTrees path derives tables script)).length =
      (if name ∈ (allColumns tables).map (fun p => variant p.1 p.2) then 1 else 0) +
        if name ∈ memberNames then 1 else 0 := by
  have hnames : [variantListItem tables, byVariantItem tables "as_str" columnTrees,
      byVariantItem tables "column_name" fun p => [.text p.2.name], aliasItem].filterMap Item.name? =
        memberNames :=
    rfl
  have hitems : ([variantListItem tables, byVariantItem tables "as_str" columnTrees,
      byVariantItem tables "column_name" fun p => [.text p.2.name], aliasItem].filter
        (·.name? = some name)).length = memberNames.count name := by
    rw [← hnames, List.count_filterMap, List.countP_eq_length_filter]
    refine congrArg List.length (List.filter_congr fun i _ => ?_)
    exact Bool.eq_iff_iff.2 (by rw [decide_eq_true_eq, beq_iff_eq])
  have hcount : memberNames.count name = if name ∈ memberNames then 1 else 0 :=
    List.Nodup.count (by decide)
  rw [meanings_moduleTrees hpath derives script h, List.length_append, List.length_map, hitems, hcount]
  split <;> rfl

end Module

theorem ascii_of_mem_allColumns {tables : List Table} (h : AsciiNames tables) {p : Table × Column}
    (hp : p ∈ allColumns tables) : IsAsciiName p.1.name ∧ IsAsciiName p.2.name := by
  obtain ⟨t, ht, hmem⟩ := List.mem_flatMap.1 hp
  obtain ⟨c, hc, rfl⟩ := List.mem_map.1 hmem
  exact ⟨(h t ht).1, (h t ht).2 c hc⟩

/-- **Every path into the enumeration means one thing exactly if no column of the schema spells
`ALL`** with its table, where the names are ASCII and pass the check of collisions; and then the path
of the list leads to all columns. -/
theorem meanings_unique_iff {tables : List Table} {options : GeneratorOptions} (script : String)
    (hascii : AsciiNames tables) (hcheck : checkCollisions tables = .ok ())
    (hoptions : options.check = .ok ()) :
    ∃ m root, generate tables script options = .ok m ∧
      (moduleBlock tables script options).trees? = some root ∧
      ((∀ t ∈ tables, KeepsToComments t.name) → readSource m.render = some root) ∧
      declaredVariants root = (allColumns tables).map (fun p => some [variant p.1 p.2]) ∧
      associatedNames root = ["ALL", "as_str", "column_name", "alias"] ∧
      (IsUnshadowed root ↔ ∀ p ∈ allColumns tables, ¬SpellsAll p.1 p.2) ∧
      ((∀ name, (meanings name root).length ≤ 1) ↔ IsUnshadowed root) ∧
      (IsUnshadowed root → meanings "ALL" root = [.item (variantListItem tables)]) ∧
      listedVariants root = (allColumns tables).map fun p => some ["AllColumns", variant p.1 p.2] := by
  have hgenerate : generate tables script options = .ok (ofTables tables script options) :=
    generate_eq_ok_iff.2 ⟨hoptions, hcheck, rfl⟩
  have hdistinct := (distinct_of_checkCollisions hcheck).variants
  obtain ⟨path, derives, hpath, hblock, -, hread⟩ := exists_moduleTrees hgenerate
  have hvariants := declaredVariants_moduleTrees hpath derives tables script
  have hspells (p : Table × Column) (hp : p ∈ allColumns tables) :
      variant p.1 p.2 ∈ memberNames ↔ SpellsAll p.1 p.2 := by
    obtain ⟨ht, hc⟩ := ascii_of_mem_allColumns hascii hp
    exact variant_mem_memberNames_iff ht hc
  have hunshadowed : IsUnshadowed (moduleTrees path derives tables script) ↔
      ∀ p ∈ allColumns tables, ¬SpellsAll p.1 p.2 := by
    rw [IsUnshadowed, hvariants, associatedNames_moduleTrees hpath, List.forall_mem_map]
    refine forall₂_congr fun p hp => ?_
    rw [← hspells p hp]
    constructor
    · intro hne hmem
      exact hne _ hmem rfl
    · rintro hnot name hname heq
      simp only [Option.some.injEq, List.cons.injEq, and_true] at heq
      exact hnot (heq ▸ hname)
  have hlength := length_meanings hpath derives script hdistinct
  refine ⟨_, _, hgenerate, hblock, hread, hvariants, associatedNames_moduleTrees hpath derives script _,
    hunshadowed, ?_, ?_, listedVariants_moduleTrees hpath derives tables script⟩
  · rw [hunshadowed]
    constructor
    · intro hunique p hp hall
      have htwice := hlength (variant p.1 p.2)
      rw [if_pos (List.mem_map.2 ⟨p, hp, rfl⟩), if_pos ((hspells p hp).2 hall)] at htwice
      have hone := hunique (variant p.1 p.2)
      omega
    · intro hnone name
      rw [hlength name]
      by_cases hname : name ∈ (allColumns tables).map fun p => variant p.1 p.2
      · obtain ⟨p, hp, rfl⟩ := List.mem_map.1 hname
        have hnot : variant p.1 p.2 ∉ memberNames := fun hmem => hnone p hp ((hspells p hp).1 hmem)
        exact Nat.le_of_eq (by rw [if_pos hname, if_neg hnot])
      · rw [if_neg hname]
        split <;> omega
  · intro h
    have hall : "ALL" ∉ (allColumns tables).map fun p => variant p.1 p.2 := by
      intro hmem
      obtain ⟨p, hp, heq⟩ := List.mem_map.1 hmem
      refine hunshadowed.1 h p hp ((hspells p hp).1 ?_)
      rw [heq]
      decide
    rw [meanings_moduleTrees hpath derives script hdistinct, if_neg hall]
    rfl

/-- Tables with columns that almost spell `ALL`, as parts of a word or with too few letters. -/
def almostAllTables : List Table :=
  [⟨"a", [.declare "ll" .text false false false, .declare "L" .text false false false]⟩,
    ⟨"aL", [.declare "l2" .text false false false, .declare "as_str" .text false false false]⟩]

theorem meanings_unique_of_almostAllTables :
    ∃ m root, generate almostAllTables "" {} = .ok m ∧ readSource m.render = some root ∧
      declaredVariants root = [some ["ALl"], some ["AL"], some ["ALL2"], some ["ALAsStr"]] ∧
      meanings "ALL" root = [.item (variantListItem almostAllTables)] := by
  have hascii : AsciiNames almostAllTables := by decide +kernel
  have hcheck : checkCollisions almostAllTables = .ok () := by decide +kernel
  have hoptions : GeneratorOptions.check {} = .ok () := by decide
  have hnone : ∀ p ∈ allColumns almostAllTables, ¬SpellsAll p.1 p.2 := by decide +kernel
  have hcomments : ∀ t ∈ almostAllTables, KeepsToComments t.name := by
    have hline : ∀ t ∈ almostAllTables, '\n' ∉ t.name.toList := by decide +kernel
    exact fun t ht => OnOneLine.keepsToComments (hline t ht)
  obtain ⟨m, root, hgenerate, -, hread, hvariants, -, hunshadowed, -, hall, -⟩ :=
    meanings_unique_iff "" hascii hcheck hoptions
  refine ⟨m, root, hgenerate, hread hcomments, ?_, hall (hunshadowed.2 hnone)⟩
  rw [hvariants]
  decide +kernel

/-- A script that defines a column whose variant has the name of the list of all columns. -/
def shadowingScript : String :=
  "CREATE TABLE a (l_l TEXT, x TEXT);"

/-- The table that is extracted from it. -/
def shadowingTable : Table :=
  ⟨"a", [⟨"l_l", .text, false, false, true⟩, ⟨"x", .text, false, false, true⟩]⟩

theorem variant_shadows_all :
    extractTables shadowingScript .live = .ok [shadowingTable] ∧ AsciiNames [shadowingTable] ∧
      checkCollisions [shadowingTable] = .ok () ∧
      ∃ m root, generate [shadowingTable] shadowingScript {} = .ok m ∧
        readSource m.render = some root ∧
        declaredVariants root = [some ["ALL"], some ["AX"]] ∧ "ALL" ∈ associatedNames root ∧
        (meanings "ALL" root).length = 2 := by
  have hcheck : checkCollisions [shadowingTable] = .ok () := by decide +kernel
  have h : generate [shadowingTable] shadowingScript {} =
      .ok (ofTables [shadowingTable] shadowingScript {}) :=
    generate_eq_ok_iff.2 ⟨by decide, hcheck, rfl⟩
  have hcomments : ∀ t ∈ [shadowingTable], KeepsToComments t.name := by
    rw [List.forall_mem_singleton]
    exact (onOneLine_ofList (by decide)).keepsToComments
  have hvariants : (allColumns [shadowingTable]).map (fun p => variant p.1 p.2) = ["ALL", "AX"] := by
    decide +kernel
  obtain ⟨path, derives, hpath, -, -, hread⟩ := exists_moduleTrees h
  refine ⟨Catalog.extract_of_run String.toList_ofList (by decide +kernel) (by decide),
    by decide +kernel, hcheck, _, _, h, hread hcomments, ?_, ?_, ?_⟩
  · rw [declaredVariants_moduleTrees hpath]
    decide +kernel
  · rw [associatedNames_moduleTrees hpath]
    decide
  · rw [length_meanings hpath derives _ (distinct_of_checkCollisions hcheck).variants, hvariants]
    decide

end Tablewright.AccessModule
