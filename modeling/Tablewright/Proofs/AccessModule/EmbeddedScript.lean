import Mathlib.Data.List.Basic
import Tablewright.AccessModule.Module
import Tablewright.Proofs.AccessModule.LiteralReading

/-!
# The embedded script

A generated module holds the script it was generated from, verbatim: the text behind the first
`pub const CREATE_TABLE: &str = ` begins with a string literal that is read back as the script, and
the line ends right behind the literal (`render_embeds_script`). Nothing in front of that place can
be taken for it: it holds no ampersand, since the path of the runtime library is a path
(`mem_of_isPath`).
-/

namespace Tablewright.AccessModule

open Text Naming

/-! ## The first occurrence of a text -/

/-- What follows the first occurrence of a text that is not empty. -/
def afterFirst? (part : List Char) : List Char → Option (List Char)
  | [] => none
  | c :: rest =>
    if part.isPrefixOf (c :: rest) then some ((c :: rest).drop part.length)
    else afterFirst? part rest

/-- A text with a character that nothing in front of it holds is found where it stands. -/
theorem afterFirst?_append {part front : List Char} {c : Char} (hpart : c ∈ part)
    (hfront : c ∉ front) (rest : List Char) : afterFirst? part (front ++ (part ++ rest)) = some rest := by
  induction front with
  | nil =>
    cases part with
    | nil => cases hpart
    | cons d part =>
      rw [List.nil_append, List.cons_append, afterFirst?, ← List.cons_append, if_pos (by simp),
        List.drop_left]
  | cons d front ih =>
    obtain ⟨hd, hfront⟩ : ¬c = d ∧ c ∉ front := by simpa using hfront
    rw [List.cons_append, afterFirst?, if_neg, ih hfront]
    -- the first such character of the text would be too far behind
    rw [List.isPrefixOf_iff_prefix]
    rintro ⟨t, ht⟩
    have hidx := congrArg (List.idxOf c) ht
    rw [← List.cons_append, List.idxOf_append_of_mem hpart,
      List.idxOf_append_of_notMem (by simp [hd, hfront]), List.idxOf_append_of_mem hpart,
      List.length_cons] at hidx
    omega

/-! ## Characters of a path -/

theorem mem_of_isIdentifier {cs : List Char} (h : isIdentifier cs = true) {c : Char} (hc : c ∈ cs) :
    isAlphanumeric c = true ∨ c = '_' := by
  cases cs with
  | nil => cases hc
  | cons first rest =>
    rw [isIdentifier, Bool.and_eq_true, Bool.and_eq_true] at h
    obtain ⟨⟨hfirst, -⟩, hrest⟩ := h
    rcases List.mem_cons.1 hc with rfl | hc
    · rw [Bool.or_eq_true, beq_iff_eq] at hfirst
      exact hfirst.imp_left fun h => by rw [isAlphanumeric, h, Bool.true_or]
    · simpa using List.all_eq_true.1 hrest c hc

theorem mem_consSegment {c d : Char} {segments : List (List Char)}
    (h : d = c ∨ ∃ s ∈ segments, d ∈ s) : ∃ s ∈ consSegment c segments, d ∈ s := by
  cases segments with
  | nil => simpa [consSegment] using h
  | cons segment rest =>
    rcases h with rfl | ⟨s, hs, hd⟩
    · exact ⟨d :: segment, by simp [consSegment], by simp⟩
    rcases List.mem_cons.1 hs with rfl | hs
    · exact ⟨c :: s, by simp [consSegment], by simp [hd]⟩
    · exact ⟨s, by simp [consSegment, hs], hd⟩

/-- Cutting a path into segments loses nothing but its colons. -/
theorem mem_pathSegments {cs : List Char} {d : Char} (h : d ∈ cs) (hd : d ≠ ':') :
    ∃ s ∈ pathSegments cs, d ∈ s := by
  induction cs using pathSegments.induct with
  | case1 => cases h
  | case2 rest ih =>
    obtain ⟨s, hs, hmem⟩ := ih (by simpa [hd] using h)
    exact ⟨s, by simp [pathSegments, hs], hmem⟩
  | case3 c rest hcolons ih =>
    rw [pathSegments.eq_3 _ _ hcolons]
    refine mem_consSegment ?_
    rcases List.mem_cons.1 h with rfl | h
    · exact .inl rfl
    · exact .inr (ih h)

theorem mem_dropLeadingSeparator {cs : List Char} {d : Char} (h : d ∈ cs) (hd : d ≠ ':') :
    d ∈ dropLeadingSeparator cs := by
  unfold dropLeadingSeparator
  split
  · simpa [hd] using h
  · exact h

/-- **A path holds letters, digits, underscores and colons only.** -/
theorem mem_of_isPath {path : String} (h : isPath path = true) {c : Char} (hc : c ∈ path.toList) :
    isAlphanumeric c = true ∨ c = '_' ∨ c = ':' := by
  by_cases hcolon : c = ':'
  · exact .inr (.inr hcolon)
  obtain ⟨s, hs, hmem⟩ := mem_pathSegments (mem_dropLeadingSeparator hc hcolon) hcolon
  exact (mem_of_isIdentifier (List.all_eq_true.1 h s hs) hmem).imp_right .inl

/-! ## Accepted options -/

/-- Derives pass the check if they are paths, differ, and are none of the earlier ones. -/
theorem checkDerives_eq_ok_iff {earlier derives : List String} :
    GeneratorOptions.checkDerives earlier derives = .ok () ↔
      (∀ d ∈ derives, isPath d = true) ∧ derives.Nodup ∧ ∀ d ∈ derives, d ∉ earlier := by
  induction derives generalizing earlier with
  | nil => simp [GeneratorOptions.checkDerives]
  | cons d derives ih =>
    rw [GeneratorOptions.checkDerives]
    split
    case isTrue hpath =>
      refine iff_of_false (by simp) fun h => ?_
      rw [h.1 d List.mem_cons_self] at hpath
      cases hpath
    case isFalse hpath =>
      split
      case isTrue hearlier =>
        exact iff_of_false (by simp) fun h => h.2.2 d List.mem_cons_self hearlier
      case isFalse hearlier =>
        rw [Bool.not_eq_true, Bool.not_eq_false'] at hpath
        rw [ih, List.forall_mem_cons, List.nodup_cons, List.forall_mem_cons]
        constructor
        · rintro ⟨hpaths, hnodup, hnew⟩
          simp only [List.mem_cons, not_or] at hnew
          exact ⟨⟨hpath, hpaths⟩, ⟨fun hd => (hnew d hd).1 rfl, hnodup⟩, hearlier,
            fun e he => (hnew e he).2⟩
        · rintro ⟨⟨-, hpaths⟩, ⟨hd, hnodup⟩, -, hnew⟩
          refine ⟨hpaths, hnodup, fun e he => List.not_mem_cons_of_ne_of_not_mem ?_ (hnew e he)⟩
          rintro rfl
          exact hd he

/-- **Options pass the check exactly if** their entries are paths, and no derive is repeated. -/
theorem check_eq_ok_iff {options : GeneratorOptions} : options.check = .ok () ↔
    isPath options.runtimeCrate = true ∧ (∀ d ∈ options.derives, isPath d = true) ∧
      options.derives.Nodup ∧ ∀ d ∈ options.derives, d ∉ baseDerives := by
  rw [GeneratorOptions.check]
  split
  case isTrue hpath => exact iff_of_false (by simp) fun h => by simp [h.1] at hpath
  case isFalse hpath =>
    rw [checkDerives_eq_ok_iff]
    exact (and_iff_right (by simpa using hpath)).symm

theorem isPath_of_check {options : GeneratorOptions} (h : options.check = .ok ()) :
    isPath options.runtimeCrate = true :=
  (check_eq_ok_iff.1 h).1

/-! ## The text of a module -/

theorem generate_eq_ok_iff {tables : List Table} {script : String} {options : GeneratorOptions}
    {m : AccessModule} : generate tables script options = .ok m ↔
      options.check = .ok () ∧ checkCollisions tables = .ok () ∧
        m = ofTables tables script options := by
  rw [generate]
  cases options.check with
  | error problem => simp
  | ok _ =>
    cases checkCollisions tables with
    | error c => simp
    | ok _ => simp [eq_comm]

/-- The beginning of the line that holds the script. -/
def scriptConstant : String :=
  "pub const CREATE_TABLE: &str = "

/-- What stands in front of that line. -/
def beforeScript (options : GeneratorOptions) : String :=
  header ++ "\nuse " ++ options.runtimeCrate ++
    " as rt;\n\n/// Schema script this module was generated from.\n"

theorem ampersand_not_mem_beforeScript {options : GeneratorOptions} (h : options.check = .ok ()) :
    '&' ∉ (beforeScript options).toList := by
  have hpath : '&' ∉ options.runtimeCrate.toList := fun hmem => by
    rcases mem_of_isPath (isPath_of_check h) hmem with h | h | h
    · revert h
      decide
    · cases h
    · cases h
  have hchars : header.toList = _ := String.toList_ofList
  have hheader : '&' ∉ header.toList := by
    rw [hchars]
    decide
  simp [beforeScript, hpath, hheader]

theorem toList_render_block (block : Block) :
    (Block.render block).toList = block.flatMap fun line => line.render.toList ++ ['\n'] := by
  simp [Block.render, String.toList_join, List.flatMap_map]

/-- **Where the script stands in a generated module.** -/
theorem toList_render_ofTables (tables : List Table) (script : String)
    (options : GeneratorOptions) : ∃ rest,
      (ofTables tables script options).render.toList = (beforeScript options).toList ++
        (scriptConstant.toList ++ ((literal script).toList ++ ';' :: '\n' :: rest)) := by
  obtain ⟨after, hsection⟩ : ∃ after, schemaSection tables script options =
      [.code 0 ("use " ++ options.runtimeCrate ++ " as rt;"), .blank,
        .code 0 "/// Schema script this module was generated from.",
        .code 0 (constant "CREATE_TABLE" (literal script))] ++ after := ⟨_, rfl⟩
  refine ⟨(after.flatMap fun line => line.render.toList ++ ['\n']) ++
    (tables.flatMap fun t => ("\n" ++ (tableSection t options).render).toList), ?_⟩
  simp [ofTables, render, hsection, String.toList_join, toList_render_block, List.flatMap_map,
    Line.render, beforeScript, scriptConstant, constant]

/-- **A generated module embeds its script verbatim**: behind the first `scriptConstant` stands a
literal of the script, and then the end of the line. -/
theorem render_embeds_script {tables : List Table} {script : String} {options : GeneratorOptions}
    {m : AccessModule} (h : generate tables script options = .ok m) :
    ∃ rest, (afterFirst? scriptConstant.toList m.render.toList).bind readLiteral =
      some (script.toList, ';' :: '\n' :: rest) := by
  obtain ⟨hoptions, -, rfl⟩ := generate_eq_ok_iff.1 h
  obtain ⟨rest, hrest⟩ := toList_render_ofTables tables script options
  refine ⟨rest, ?_⟩
  have hampersand : '&' ∈ scriptConstant.toList := by decide
  rw [hrest, afterFirst?_append hampersand (ampersand_not_mem_beforeScript hoptions),
    Option.bind_some, readLiteral_literal]

/-- A table of notes. -/
def notes : List Table :=
  [⟨"note", [.declare "id" .integer true true true, .declare "type" .text false false false]⟩]

/-- A script that ends in a quote and as many hashes as its literal has, less one. -/
def endsInHashes : String :=
  "-- \"# \"\";\n\"##"

/-- A script with a carriage return, and with characters that do not print or join others. -/
def holdsReturn : String :=
  "-- \"#\\\r\n\x7fe\u0301"

theorem render_embeds_script_awkward :
    (∃ m, generate notes endsInHashes {} = .ok m ∧
      ∃ rest, (afterFirst? scriptConstant.toList m.render.toList).bind readLiteral =
        some (endsInHashes.toList, ';' :: '\n' :: rest)) ∧
    ∃ m, generate notes holdsReturn {} = .ok m ∧
      ∃ rest, (afterFirst? scriptConstant.toList m.render.toList).bind readLiteral =
        some (holdsReturn.toList, ';' :: '\n' :: rest) := by
  have h : ∀ script, generate notes script {} = .ok (ofTables notes script {}) := fun script =>
    generate_eq_ok_iff.2 ⟨by decide, by decide, rfl⟩
  exact ⟨⟨_, h _, render_embeds_script (h _)⟩, ⟨_, h _, render_embeds_script (h _)⟩⟩

end Tablewright.AccessModule
