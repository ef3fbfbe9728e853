import Tablewright.Proofs.Naming.LegalIdentifiers

/-!
# Paths in the options

What the generated language takes for a path (`ItemPath`): plain identifiers with separators between
them, and perhaps one more separator in front. Cutting a text at its separators inverts joining
(`pathSegments_intercalate`, `intercalate_pathSegments`), so the check of the options accepts exactly
the texts of paths (`isPath_iff`), and a text is that of one list of segments only
(`ItemPath.segmentsOf_text`). The check does not look at keywords, which no segment of a usable path is
but the first one of `self`, `super` and `crate`: what passes is usable exactly if its segments are no
other keywords (`check_accepts_usable_iff`).
-/

namespace Tablewright

open Text Naming AccessModule

/-! ## Cutting at separators -/

/-- What stands between the segments of a path. -/
def pathSeparator : List Char :=
  [':', ':']

theorem pathSegments_cons {c : Char} (h : c ≠ ':') (rest : List Char) :
    pathSegments (c :: rest) = consSegment c (pathSegments rest) :=
  pathSegments.eq_3 _ _ fun _ heq _ => h heq

theorem pathSegments_of_not_mem {segment : List Char} (h : ':' ∉ segment) :
    pathSegments segment = [segment] := by
  induction segment with
  | nil => rfl
  | cons c segment ih =>
    rw [List.mem_cons, not_or] at h
    rw [pathSegments_cons (Ne.symm h.1), ih h.2, consSegment]

theorem pathSegments_append {segment : List Char} (h : ':' ∉ segment) (rest : List Char) :
    pathSegments (segment ++ (pathSeparator ++ rest)) = segment :: pathSegments rest := by
  induction segment with
  | nil => rfl
  | cons c segment ih =>
    rw [List.mem_cons, not_or] at h
    rw [List.cons_append, pathSegments_cons (Ne.symm h.1), ih h.2, consSegment]

/-- Segments without colons are read back. -/
theorem pathSegments_intercalate {segments : List (List Char)} (hne : segments ≠ [])
    (h : ∀ s ∈ segments, ':' ∉ s) :
    pathSegments (pathSeparator.intercalate segments) = segments := by
  induction segments with
  | nil => exact absurd rfl hne
  | cons s segments ih =>
    obtain ⟨hs, hrest⟩ := List.forall_mem_cons.1 h
    cases segments with
    | nil => rw [List.intercalate_singleton, pathSegments_of_not_mem hs]
    | cons t segments =>
      rw [List.intercalate_cons_cons, List.append_assoc, pathSegments_append hs,
        ih (List.cons_ne_nil _ _) hrest]

theorem consSegment_ne_nil (c : Char) (segments : List (List Char)) :
    consSegment c segments ≠ [] := by
  cases segments <;> exact List.cons_ne_nil _ _

theorem pathSegments_ne_nil (cs : List Char) : pathSegments cs ≠ [] := by
  induction cs using pathSegments.induct with
  | case1 => exact List.cons_ne_nil _ _
  | case2 rest => exact List.cons_ne_nil _ _
  | case3 c rest hcolons =>
    rw [pathSegments.eq_3 _ _ hcolons]
    exact consSegment_ne_nil _ _

theorem intercalate_consSegment (c : Char) (segments : List (List Char)) :
    pathSeparator.intercalate (consSegment c segments) =
      c :: pathSeparator.intercalate segments := by
  match segments with
  | [] => rfl
  | [s] => rw [consSegment, List.intercalate_singleton, List.intercalate_singleton]
  | s :: t :: segments =>
    rw [consSegment, List.intercalate_cons_cons, List.intercalate_cons_cons, List.cons_append,
      List.cons_append]

/-- Joining what was cut gives the text again. -/
theorem intercalate_pathSegments (cs : List Char) :
    pathSeparator.intercalate (pathSegments cs) = cs := by
  induction cs using pathSegments.induct with
  | case1 => rfl
  | case2 rest ih =>
    obtain ⟨s, segments, hrest⟩ := List.exists_cons_of_ne_nil (pathSegments_ne_nil rest)
    rw [pathSegments, hrest, List.intercalate_cons_cons, ← hrest, ih]
    rfl
  | case3 c rest hcolons ih => rw [pathSegments.eq_3 _ _ hcolons, intercalate_consSegment, ih]

theorem dropLeadingSeparator_cases (cs : List Char) :
    dropLeadingSeparator cs = cs ∨ cs = pathSeparator ++ dropLeadingSeparator cs := by
  unfold dropLeadingSeparator
  split
  · exact .inr rfl
  · exact .inl rfl

theorem dropLeadingSeparator_of_ne {c : Char} (h : c ≠ ':') (rest : List Char) :
    dropLeadingSeparator (c :: rest) = c :: rest := by
  unfold dropLeadingSeparator
  split
  · rename_i heq
    exact absurd (List.cons.inj heq).1 h
  · rfl

/-- The characters of the segments are characters of the path. -/
theorem mem_of_mem_segment {cs segment : List Char} {c : Char}
    (hsegment : segment ∈ pathSegments (dropLeadingSeparator cs)) (hc : c ∈ segment) : c ∈ cs := by
  have hmem : c ∈ dropLeadingSeparator cs := by
    rw [← intercalate_pathSegments (dropLeadingSeparator cs)]
    exact mem_intercalate_of_mem hsegment hc
  rcases dropLeadingSeparator_cases cs with hdrop | hdrop
  · rwa [hdrop] at hmem
  · rw [hdrop]
    exact List.mem_append_right _ hmem

/-! ## Paths -/

/-- A plain identifier: a letter or an underscore, then letters, digits and underscores, all of them
ASCII, and not the underscore alone. -/
structure IsPlainIdentifier (cs : List Char) : Prop where
  front : ∃ first rest, cs = first :: rest ∧ (first.isAlpha = true ∨ first = '_')
  parts : ∀ c ∈ cs, c.isAlphanum = true ∨ c = '_'
  not_lone : cs ≠ ['_']

theorem isIdentifierLike_of_isIdentifier {cs : List Char} (h : isIdentifier cs = true) :
    IsIdentifierLike cs := by
  refine ⟨?_, fun c hc => ?_⟩
  · cases cs with
    | nil => cases h
    | cons first rest =>
      rw [isIdentifier, Bool.and_eq_true, Bool.and_eq_true] at h
      exact ⟨first, rest, rfl, h.1.1⟩
  · rw [isTailChar, Bool.or_eq_true, beq_iff_eq]
    exact mem_of_isIdentifier h hc

theorem isIdentifier_ascii_iff {cs : List Char} (h : ∀ c ∈ cs, isAscii c = true) :
    isIdentifier cs = true ↔ IsPlainIdentifier cs := by
  have htail : ∀ c ∈ cs, isTailChar c = true ↔ c.isAlphanum = true ∨ c = '_' := by
    intro c hc
    rw [isTailChar, isAlphanumeric_ascii (h c hc), Bool.or_eq_true, beq_iff_eq]
  have hhead : ∀ c ∈ cs, isHeadChar c = true ↔ c.isAlpha = true ∨ c = '_' := by
    intro c hc
    rw [isHeadChar, isAlphabetic_ascii (h c hc), Bool.or_eq_true, beq_iff_eq]
  constructor
  · intro hcs
    have hlike := isIdentifierLike_of_isIdentifier hcs
    obtain ⟨c, rest, rfl, hc⟩ := hlike.head
    exact ⟨⟨c, rest, rfl, (hhead c List.mem_cons_self).1 hc⟩,
      fun d hd => (htail d hd).1 (hlike.tail d hd), (isIdentifier_iff hlike).1 hcs⟩
  · rintro ⟨⟨c, rest, rfl, hc⟩, hparts, hlone⟩
    have hlike : IsIdentifierLike (c :: rest) :=
      ⟨⟨c, rest, rfl, (hhead c List.mem_cons_self).2 hc⟩, fun d hd => (htail d hd).2 (hparts d hd)⟩
    exact (isIdentifier_iff hlike).2 hlone

theorem IsPlainIdentifier.colon_not_mem {cs : List Char} (h : IsPlainIdentifier cs) : ':' ∉ cs := by
  intro hmem
  rcases h.parts ':' hmem with hcolon | hcolon <;> revert hcolon <;> decide

/-- Whether no segment is a keyword, but for `self`, `super` or `crate` as the first one. -/
def AvoidKeywords : List String → Prop
  | [] => True
  | first :: others =>
    (first ∈ keywords → first ∈ ["self", "super", "crate"]) ∧ ∀ s ∈ others, s ∉ keywords

instance : DecidablePred AvoidKeywords
  | [] => inferInstanceAs (Decidable True)
  | _ :: _ => inferInstanceAs (Decidable (_ ∧ _))

/-- The segments of a text, cut as the check does. -/
def segmentsOf (path : String) : List String :=
  (pathSegments (dropLeadingSeparator path.toList)).map String.ofList

/-- A path to an item of the generated language. -/
structure ItemPath where
  /-- Whether a separator stands in front. -/
  isAbsolute : Bool
  first : String
  others : List String
  isPlain : ∀ s ∈ first :: others, IsPlainIdentifier s.toList

namespace ItemPath

variable (p : ItemPath)

def segments : List String :=
  p.first :: p.others

/-- The path as it is written. -/
def text : String :=
  (if p.isAbsolute then "::" else "") ++ "::".intercalate p.segments

theorem toList_text : p.text.toList = (if p.isAbsolute then pathSeparator else []) ++
    pathSeparator.intercalate (p.segments.map String.toList) := by
  rw [text, String.toList_append, String.toList_intercalate]
  cases p.isAbsolute <;> rfl

/-- Without the separator in front, a path is its segments with separators between them: the first
segment does not begin with a colon. -/
theorem dropLeadingSeparator_text : dropLeadingSeparator p.text.toList =
    pathSeparator.intercalate (p.segments.map String.toList) := by
  rw [toList_text]
  cases p.isAbsolute with
  | true => rfl
  | false =>
    have hfirst := p.isPlain p.first List.mem_cons_self
    obtain ⟨c, rest, hcs, -⟩ := hfirst.front
    have hcolon : c ≠ ':' := by
      rintro rfl
      exact hfirst.colon_not_mem (hcs ▸ List.mem_cons_self)
    have hjoined : ∃ behind,
        pathSeparator.intercalate (p.segments.map String.toList) = c :: behind := by
      rw [segments, List.map_cons, hcs]
      cases p.others.map String.toList with
      | nil => exact ⟨rest, List.intercalate_singleton ..⟩
      | cons t ts =>
        exact ⟨rest ++ pathSeparator ++ pathSeparator.intercalate (t :: ts),
          List.intercalate_cons_cons ..⟩
    obtain ⟨behind, hjoined⟩ := hjoined
    rw [hjoined]
    exact dropLeadingSeparator_of_ne hcolon behind

theorem pathSegments_text :
    pathSegments (dropLeadingSeparator p.text.toList) = p.segments.map String.toList := by
  rw [dropLeadingSeparator_text]
  refine pathSegments_intercalate (by simp [segments]) fun cs hcs => ?_
  obtain ⟨s, hs, rfl⟩ := List.mem_map.1 hcs
  exact (p.isPlain s hs).colon_not_mem

/-- **The segments of a path are read back from its text**, which is the text of no others. -/
theorem segmentsOf_text : segmentsOf p.text = p.segments := by
  rw [segmentsOf, pathSegments_text, List.map_map]
  exact (List.map_congr_left fun _ _ => String.ofList_toList).trans (List.map_id _)

/-- Plain identifiers, at least one, are the segments of a path. -/
theorem exists_text_eq {segments : List (List Char)} (hne : segments ≠ [])
    (hplain : ∀ cs ∈ segments, IsPlainIdentifier cs) (isAbsolute : Bool) :
    ∃ p : ItemPath, p.text.toList =
      (if isAbsolute then pathSeparator else []) ++ pathSeparator.intercalate segments := by
  obtain ⟨first, others, rfl⟩ := List.exists_cons_of_ne_nil hne
  have hstrings : ∀ s ∈ String.ofList first :: others.map String.ofList,
      IsPlainIdentifier s.toList := by
    rw [← List.map_cons]
    intro s hs
    obtain ⟨cs, hcs, rfl⟩ := List.mem_map.1 hs
    rw [String.toList_ofList]
    exact hplain cs hcs
  refine ⟨⟨isAbsolute, _, _, hstrings⟩, ?_⟩
  simp [toList_text, segments, Function.comp_def]

end ItemPath

/-- **The check accepts exactly the texts of paths.** -/
theorem isPath_iff {path : String} (hascii : IsAsciiName path) :
    isPath path = true ↔ ∃ p : ItemPath, p.text = path := by
  rw [isPath, List.all_eq_true]
  constructor
  · intro h
    have hplain : ∀ cs ∈ pathSegments (dropLeadingSeparator path.toList), IsPlainIdentifier cs :=
      fun cs hcs => (isIdentifier_ascii_iff fun c hc => hascii c (mem_of_mem_segment hcs hc)).1
        (h cs hcs)
    have hpath := ItemPath.exists_text_eq (pathSegments_ne_nil _) hplain
    rw [intercalate_pathSegments] at hpath
    rcases dropLeadingSeparator_cases path.toList with hdrop | hdrop
    · obtain ⟨p, hp⟩ := hpath false
      exact ⟨p, String.toList_inj.1 (hp.trans hdrop)⟩
    · obtain ⟨p, hp⟩ := hpath true
      exact ⟨p, String.toList_inj.1 (hp.trans hdrop.symm)⟩
  · rintro ⟨p, rfl⟩ cs hcs
    rw [ItemPath.pathSegments_text] at hcs
    obtain ⟨s, hs, rfl⟩ := List.mem_map.1 hcs
    have hplain := p.isPlain s hs
    refine (isIdentifier_ascii_iff fun c hc => ?_).2 hplain
    rcases hplain.parts c hc with halphanum | rfl
    · exact isAscii_of_isAlphanum halphanum
    · decide

/-! ## Usable options -/

namespace GeneratorOptions

variable (options : GeneratorOptions)

/-- The texts of the options that stand in generated code as paths. -/
def paths : List String :=
  options.runtimeCrate :: options.derives

/-- No derive repeats an earlier one or a base derive. -/
structure DerivesDiffer : Prop where
  distinct : options.derives.Nodup
  fresh : ∀ d ∈ options.derives, d ∉ baseDerives

/-- Options that generated code can use: every text is that of a path, without keywords, and no derive
is repeated. -/
structure IsUsable : Prop where
  paths : ∀ path ∈ options.paths, ∃ p : ItemPath, p.text = path ∧ AvoidKeywords p.segments
  differ : options.DerivesDiffer

variable {options}

theorem check_eq_ok_iff_paths (hascii : ∀ path ∈ options.paths, IsAsciiName path) :
    options.check = .ok () ↔
      (∀ path ∈ options.paths, ∃ p : ItemPath, p.text = path) ∧ options.DerivesDiffer := by
  have hpaths : (∀ path ∈ options.paths, isPath path = true) ↔
      ∀ path ∈ options.paths, ∃ p : ItemPath, p.text = path :=
    forall₂_congr fun path hpath => isPath_iff (hascii path hpath)
  rw [check_eq_ok_iff, ← hpaths, paths, List.forall_mem_cons, and_assoc]
  exact and_congr_right' (and_congr_right' ⟨fun h => ⟨h.1, h.2⟩, fun h => ⟨h.1, h.2⟩⟩)

/-- **The check accepts exactly the paths that are not repeated, and they are usable exactly if their
segments avoid keywords**: options whose texts are ASCII pass if and only if the texts are those of
paths and no derive repeats another one; and for such options passing the check is the same as being
usable, provided that no keyword passes. -/
theorem check_accepts_usable_iff (hascii : ∀ path ∈ options.paths, IsAsciiName path) :
    (options.check = .ok () ↔
      (∀ path ∈ options.paths, ∃ p : ItemPath, p.text = path) ∧ options.DerivesDiffer) ∧
    ((options.check = .ok () ↔ options.IsUsable) ↔
      (options.check = .ok () → ∀ p : ItemPath, p.text ∈ options.paths →
        AvoidKeywords p.segments)) := by
  have hcheck := check_eq_ok_iff_paths hascii
  refine ⟨hcheck, fun h hok p hp => ?_, fun h => ⟨fun hok => ?_, fun husable => ?_⟩⟩
  · obtain ⟨q, htext, hq⟩ := (h.1 hok).paths p.text hp
    rwa [← p.segmentsOf_text, ← htext, q.segmentsOf_text]
  · obtain ⟨hpaths, hdiffer⟩ := hcheck.1 hok
    refine ⟨fun path hpath => ?_, hdiffer⟩
    obtain ⟨p, rfl⟩ := hpaths path hpath
    exact ⟨p, rfl, h hok p hpath⟩
  · exact hcheck.2 ⟨fun path hpath => (husable.paths path hpath).imp fun _ hp => hp.1,
      husable.differ⟩

/-- Options with paths of all forms. -/
def mixedOptions : GeneratorOptions where
  runtimeCrate := "crate::db::rt"
  derives := ["::serde::Serialize", "_tag2", "Eq"]

theorem check_accepts_usable_of_mixedOptions :
    (∀ path ∈ mixedOptions.paths, IsAsciiName path) ∧ mixedOptions.check = .ok () ∧
      mixedOptions.IsUsable := by
  have hascii : ∀ path ∈ mixedOptions.paths, IsAsciiName path := by decide
  have hcheck : mixedOptions.check = .ok () := by decide
  have hkeywords : ∀ path ∈ mixedOptions.paths, AvoidKeywords (segmentsOf path) := by decide
  obtain ⟨-, husable⟩ := check_accepts_usable_iff hascii
  refine ⟨hascii, hcheck, (husable.2 fun _ p hp => ?_).1 hcheck⟩
  rw [← p.segmentsOf_text]
  exact hkeywords p.text hp

/-- Options whose runtime library has a keyword for its name. -/
def keywordOptions : GeneratorOptions where
  runtimeCrate := "fn"

/-- **A keyword passes the check.** -/
theorem check_accepts_keyword :
    (∀ path ∈ keywordOptions.paths, IsAsciiName path) ∧ keywordOptions.check = .ok () ∧
      ¬keywordOptions.IsUsable := by
  refine ⟨by decide, by decide, fun h => ?_⟩
  obtain ⟨p, htext, hkeywords⟩ := h.paths "fn" List.mem_cons_self
  rw [← p.segmentsOf_text, htext] at hkeywords
  revert hkeywords
  decide

end GeneratorOptions

end Tablewright
