import Tablewright.Proofs.Json.ReadBack
import Tablewright.Schema.Document

/-!
# Exported documents

A schema document is read back from its text, whatever its script and its tables hold, so different
documents have different texts: `ofText?_toText`. Records are written as objects and read back by
the names of their fields (`record?_ofFields`), lists item by item (`listOf?_map`).
-/

namespace Tablewright

namespace Json

/-! ## Records and lists -/

theorem valuesAt_ofFields {fields : List (String × Json)} (hkeys : (fields.map Prod.fst).Nodup)
    {f : String × Json} (hf : f ∈ fields) :
    valuesAt f.1 (fields.map fun f => (some f.1, f.2)) = [f.2] := by
  induction fields with
  | nil => cases hf
  | cons g fields ih =>
    rw [List.map_cons, List.nodup_cons] at hkeys
    rw [valuesAt, List.map_cons, List.filter_cons]
    rcases List.mem_cons.1 hf with rfl | hf
    · have hnone : (fields.map fun g => (some g.1, g.2)).filter (·.1 == some f.1) = [] := by
        rw [List.filter_eq_nil_iff]
        rintro _ hm heq
        obtain ⟨g, hg, rfl⟩ := List.mem_map.1 hm
        exact hkeys.1 (List.mem_map.2 ⟨g, hg, by simpa using heq⟩)
      rw [hnone]
      simp
    · have hne : (some g.1 == some f.1) = false := by
        rw [beq_eq_false_iff_ne]
        intro heq
        exact hkeys.1 (List.mem_map.2 ⟨f, hf, (Option.some.inj heq).symm⟩)
      rw [hne]
      exact ih hkeys.2 hf

/-- **The fields of a record are found in the object that was made of them.** -/
theorem record?_ofFields {names : List String} {fields : List (String × Json)}
    (hnames : fields.map Prod.fst = names) (hkeys : names.Nodup) :
    record? names (ofFields fields) = some (fields.map Prod.snd) := by
  subst hnames
  have hnamed : (fields.map fun f => (some f.1, f.2)).all (·.1.isSome) = true := by simp
  have honly : ∀ f ∈ fields, only? f.1 (fields.map fun f => (some f.1, f.2)) = some f.2 := by
    intro f hf
    rw [only?, valuesAt_ofFields hkeys hf]
  have hmap : ∀ l ⊆ fields, (l.map Prod.fst).mapM
      (only? · (fields.map fun f => (some f.1, f.2))) = some (l.map Prod.snd) := by
    intro l hl
    induction l with
    | nil => rfl
    | cons f l ih =>
      obtain ⟨hf, hl⟩ := List.cons_subset.1 hl
      rw [List.map_cons, List.mapM_cons, honly f hf, ih hl]
      rfl
  rw [ofFields, record?, if_pos hnamed]
  exact hmap fields (List.Subset.refl fields)

/-- **A list is read back from the array of its items.** -/
theorem listOf?_map {α : Type} {f : Json → Option α} {g : α → Json} (h : ∀ a, f (g a) = some a)
    (l : List α) : (array (l.map g)).listOf? f = some l := by
  rw [listOf?]
  induction l with
  | nil => rfl
  | cons a l ih =>
    rw [List.map_cons, List.mapM_cons, h, ih]
    rfl

theorem isWritable_map {α : Type} {g : α → Json} (h : ∀ a, (g a).IsWritable) (l : List α) :
    (array (l.map g)).IsWritable := by
  refine .array fun v hv => ?_
  obtain ⟨a, -, rfl⟩ := List.mem_map.1 hv
  exact h a

end Json

/-! ## Columns and tables -/

theorem Affinity.ofJson?_toJson (a : Affinity) : ofJson? a.toJson = some a := by
  cases a <;> rfl

namespace Column

theorem ofJson?_toJson (c : Column) : ofJson? c.toJson = some c := by
  have hrecord : c.toJson.record? fieldNames = some [.ofText c.name, c.affinity.toJson,
      .bool c.isPrimaryKey, .bool c.isAutoIncrement, .bool c.isNullable] :=
    Json.record?_ofFields rfl (by decide)
  rw [ofJson?, hrecord]
  simp only [Affinity.ofJson?_toJson]
  rfl

theorem isWritable_toJson (c : Column) : c.toJson.IsWritable := by
  refine .object ?_
  simp only [List.forall_mem_cons]
  exact ⟨.text _, .text _, .bool _, .bool _, .bool _, by simp⟩

end Column

namespace Table

theorem ofJson?_toJson (t : Table) : ofJson? t.toJson = some t := by
  have hrecord : t.toJson.record? ["name", "columns"] =
      some [.ofText t.name, .array (t.columns.map Column.toJson)] :=
    Json.record?_ofFields rfl (by decide)
  rw [ofJson?, hrecord]
  simp only [Json.listOf?_map Column.ofJson?_toJson]
  rfl

theorem isWritable_toJson (t : Table) : t.toJson.IsWritable := by
  refine .object ?_
  simp only [List.forall_mem_cons]
  exact ⟨.text _, Json.isWritable_map Column.isWritable_toJson _, by simp⟩

end Table

/-! ## Documents -/

namespace SchemaDocument

theorem ofJson?_toJson (d : SchemaDocument) : ofJson? d.toJson = some d := by
  have hrecord : d.toJson.record? ["create_table", "tables"] =
      some [.ofText d.script, .array (d.tables.map Table.toJson)] :=
    Json.record?_ofFields rfl (by decide)
  rw [ofJson?, hrecord]
  simp only [Json.listOf?_map Table.ofJson?_toJson]
  rfl

theorem isWritable_toJson (d : SchemaDocument) : d.toJson.IsWritable := by
  refine .object ?_
  simp only [List.forall_mem_cons]
  exact ⟨.text _, Json.isWritable_map Table.isWritable_toJson _, by simp⟩

theorem ofText?_eq_of_toText (d : SchemaDocument) : ofText? d.toText = some d := by
  rw [ofText?, toText, Json.read?_write d.isWritable_toJson]
  exact d.ofJson?_toJson

/-- **A document is read back from its text**, so different documents never share a text. -/
theorem ofText?_toText :
    (∀ d : SchemaDocument, ofText? d.toText = some d) ∧
      ∀ d d' : SchemaDocument, d ≠ d' → d.toText ≠ d'.toText := by
  refine ⟨ofText?_eq_of_toText, fun d d' hne heq => hne ?_⟩
  have hread := ofText?_eq_of_toText d
  rw [heq, ofText?_eq_of_toText d'] at hread
  exact (Option.some.inj hread).symm

end SchemaDocument

end Tablewright
