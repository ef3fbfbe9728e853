import Tablewright.Database.Run
import Tablewright.Proofs.Sql.Evaluation

/-!
# Writing one row

The steps of a write in a form that later proofs take apart one by one (`writeRow_eq`), and what a
new row id says about the rows that are there: it is greater than all of theirs (`lt_of_nextId`),
so that its row takes no key (`freeKeys_of_lt`) and comes last (`addRowTo_of_lt`).
-/

namespace Tablewright

open Sql

namespace Database

/-- The rows of the table that an unqualified name means. -/
def rowsOf (db : Database) (table : String) : List Row :=
  ((db.table? table).map (·.rows)).getD []

/-! ## Row ids -/

/-- The id of a new row: the one it asks for, or the next one. -/
def rowId (t : StoredTable) (r : NewRow) : Except Failure Int := do
  match ← requestedId r with
  | some id => .ok id
  | none => nextId t

theorem lt_of_nextId {t : StoredTable} {id : Int} (h : nextId t = .ok id) :
    (∀ row ∈ t.rows, row.id < id) ∧ (t.isAutoIncrement → t.counter < id) := by
  have hid : id = if t.isAutoIncrement then
      max (((greatestId? t).map (· + 1)).getD 1) (t.counter + 1)
      else ((greatestId? t).map (· + 1)).getD 1 := by
    simp only [nextId] at h
    generalize (if t.isAutoIncrement then max _ _ else _ : Int) = next at h ⊢
    split at h
    · exact (Except.ok.inj h).symm
    · cases h
  have hrows : ∀ row ∈ t.rows, row.id < ((greatestId? t).map (· + 1)).getD 1 := by
    intro row hrow
    have hmem : row.id ∈ t.rows.map (·.id) := List.mem_map.2 ⟨row, hrow, rfl⟩
    obtain ⟨m, hm⟩ : ∃ m, (t.rows.map (·.id)).max? = some m := by
      cases hm : (t.rows.map (·.id)).max? with
      | none => rw [List.max?_eq_none_iff] at hm; rw [hm] at hmem; cases hmem
      | some m => exact ⟨m, rfl⟩
    have := (List.max?_eq_some_iff.1 hm).2 _ hmem
    simp only [greatestId?, hm, Option.map_some, Option.getD_some]
    omega
  rw [hid]
  constructor
  · intro row hrow
    have := hrows row hrow
    split <;> omega
  · intro hauto
    rw [if_pos hauto]
    omega

theorem insertInOrder_of_lt {row : Row} {rows : List Row} (h : ∀ other ∈ rows, other.id < row.id) :
    insertInOrder row rows = rows ++ [row] := by
  induction rows with
  | nil => rfl
  | cons other rest ih =>
    have := h other (by simp)
    rw [insertInOrder, if_neg (by omega), ih fun r hr => h r (by simp [hr])]
    rfl

/-! ## Failures of a row -/

/-- A failure of the row itself, not one that a trigger raises. -/
def isOfRow : Failure → Bool
  | .raised _ _ => false
  | _ => true

theorem eq_full_of_nextId {t : StoredTable} {e : Failure} (h : nextId t = .error e) :
    e = .full := by
  simp only [nextId] at h
  generalize (if t.isAutoIncrement then _ else _ : Int) = id at h
  split at h
  · cases h
  · cases h; rfl

theorem isOfRow_of_nextId {t : StoredTable} {e : Failure} (h : nextId t = .error e) :
    isOfRow e = true := by
  rw [eq_full_of_nextId h]
  rfl

/-- There is a next row id if none is the greatest that there can be. -/
theorem exists_nextId {t : StoredTable} (hauto : t.isAutoIncrement = false)
    (h : ∀ row ∈ t.rows, row.id < maxInteger) : ∃ id, nextId t = .ok id := by
  have hnext : ((greatestId? t).map (· + 1)).getD 1 ≤ maxInteger := by
    cases hgreatest : greatestId? t with
    | none => decide
    | some m =>
      obtain ⟨row, hrow, rfl⟩ := List.mem_map.1 (List.max?_eq_some_iff.1 hgreatest).1
      exact Int.add_one_le_iff.2 (h row hrow)
  refine ⟨((greatestId? t).map (· + 1)).getD 1, ?_⟩
  simp only [nextId, hauto, Bool.false_eq_true, if_false]
  rw [if_pos hnext]

/-! ## The steps of a write -/

variable {verb : WriteVerb} {atOnce : Bool} {db : Database} {kind : SchemaKind} {t : StoredTable}
  {r : NewRow}

theorem writeRow_eq : writeRow verb atOnce db kind t r = (do
    let supplied ← storedValues t r.values
    if !(db.eventTriggers kind t.name .before .insert).isEmpty then
      db.fireAll kind .before .insert
        (eventFrame "new" t (rowBefore t (← requestedId r) supplied)) t.name
    let id ← rowId t r
    let values ← fillNulls verb t (withRowid t (.integer id) supplied)
    checkConditions t ⟨id, values⟩
    let s ← freeKeys verb (db.schema kind) t ⟨id, values⟩
    let written ← addRowTo s t.name ⟨id, values⟩
    if atOnce && isOrphanOf written t ⟨id, values⟩ then throw .foreignKey
    (db.setSchema kind written).fireAll kind .after .insert
      (eventFrame "new" t ⟨id, values⟩) t.name
    return (db.setSchema kind written, id)) := by
  simp only [writeRow, rowId]
  cases requestedId r with
  | error e => simp [error_bind]
  | ok o => cases o <;> simp [ok_bind]

/-! ## New rows -/

/-- A row under a new id takes no key. -/
theorem freeKeys_of_lt {s : Schema} {row : Row} (htable : s.table? t.name = some t)
    (hkeys : s.uniqueKeys t = []) (hrowid : t.isWithoutRowid = false)
    (h : ∀ other ∈ t.rows, other.id < row.id) : freeKeys verb s t row = .ok s := by
  have hfree : t.rows.any (fun other => other.id == row.id) = false := by
    rw [List.any_eq_false]
    intro other hother
    rw [beq_iff_eq]
    exact Int.ne_of_lt (h other hother)
  have hid : freeKey verb s t.name rowidTaken (fun other => other.id == row.id) = .ok s := by
    rw [freeKey, htable]
    simp only [hfree, Bool.not_false, if_true]
    rfl
  rw [freeKeys, hrowid]
  simp only [Bool.false_eq_true, if_false, hid, ok_bind, hkeys]
  rfl

/-- A row under a new id comes last. -/
theorem addRowTo_of_lt {s : Schema} {row : Row} (htable : s.table? t.name = some t)
    (h : ∀ other ∈ t.rows, other.id < row.id) :
    addRowTo s t.name row = .ok (s.setTable { t with
      rows := t.rows ++ [row]
      counter := if t.isAutoIncrement then max t.counter row.id else t.counter }) := by
  rw [addRowTo, htable]
  simp only [addRow, insertInOrder_of_lt h]

end Database

end Tablewright
