import Tablewright.Proofs.Sql.Conditions
import Tablewright.Proofs.Statement.Reading
import Tablewright.Proofs.Text.Lines
import Tablewright.Statement.Filter

/-!
# Deletions read back

The statement that deletes the rows matching a filter is read back as the deletion it is meant to
be (`isStatement_deletion`): from the table, under the conjunction of one equation for each field,
in their order. The columns need names that mean a column in an expression as well
(`IsColumnWord`).
-/

namespace Tablewright

open Sql Grammar

/-- A name that is written without quotes and means a column where an operand begins. -/
def IsColumnWord (name : String) : Prop :=
  IsUsableName name ∧ isOperandWord name = false

/-! ## The tokens of a deletion -/

theorem Sql.Spells.equals {rest : List Char} {ts : List Token} (h : Spells rest ts) :
    Spells ('=' :: ' ' :: rest) (.symbol "=" :: ts) := by
  have : '=' :: ' ' :: rest = ['='] ++ ' ' :: rest := rfl
  rw [this]
  refine .cons ?_ (by simp) (by simp) (by simp) h.space
  rw [List.singleton_append, afterGap_of_not_gap _ (by decide) (by decide) (by decide), token]
  simp [symbols, isNameStart]
  rfl

namespace Filter

variable {c : String} {columns : List String} {rest : List Char} {ts : List Token}

/-- An equation as it is written. -/
def writtenEquation (c : String) : String :=
  c ++ " = :" ++ c

theorem spells_equation (hc : isPlainName c = true) (hr : endsName rest = true)
    (h : Spells rest ts) :
    Spells ((writtenEquation c).toList ++ rest) (equationTokens c ++ ts) := by
  have hne : c.toList ≠ [] := by
    intro hnil
    rw [isPlainName, hnil] at hc
    cases hc
  have hparameter : Spells (':' :: (c.toList ++ rest)) (.parameter (":" ++ c) :: ts) := by
    have := Spells.parameter hne (all_isNameChar_of_isPlainName hc) hr h
    rwa [show String.ofList (':' :: c.toList) = ":" ++ c by simp] at this
  have hname : Spells (c.toList ++ ' ' :: '=' :: ' ' :: ':' :: (c.toList ++ rest))
      (.word c :: .symbol "=" :: .parameter (":" ++ c) :: ts) :=
    .word hc rfl (.space (.equals hparameter))
  simpa [writtenEquation, equationTokens] using hname

theorem spells_conjoin (hc : ∀ c ∈ columns, isPlainName c = true) :
    Spells (columns.flatMap fun c => " AND ".toList ++ (writtenEquation c).toList)
        (conjoinTokens columns) ∧
      endsName (columns.flatMap fun c => " AND ".toList ++ (writtenEquation c).toList) = true := by
  induction columns with
  | nil => exact ⟨.finish rfl (by simp), rfl⟩
  | cons c rest ih =>
    obtain ⟨hrest, hends⟩ := ih fun d hd => hc d (List.mem_cons_of_mem c hd)
    refine ⟨?_, by simp [endsName, isNameChar, isNameStart]⟩
    have hequation := spells_equation (hc c (by simp)) hends hrest
    have hand : Spells (' ' :: ("AND".toList ++ ' ' :: _)) (.word "AND" :: _) :=
      .space (.word rfl rfl (.space hequation))
    simpa [conjoinTokens] using hand

/-- The deletion of the rows that meet all equations, as it is written. -/
def writtenDeletion (table : String) (columns : List String) : String :=
  "DELETE FROM " ++ table ++ " WHERE " ++ " AND ".intercalate (columns.map writtenEquation)

theorem deletion_eq (table : String) (fields : Fields) :
    deletion table fields = writtenDeletion table fields.names := by
  unfold deletion writtenDeletion condition Fields.names
  rw [List.map_map]
  rfl

theorem spells_writtenDeletion {table : String} (htable : isPlainName table = true)
    (hne : columns ≠ []) (hc : ∀ c ∈ columns, isPlainName c = true) :
    Spells (writtenDeletion table columns).toList (deletionTokens table columns) := by
  obtain ⟨c, others, rfl⟩ := List.exists_cons_of_ne_nil hne
  obtain ⟨hothers, hends⟩ := spells_conjoin fun d hd => hc d (List.mem_cons_of_mem c hd)
  have hequations := spells_equation (hc c (by simp)) hends hothers
  have hhead : Spells _ (.word "DELETE" :: .word "FROM" :: .word table :: .word "WHERE" :: _) :=
    .word rfl rfl (.space (.word rfl rfl (.space (.word htable rfl (.space (.word rfl rfl
      (.space hequations)))))))
  unfold writtenDeletion
  simpa [String.toList_intercalate, deletionTokens, conjunctionTokens,
    Function.comp_def, Text.intercalate_cons, List.flatMap_map] using hhead

/-- **A deletion is read back.** -/
theorem isStatement_deletion {table : String} {fields : Fields} (htable : IsUsableName table)
    (hne : fields ≠ []) (hc : ∀ c ∈ fields.names, IsColumnWord c) :
    IsStatement (deletion table fields) (.delete ⟨none, table⟩ (conjunction fields.names)) := by
  have hnames : fields.names ≠ [] := by simpa [Fields.names] using hne
  rw [deletion_eq]
  refine isStatement_of_takes (spells_writtenDeletion htable.1 hnames fun c h => (hc c h).1.1).lex
    (by simp) (by simp) ?_
  exact takes_deletion htable.2 hnames (fun c h => (hc c h).1.2) fun c h => (hc c h).2

end Filter

end Tablewright
