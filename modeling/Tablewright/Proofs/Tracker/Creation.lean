import Tablewright.Proofs.Database.FixedText
import Tablewright.Proofs.Session.Effects
import Tablewright.Proofs.Tracker.Contents

/-!
# Creating the tables

The script of the tracker, run on an empty database, makes its tables without rows
(`effect_createTables`). The script is fixed, so this is computed from the characters of its lines.
-/

namespace Tablewright.Tracker

open Sql Database

section Lines

variable {l : String} {cs : List Char} {lines : List String} {chars : List (List Char)}

theorem map_toList_cons (hl : l.toList = cs) (h : lines.map String.toList = chars) :
    (l :: lines).map String.toList = cs :: chars := by
  rw [List.map_cons, hl, h]

theorem toList_join_lines (h : lines.map String.toList = chars) :
    (String.join (lines.map (· ++ "\n"))).toList = chars.flatMap (· ++ ['\n']) := by
  subst h
  rw [String.toList_join, List.flatMap_map, List.flatMap_map]
  exact List.flatMap_congr fun l _ => String.toList_append

/-- What becomes of the script is what becomes of the characters of its lines. -/
theorem runScript_script {db : Database} (h : script.scriptLines.map String.toList = chars)
    (hrun : let outcome := runChars (chars.flatMap (· ++ ['\n']))
      outcome.database = db ∧ outcome.failure = none) :
    let outcome := Database.empty.runScript 0 script
    outcome.database = db ∧ outcome.failure = none := by
  intro outcome
  have houtcome : outcome = runChars (chars.flatMap (· ++ ['\n'])) :=
    runScript_of_toList (toList_join_lines h)
  rw [houtcome]
  exact hrun

end Lines

set_option maxRecDepth 2000 in
theorem database_runScript_script :
    let outcome := Database.empty.runScript 0 script
    outcome.database = Contents.empty.database ∧ outcome.failure = none := by
  apply runScript_script
  case h =>
    -- The characters are found one line after the other.
    repeat
      apply map_toList_cons
      case hl => first | with_reducible exact String.toList_ofList | exact Text.toList_pieces _ _
    exact List.map_nil
  case hrun => decide +kernel

/-- **Creating the tables** leaves an empty database with tables without rows. -/
theorem effect_createTables :
    Session.Effect createTables (Session.start .empty) (.ok ()) Contents.empty.database := by
  obtain ⟨hdatabase, hfailure⟩ := database_runScript_script
  have heffect := Session.effect_execute (s := Session.start .empty) rfl hfailure
  rw [← hdatabase]
  exact heffect

end Tablewright.Tracker
