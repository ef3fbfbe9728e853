import Tablewright.Files.Tree
import Tablewright.Session.Basic

/-!
# Databases in files

A database in a file is opened by making the directories above the file. What is stored in the
main schema outlives a session, temporary objects do not.
-/

namespace Tablewright.Session

/-- Open a new database in a file. -/
def openFile (files : FileTree) (path : String) : Except SessionError (FileTree × Session) :=
  match files.makeParents path with
  | .ok files => .ok (files, start .empty)
  | .error fault => .error (.files fault)

/-- A new session on the database of another one. -/
def reopen (s : Session) : Session :=
  start ⟨(rollback s).database.main, []⟩

end Tablewright.Session
