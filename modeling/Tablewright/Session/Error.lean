import Tablewright.Files.Fault
import Tablewright.Sql.Failure

/-!
# Errors of a session

Why an operation on a session failed. Callers that repeat a write may take a duplicate for
success (`ignoringDuplicate`).
-/

namespace Tablewright

/-- Why an operation on a session failed. -/
inductive SessionError
  | database (failure : Sql.Failure)
  | files (fault : FileFault)
  | batch (error : BatchError)
  deriving DecidableEq, Repr

namespace SessionError

/-- The diagnostic for an error; a failure of the database has one if a constraint is violated. -/
def message? : SessionError → Option String
  | database failure => failure.text?.map ("database error: " ++ ·)
  | files fault => some ("I/O error: " ++ fault.message)
  | batch error => some error.message

/-- Whether the error is that of a row that is there already. -/
def isDuplicate : SessionError → Bool
  | database failure => failure.isDuplicate
  | _ => false

end SessionError

/-- A result in which a duplicate counts as success. -/
def ignoringDuplicate (result : Except SessionError Unit) : Except SessionError Unit :=
  match result with
  | .error e => if e.isDuplicate then .ok () else .error e
  | .ok () => .ok ()

end Tablewright
