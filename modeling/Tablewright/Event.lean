/-!
# Events

What is reported on the way, besides results: an event has a level, a message and named fields.
-/

namespace Tablewright

/-- How important an event is. -/
inductive EventLevel
  | debug
  | info
  | warning
  deriving DecidableEq, Repr

/-- An event. -/
structure Event where
  level : EventLevel
  message : String
  fields : List (String × String)
  deriving DecidableEq, Repr

end Tablewright
