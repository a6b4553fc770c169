/-!
# Statuses and errors

Every command either answers or fails with a `StageError`. An error keeps its cause; its text
and the status that a host sees are functions of the cause.

* `Status.ofCode?_code` — a status is recovered from its code.
-/

namespace WidgetStage

/-- The outcomes that a host can tell apart. -/
inductive Status where
  | none
  | notExist
  | invalidParameter
  | fault
  | ioError
  | outOfMemory
  deriving DecidableEq, Repr

namespace Status

/-- The number of a status. -/
def code : Status → Int
  | .none => 0
  | .notExist => -1
  | .invalidParameter => -2
  | .fault => -3
  | .ioError => -4
  | .outOfMemory => -5

/-- The status with a number. -/
def ofCode? (code : Int) : Option Status :=
  if code = 0 then some .none
  else if code = -1 then some .notExist
  else if code = -2 then some .invalidParameter
  else if code = -3 then some .fault
  else if code = -4 then some .ioError
  else if code = -5 then some .outOfMemory
  else Option.none

/-- The name of a status. -/
def name : Status → String
  | .none => "none"
  | .notExist => "not-exist"
  | .invalidParameter => "invalid-parameter"
  | .fault => "fault"
  | .ioError => "io-error"
  | .outOfMemory => "out-of-memory"

/-- A status is recovered from its code. -/
theorem ofCode?_code (s : Status) : ofCode? s.code = some s := by
  cases s <;> rfl

end Status

/-- Why a command failed. -/
inductive StageError where
  /-- No live node has the id; `none` asks for the root. -/
  | nodeNotFound (id : Option String)
  /-- No handle with the number is loaded. -/
  | handleNotFound (handle : Nat)
  /-- An argument is out of its range. -/
  | invalidParameter (message : String)
  /-- A file could not be used. -/
  | io (path message : String)
  /-- There is not enough memory for something. -/
  | outOfMemory (context : String)
  /-- Something that should not happen. -/
  | fault (message : String)
  deriving DecidableEq, Repr

namespace StageError

/-- How a node is named in messages. -/
def nodeName : Option String → String
  | some id => id
  | none => "<root>"

/-- The text of the error. -/
def message : StageError → String
  | .nodeNotFound id => "node not found: " ++ nodeName id
  | .handleNotFound handle => "handle not found: " ++ toString handle
  | .invalidParameter message => "invalid parameter: " ++ message
  | .io path message => "I/O error on " ++ path ++ ": " ++ message
  | .outOfMemory context => "out of memory: " ++ context
  | .fault message => "fault: " ++ message

/-- The status that a host sees. -/
def status : StageError → Status
  | .nodeNotFound _ => .notExist
  | .handleNotFound _ => .notExist
  | .invalidParameter _ => .invalidParameter
  | .io _ _ => .ioError
  | .outOfMemory _ => .outOfMemory
  | .fault _ => .fault

/-- An error is never the status of success. -/
theorem status_ne_none (e : StageError) : e.status ≠ .none := by
  cases e <;> simp [status]

end StageError

/-- What became of an input event. -/
inductive EventStatus where
  | done
  | first
  | last
  | error
  deriving DecidableEq, Repr

end WidgetStage
