/-!
# Status codes

A module's `call` and `load_config` answer with a signed 32-bit status. `Category` is what
a status means; its `message` is written for the log, and for the user only where the
submitted code is at fault.

## Main definitions

* `Category.ofStatus`, `Category.status` — the table, both ways.
* `Category.isUserCaused` — whether the submitted code is at fault.
* `Category.message` — the text for a category.
-/

namespace ScriptHost

/-- What a status means. -/
inductive Category where
  | success
  | instanceNull
  | preprocessingFailed
  | parsingFailed
  | alreadyRunning
  | invalidType
  | executionFailed
  /-- A status outside the table. -/
  | unknown (status : Int32)
  deriving DecidableEq, Repr

namespace Category

/-- The meaning of a status. -/
def ofStatus (status : Int32) : Category :=
  if status = 0 then .success
  else if status = -1 then .instanceNull
  else if status = -2 then .preprocessingFailed
  else if status = -3 then .parsingFailed
  else if status = -4 then .alreadyRunning
  else if status = -5 then .invalidType
  else if status = -6 then .executionFailed
  else .unknown status

/-- The status with a given meaning. -/
def status : Category → Int32
  | .success => 0
  | .instanceNull => -1
  | .preprocessingFailed => -2
  | .parsingFailed => -3
  | .alreadyRunning => -4
  | .invalidType => -5
  | .executionFailed => -6
  | .unknown status => status

/-- Every status is the status of its meaning. -/
theorem status_ofStatus (n : Int32) : (ofStatus n).status = n := by
  unfold ofStatus
  repeat' split
  all_goals simp_all [status]

/-- The name of a category. -/
def name : Category → String
  | .success => "Success"
  | .instanceNull => "InstanceNull"
  | .preprocessingFailed => "PreprocessingFailed"
  | .parsingFailed => "ParsingFailed"
  | .alreadyRunning => "AlreadyRunning"
  | .invalidType => "InvalidType"
  | .executionFailed => "ExecutionFailed"
  | .unknown _ => "Unknown"

/-- The call succeeded. -/
def isSuccess (c : Category) : Bool :=
  c = .success

/-- The submitted code, rather than the module, is at fault. -/
def isUserCaused : Category → Bool
  | .preprocessingFailed | .parsingFailed | .executionFailed => true
  | _ => false

/-- What happened, without saying whose fault it is. -/
def detail : Category → String
  | .success => "calling the VM instance was successful"
  | .instanceNull => "the instance was null"
  | .preprocessingFailed => "preprocessing failed"
  | .parsingFailed => "parsing failed"
  | .alreadyRunning => "the instance is already running"
  | .invalidType => "the provided type was invalid"
  | .executionFailed => "the execution did not succeed"
  | .unknown _ => "unknown status"

/-- Opens the message of a failure that the submitted code caused. -/
def userLead : String := "VM encountered an error while executing the code"

/-- Opens the message of every other category in the table. -/
def internalLead : String := "VM encountered an internal error"

/-- The text for a category. -/
def message : Category → String
  | .unknown status => "Unknown error! Error code: " ++ toString status.toInt
  | c => (if c.isUserCaused then userLead else internalLead) ++ ": " ++ c.detail

end Category

end ScriptHost
