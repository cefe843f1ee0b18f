import TickScript.Value

/-! What running things report: a resumed command, a step of the interpreter,
and the interpreter as a whole. -/
namespace TickScript

inductive Resume
  /-- The command needs another tick. -/
  | unfinished
  /-- The command takes itself for skipped. -/
  | declined
  | done (value : Value)

inductive StepResult
  /-- The command in flight needs another tick. -/
  | stillRunning
  | completed
  | finished
  deriving DecidableEq, Repr

def StepResult.name : StepResult → String
  | stillRunning => "StillRunning"
  | completed => "Completed"
  | finished => "Finished"

inductive Stage
  | notStarted | running | complete
  deriving DecidableEq, Repr

def Stage.name : Stage → String
  | notStarted => "NotStarted"
  | running => "Running"
  | complete => "Complete"

end TickScript
