import TickScript.Fault
import TickScript.Progress
import TickScript.Value.Printer

/-! What happens while scripts run, as data for a log: every event has a level,
a message and named fields. -/
namespace TickScript

inductive Event
  | started (index : Nat) (command : String)
  | skipped (index : Nat) (command : String)
  | declined (index : Nat)
  | completed (index : Nat) (value : Value)
  | startFailed (index : Nat) (error : ScriptError)
  | scriptComplete (size : Nat)
  /-- A line printed by a script, and its named arguments if it has any. -/
  | printed (line : String) (extras : Option String)
  | statePushed (depth : Nat)
  | statePopped (depth : Nat)
  | stateReplaced (depth : Nat)
  | pushRejected (maxDepth : Nat)
  | runStarted (commands tickMs : Nat)
  | ticked (tick : Nat) (cursor : Int) (result : StepResult)
  | tickFailed (tick : Nat) (cursor : Int) (error : ScriptError)
  | tickLimit (ticks : Nat) (cursor : Int)
  | runEnded (ticks : Nat) (finished : Bool) (errors : Nat)
  | loadingConfig (path : String)

namespace Event

inductive Level
  | trace | debug | info | warn
  deriving DecidableEq, Repr

def Level.name : Level → String
  | trace => "TRACE"
  | debug => "DEBUG"
  | info => "INFO"
  | warn => "WARN"

def level : Event → Level
  | skipped .. | declined .. | ticked .. => .trace
  | printed .. | runStarted .. | runEnded .. => .info
  | tickFailed .. | tickLimit .. => .warn
  | _ => .debug

def message : Event → String
  | started .. => "command started"
  | skipped .. => "guard unmet, skipping"
  | declined .. => "command reported unmet guard, skipping"
  | completed .. => "command completed"
  | startFailed .. => "next command failed to start"
  | scriptComplete .. => "script complete"
  | printed line _ => line
  | statePushed .. => "state pushed"
  | statePopped .. => "state popped"
  | stateReplaced .. => "state replaced"
  | pushRejected .. => "state stack full, push rejected"
  | runStarted .. => "starting script"
  | ticked .. => "tick"
  | tickFailed .. => "script error"
  | tickLimit .. => "tick limit reached"
  | runEnded .. => "script run ended"
  | loadingConfig .. => "loading config file"

def fields : Event → List (String × Json)
  | started index command => [("index", .int index), ("command", .str command)]
  | skipped index command => [("index", .int index), ("command", .str command)]
  | declined index => [("index", .int index)]
  | completed index value => [("index", .int index), ("value", .str value.shown)]
  | startFailed index error =>
    [("index", .int index), ("code", .str error.code), ("error", .str error.message)]
  | scriptComplete size => [("len", .int size)]
  | printed _ none => []
  | printed _ (some extras) => [("extras", .str extras)]
  | statePushed depth => [("depth", .int depth)]
  | statePopped depth => [("depth", .int depth)]
  | stateReplaced depth => [("depth", .int depth)]
  | pushRejected maxDepth => [("max_depth", .int maxDepth)]
  | runStarted commands tickMs => [("commands", .int commands), ("tick_ms", .int tickMs)]
  | ticked tick cursor result =>
    [("tick", .int tick), ("cursor", .int cursor), ("result", .str result.name)]
  | tickFailed tick cursor error =>
    [("tick", .int tick), ("cursor", .int cursor), ("code", .str error.code),
      ("error", .str error.message)]
  | tickLimit ticks cursor => [("ticks", .int ticks), ("cursor", .int cursor)]
  | runEnded ticks finished errors =>
    [("ticks", .int ticks), ("finished", .bool finished), ("errors", .int errors)]
  | loadingConfig path => [("path", .str path)]

end Event
end TickScript
