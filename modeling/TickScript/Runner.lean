import TickScript.Interpreter

/-! Running a script in real time: one step per tick of a timer, until the script
is finished, a limit of ticks is reached or an error ends the run. The timer is
the host's; it is set to a fixed interval. -/
namespace TickScript

structure RunnerConfig where
  tickIntervalMs : Nat := 16
  /-- The number of ticks after which a run ends; zero is no limit. -/
  maxTicks : Nat := 0
  stopOnError : Bool := true
  deriving DecidableEq, Repr

namespace RunnerConfig

def tickInterval (config : RunnerConfig) : Time := Time.ofMillis config.tickIntervalMs

def tickLimit (config : RunnerConfig) : Option Nat :=
  if 0 < config.maxTicks then some config.maxTicks else none

end RunnerConfig

namespace Runner

variable {η σ ω : Type}

/-- The readings of the clock at which the ticks of a timer come, the first one under zero. -/
abbrev Schedule := Nat → Time

structure Summary where
  ticks : Nat
  finished : Bool
  errors : Nat
  names : Namespace

structure Abort where
  cursor : Int
  ticks : Nat
  error : ScriptError

def Abort.context (abort : Abort) : String :=
  "script aborted at command " ++ toString abort.cursor ++ " after " ++ toString abort.ticks ++
    " ticks"

def Abort.message (abort : Abort) : String := abort.context ++ ": " ++ abort.error.message

inductive Outcome
  | ended (summary : Summary)
  | aborted (abort : Abort)
  | brokeDown (cause : Breakdown)

/-- A run in progress: the ticks and errors so far. -/
structure Run (η σ ω : Type) where
  interp : Interpreter η σ ω
  ticks : Nat := 0
  errors : Nat := 0

def Run.note (run : Run η σ ω) (event : Event) : Run η σ ω :=
  { run with interp := { run.interp with scene := run.interp.scene.note event } }

/-- The end of a run that was not aborted. -/
def finish (run : Run η σ ω) : Outcome × Run η σ ω :=
  let finished := run.interp.isFinished
  (.ended ⟨run.ticks, finished, run.errors, run.interp.scene.names⟩,
    run.note (.runEnded run.ticks finished run.errors))

def Run.atLimit (config : RunnerConfig) (run : Run η σ ω) : Bool :=
  config.tickLimit.any fun limit => limit ≤ run.ticks

/-- The next tick: one step at its time, and the end of the run if the step ends it. -/
def tick (host : Host η σ ω) (config : RunnerConfig) (schedule : Schedule) (run : Run η σ ω) :
    Option Outcome × Run η σ ω :=
  let ticks := run.ticks + 1
  let (outcome, interp) := run.interp.step host (schedule run.ticks)
  let run := { run with interp, ticks }
  match outcome with
  | .ok .stillRunning => (none, run)
  | .ok result => (none, run.note (.ticked ticks interp.position result))
  | .error (.script error) =>
    let run := { run.note (.tickFailed ticks interp.position error) with errors := run.errors + 1 }
    if config.stopOnError then (some (.aborted ⟨interp.position, ticks, error⟩), run)
    else (none, run)
  | .error (.breakdown cause) => (some (.brokeDown cause), run)

/-- What comes next in a run: its end, if the script is finished or the limit reached, or a tick. -/
def advance (host : Host η σ ω) (config : RunnerConfig) (schedule : Schedule) (run : Run η σ ω) :
    Option Outcome × Run η σ ω :=
  if run.interp.isFinished then
    let (outcome, run) := finish run
    (some outcome, run)
  else if run.atLimit config then
    let (outcome, run) := finish (run.note (.tickLimit run.ticks run.interp.position))
    (some outcome, run)
  else tick host config schedule run

/-- Ticks until the run ends, at most as often as the fuel says; no outcome if it lasts longer. -/
def ticking (host : Host η σ ω) (config : RunnerConfig) (schedule : Schedule) :
    Nat → Run η σ ω → Option Outcome × Run η σ ω
  | 0, run => (none, run)
  | fuel + 1, run =>
    match advance host config schedule run with
    | (some outcome, run) => (some outcome, run)
    | (none, run) => ticking host config schedule fuel run

def launch (config : RunnerConfig) (interp : Interpreter η σ ω) : Run η σ ω :=
  Run.note { interp } (.runStarted interp.script.size config.tickIntervalMs)

/-- Runs a script. A timer cannot be set to an interval of no time. -/
def run (host : Host η σ ω) (config : RunnerConfig) (schedule : Schedule) (fuel : Nat)
    (interp : Interpreter η σ ω) : Option Outcome × Run η σ ω :=
  if config.tickInterval = 0 then (some (.brokeDown .zeroPeriod), { interp })
  else ticking host config schedule fuel (launch config interp)

/-- The time that has passed between the first and the last tick of a run. -/
def Run.elapsed (schedule : Schedule) (run : Run η σ ω) : Time :=
  schedule (run.ticks - 1) - schedule 0

end Runner
end TickScript
