import TickScript.Builtin.Host
import TickScript.CommandLine.Request
import TickScript.Config.Document
import TickScript.Config.Layers
import TickScript.Runner
import TickScript.Script.Loader
import TickScript.Script.Names

/-! The program behind the command line: running a script, checking it and
showing the configuration. The configuration is built first, whatever the task. -/
namespace TickScript.CommandLine

inductive Failure
  | config (error : ConfigError)
  | script (path : String) (error : Script.LoadError)
  | unknownCommands (path : String) (names : List String)
  | aborted (abort : Runner.Abort)
  | unwritable
  | brokeDown (cause : Breakdown)

def Failure.ofConfigError : ConfigError → Failure
  | .brokeDown cause => brokeDown cause
  | error => config error

def Failure.ofWriting : ConfigError → Failure
  | .brokeDown cause => brokeDown cause
  | _ => unwritable

def Failure.message : Failure → String
  | config error => "Failed to load configuration: " ++ error.message
  | script path error => "Failed to load script: " ++ Text.quotedPath path ++ ": " ++ error.message
  | unknownCommands path names => path ++ ": unknown command(s): " ++ ", ".intercalate names
  | aborted abort => abort.message
  | unwritable => ConfigError.unwritable.message
  | brokeDown cause => cause.message

/-- The settings of a request, which go before the configuration's own. -/
def Request.overrides (request : Request) : Config.Overrides :=
  match request.task with
  | .run _ tickMs maxTicks keepGoing =>
    { path := request.config
      tickIntervalMs := tickMs
      maxTicks
      stopOnError := if keepGoing then some false else none }
  | _ => { path := request.config }

def Request.configure (request : Request) (s : Config.Surroundings) :
    Except Failure Config × List Event :=
  let (config, events) := Config.build request.overrides s
  (config.mapError .ofConfigError, events)

def loadScript (files : FileTree) (path : String) : Except Failure Script :=
  (Script.ofFile files path).mapError (.script path)

/-- An interpreter with the built-in commands only. -/
abbrev Interp := Interpreter (Builtin ⊕ Empty) (Builtin.Task ⊕ Empty) Unit

abbrev host : Host (Builtin ⊕ Empty) (Builtin.Task ⊕ Empty) Unit := Host.none.withBuiltins

def interpreter (script : Script) : Interp := .create script .empty ()

/-- The report of a run that was not aborted, with the bindings at its end. -/
def summaryText (summary : Runner.Summary) (position : Int) : String :=
  (if summary.finished then "Finished in " ++ toString summary.ticks ++ " ticks\n"
    else "Stopped after " ++ toString summary.ticks ++ " ticks at command " ++
      toString position ++ "\n") ++
  (if summary.errors = 0 then "" else "Script errors: " ++ toString summary.errors ++ "\n") ++
  "\nBindings:\n" ++
  String.join (summary.names.entries.map fun (name, value) =>
    "  " ++ name ++ " = " ++ value.toJson.render ++ "\n")

def outcomeText (position : Int) : Runner.Outcome → Except Failure String
  | .ended summary => .ok (summaryText summary position)
  | .aborted abort => .error (.aborted abort)
  | .brokeDown cause => .error (.brokeDown cause)

def checkText (path : String) (script : Script) : Except Failure String :=
  let builtins : Registry (Builtin ⊕ Empty) := Registry.builtins
  match script.unknownCommands builtins.contains with
  | [] => .ok (path ++ ": " ++ toString script.size ++ " command(s), OK\n")
  | names => .error (.unknownCommands path names)

/-- What is left to do for a request once everything is loaded. -/
inductive Job
  | print (text : String)
  | run (config : RunnerConfig) (interp : Interp)

/-- Loads the script of a request and does what needs no time. -/
def Task.prepare (task : Task) (files : FileTree) (config : Config) : Except Failure Job :=
  match task with
  | .config => (config.toText.mapError .ofWriting).map .print
  | .check path => do
    let script ← loadScript files path
    (checkText path script).map .print
  | .run path .. => do
    let script ← loadScript files path
    .ok (.run config.runner (interpreter script))

/-- How far ahead a timer looks: thirty years of 365 days. -/
def horizon : Time := Time.ofMillis 946080000000

/-- The ticks of the program's timer, which is started with the clock. Where the interval leads
beyond its horizon, the next tick comes at the horizon. -/
def schedule (config : RunnerConfig) : Runner.Schedule :=
  fun count => count * min config.tickInterval horizon

/-- Does a job. There is no result if it lasts longer than the fuel. -/
def Job.execute (fuel : Nat) : Job → Option (Except Failure String) × List Event
  | .print text => (some (.ok text), [])
  | .run config interp =>
    let (outcome, last) := Runner.run host config (schedule config) fuel interp
    (outcome.map (outcomeText last.interp.position), last.interp.scene.log.reverse)

/-- The output of a request or why there is none, and the events on the way. -/
def execute (s : Config.Surroundings) (fuel : Nat) (request : Request) :
    Option (Except Failure String) × List Event :=
  let (config, events) := request.configure s
  match config.bind (request.task.prepare s.files) with
  | .error failure => (some (.error failure), events)
  | .ok job =>
    let (result, others) := job.execute fuel
    (result, events ++ others)

end TickScript.CommandLine
