import TickScript.CommandLine
import TickScript.Event.Line

/-! The program: it reads what its request may need, does the job with one tick
per interval and prints. -/
namespace TickScript.Program

/-- The entry at a path. A file that cannot be read counts as missing. -/
def readEntry? (path : String) : IO (Option FileTree.Entry) := do
  try
    return some (.file (← IO.FS.readFile path))
  catch
    | .inappropriateType .. => return some .directory
    | _ => return none

def readTree (paths : List String) : IO FileTree := do
  let entries ← paths.filterMapM fun path => do
    return (← readEntry? path).map (path, ·)
  return ⟨entries⟩

/-- The variables that have a meaning of their own. -/
def knownVariables : List String :=
  ["HOME", "CADENCE_CONFIG_PATH", "CADENCE_RUNNER__TICK_INTERVAL_MS", "CADENCE_RUNNER__MAX_TICKS",
    "CADENCE_RUNNER__STOP_ON_ERROR", "CADENCE_LOG__LEVEL"]

def readVariables : IO Config.Environment := do
  let entries ← knownVariables.filterMapM fun name => do
    return (← IO.getEnv name).map (name, ·)
  return ⟨entries⟩

/-- The surroundings as far as a request needs them. -/
def readSurroundings (request : CommandLine.Request) : IO Config.Surroundings := do
  let environment ← readVariables
  let start : Config.Surroundings := ⟨← readTree [".env"], environment⟩
  let paths := ".env" :: request.task.scripts ++ start.paths request.config
  return ⟨← readTree paths, environment⟩

def log (level : String) (events : List Event) : IO Unit :=
  for event in events do
    if event.isShown level then IO.eprintln event.line

abbrev Run := Runner.Run (Builtin ⊕ Empty) (Builtin.Task ⊕ Empty) Unit

/-- Goes on with a run until it ends, with its interval between two ticks. -/
partial def follow (config : Config) (run : Run) : IO (Except CommandLine.Failure String) := do
  log config.logLevel run.interp.scene.log.reverse
  let run := { run with interp.scene.log := [] }
  let schedule := CommandLine.schedule config.runner
  unless run.ticks = 0 || run.interp.isFinished || run.atLimit config.runner do
    IO.sleep (UInt32.ofNat (min config.runner.tickIntervalMs (UInt32.size - 1)))
  match Runner.advance CommandLine.host config.runner schedule run with
  | (none, run) => follow config run
  | (some outcome, run) =>
    log config.logLevel run.interp.scene.log.reverse
    return CommandLine.outcomeText run.interp.position outcome

def perform (request : CommandLine.Request) : IO (Except CommandLine.Failure String) := do
  let s ← readSurroundings request
  match request.configure s with
  | (.error failure, _) => return .error failure
  | (.ok config, events) =>
    log config.logLevel events
    match request.task.prepare s.files config with
    | .error failure => return .error failure
    | .ok (.print text) => return .ok text
    | .ok (.run runner interp) => follow config (Runner.launch runner interp)

end TickScript.Program

def main (args : List String) : IO UInt32 := do
  match TickScript.CommandLine.Request.read args with
  | .error error =>
    IO.eprintln (error.message ++ "\n\n" ++ TickScript.CommandLine.usage)
    return if error = .help then 0 else 2
  | .ok request =>
    match ← TickScript.Program.perform request with
    | .ok output =>
      IO.print output
      return 0
    | .error failure =>
      IO.eprintln ("Error: " ++ failure.message)
      return 1
