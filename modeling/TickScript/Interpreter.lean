import TickScript.Evaluation

/-! The interpreter of one script. A host calls `step` once per tick: the
command in flight is resumed, and when it is done its value is bound, the cursor
moves on and the next command whose guard holds is started. Commands whose guard
does not hold cost no tick. -/
namespace TickScript

/-- The command at the cursor once it has been started. -/
structure InFlight (σ : Type) where
  suspension : σ
  binding : Option String

/-- A search for a command to start: the started command if there is one, and where it ended. -/
structure Launch (σ ω : Type) where
  outcome : Except Fault (Option (InFlight σ))
  cursor : Nat
  scene : Scene ω

/-- The end of a step: its outcome, the cursor, the command in flight there and the scene. -/
structure Landing (σ ω : Type) where
  outcome : Except Fault StepResult
  cursor : Nat
  inFlight : Option (InFlight σ)
  scene : Scene ω

namespace Setting

variable {η σ ω : Type}

/-- Starts the first of the given commands whose guard holds. The first of them stands at `index`,
and the script ends after the last. -/
def launch (setting : Setting η σ ω) : List Command → Nat → Scene ω → Launch σ ω
  | [], index, scene => ⟨.ok none, index, scene.note (.scriptComplete index)⟩
  | command :: rest, index, scene =>
    match setting.begin command scene with
    | (.error fault, scene) => ⟨.error fault, index, scene⟩
    | (.ok none, scene) =>
      setting.launch rest (index + 1) (scene.note (.skipped index command.name))
    | (.ok (some suspension), scene) =>
      ⟨.ok (some ⟨suspension, command.binding⟩), index, scene.note (.started index command.name)⟩

/-- Completes the command at `index` before the given ones: binds its value and starts the next.
The completion stands even if the next command has an error; the step after this one tries that
command again. -/
def complete (setting : Setting η σ ω) (binding : Option String) (rest : List Command)
    (index : Nat) (value : Value) (scene : Scene ω) : Landing σ ω :=
  let scene := (scene.note (.completed index value)).bind? binding value
  let launch := setting.launch rest (index + 1) scene
  match launch.outcome with
  | .ok inFlight => ⟨.ok .completed, launch.cursor, inFlight, launch.scene⟩
  | .error (.script error) =>
    ⟨.ok .completed, launch.cursor, none, launch.scene.note (.startFailed launch.cursor error)⟩
  | .error (.breakdown cause) =>
    ⟨.error (.breakdown cause), launch.cursor, none, launch.scene⟩

/-- Resumes the command in flight at `index` before the given ones, and goes on as told if it
declines. -/
def settle (setting : Setting η σ ω) (flight : InFlight σ) (rest : List Command) (index : Nat)
    (goOn : Scene ω → Landing σ ω) (scene : Scene ω) : Landing σ ω :=
  match setting.resume flight.suspension scene with
  | (.error fault, suspension, scene) =>
    ⟨.error fault, index, some { flight with suspension }, scene⟩
  | (.ok .unfinished, suspension, scene) =>
    ⟨.ok .stillRunning, index, some { flight with suspension }, scene⟩
  | (.ok (.done value), _, scene) => setting.complete flight.binding rest index value scene
  | (.ok .declined, _, scene) => goOn (scene.note (.declined index))

/-- Starts the given commands, the first of which stands at `index`, and resumes each one that is
started at once, until one does not decline. -/
def advance (setting : Setting η σ ω) : List Command → Nat → Scene ω → Landing σ ω
  | [], index, scene => ⟨.ok .finished, index, none, scene.note (.scriptComplete index)⟩
  | command :: rest, index, scene =>
    match setting.begin command scene with
    | (.error fault, scene) => ⟨.error fault, index, none, scene⟩
    | (.ok none, scene) =>
      setting.advance rest (index + 1) (scene.note (.skipped index command.name))
    | (.ok (some suspension), scene) =>
      setting.settle ⟨suspension, command.binding⟩ rest index
        (fun scene => setting.advance rest (index + 1) scene)
        (scene.note (.started index command.name))

end Setting

/-- A script with the state of its run. The cursor is absent before the first step, the index of
the current command while the script runs, and the size of the script in the end. -/
structure Interpreter (η σ ω : Type) where
  script : Script
  registry : Registry η
  scene : Scene ω
  cursor : Option Nat := none
  inFlight : Option (InFlight σ) := none

namespace Interpreter

variable {η σ ω : Type}

def fresh (script : Script) (registry : Registry η) (world : ω) : Interpreter η σ ω where
  script := script
  registry := registry
  scene := { names := .initial, world := world }

def isFinished (interp : Interpreter η σ ω) : Bool :=
  interp.cursor.any fun cursor => interp.script.size ≤ cursor

def stage (interp : Interpreter η σ ω) : Stage :=
  match interp.cursor with
  | none => .notStarted
  | some cursor => if interp.script.size ≤ cursor then .complete else .running

/-- The cursor as hosts see it: -1 before the first step. -/
def position (interp : Interpreter η σ ω) : Int :=
  match interp.cursor with
  | none => -1
  | some cursor => cursor

def currentCommand? (interp : Interpreter η σ ω) : Option Command :=
  interp.cursor.bind interp.script.get?

/-- The interpreter's state in a few words, for developers. -/
def describe (interp : Interpreter η σ ω) : String :=
  "Interpreter \x7b cursor: " ++ toString interp.position ++
    ", len: " ++ toString interp.script.size ++ ", state: " ++ interp.stage.name ++
    ", in_flight: " ++ (if interp.inFlight.isSome then "true" else "false") ++ " \x7d"

def setting (interp : Interpreter η σ ω) (host : Host η σ ω) (now : Time) : Setting η σ ω :=
  ⟨host, interp.registry, now⟩

/-- Where a step from an unfinished state ends. -/
def landing (host : Host η σ ω) (now : Time) (interp : Interpreter η σ ω) : Landing σ ω :=
  let setting := interp.setting host now
  let index := interp.cursor.getD 0
  match interp.inFlight with
  | none => setting.advance (interp.script.commands.drop index) index interp.scene
  | some flight =>
    let rest := interp.script.commands.drop (index + 1)
    setting.settle flight rest index (setting.advance rest (index + 1)) interp.scene

/-- Runs one tick. At most one command is completed. A script error leaves the cursor on the
command it comes from, so that the next step tries that command again. -/
def step (host : Host η σ ω) (now : Time) (interp : Interpreter η σ ω) :
    Except Fault StepResult × Interpreter η σ ω :=
  if interp.isFinished then (.ok .finished, interp)
  else
    let landing := interp.landing host now
    (landing.outcome, { interp with
      scene := landing.scene, cursor := some landing.cursor, inFlight := landing.inFlight })

/-- Steps until the script is finished or a step fails, at most `limit` times, and counts the steps
that did work. -/
def runToCompletion (host : Host η σ ω) (now : Time) :
    Nat → Interpreter η σ ω → Except Fault Nat × Interpreter η σ ω
  | 0, interp => (.ok 0, interp)
  | limit + 1, interp =>
    if interp.isFinished then (.ok 0, interp)
    else
      match interp.step host now with
      | (.error fault, next) => (.error fault, next)
      | (.ok .finished, next) => (.ok 0, next)
      | (.ok _, next) =>
        let (counted, last) := runToCompletion host now limit next
        (counted.map (· + 1), last)

/-- Evaluates an expression in the namespace of the script. Nested commands may bind values. -/
def evaluate (host : Host η σ ω) (now : Time) (interp : Interpreter η σ ω) (expr : Expr) :
    Except Fault Value × Interpreter η σ ω :=
  let (outcome, scene) := (interp.setting host now).eval expr interp.scene
  (outcome, { interp with scene })

end Interpreter
end TickScript
