import TickScript.Host
import TickScript.Registry
import TickScript.Script

/-! Evaluation of expressions and the start of commands. A nested command runs
to its end within the evaluation: it is started and resumed once, and one that
asks for another tick is an error. What was bound before a fault stays bound. -/
namespace TickScript

/-- What evaluation reads and writes: the namespace, the host's world and the log, whose newest
event comes first. -/
structure Scene (ω : Type) where
  names : Namespace
  world : ω
  log : List Event := []

namespace Scene

variable {ω : Type}

def note (scene : Scene ω) (event : Event) : Scene ω := { scene with log := event :: scene.log }

/-- Notes events in the order in which they happened. -/
def noteAll (scene : Scene ω) (events : List Event) : Scene ω :=
  { scene with log := events.reverse ++ scene.log }

def bind (scene : Scene ω) (name : String) (value : Value) : Scene ω :=
  { scene with names := scene.names.insert name value }

/-- Binds a value under a name, if there is a name. -/
def bind? (scene : Scene ω) : Option String → Value → Scene ω
  | none, _ => scene
  | some name, value => scene.bind name value

end Scene

/-- What evaluation reads only: the host, its registered handlers and the reading of its clock. -/
structure Setting (η σ ω : Type) where
  host : Host η σ ω
  registry : Registry η
  now : Time

namespace Setting

variable {η σ ω : Type}

def context (setting : Setting η σ ω) (scene : Scene ω) : Context := ⟨setting.now, scene.names⟩

/-- Starts a command with evaluated arguments by the handler of its name. -/
def invoke (setting : Setting η σ ω) (invocation : Invocation) (scene : Scene ω) :
    Except Fault σ × Scene ω :=
  match setting.registry.resolve invocation.name with
  | .error error => (.error (.script error), scene)
  | .ok handler =>
    let started := setting.host.start handler invocation (setting.context scene) scene.world
    (started.outcome, { scene with world := started.world }.noteAll started.events)

def resume (setting : Setting η σ ω) (suspension : σ) (scene : Scene ω) :
    Except Fault Resume × σ × Scene ω :=
  let resumed := setting.host.resume suspension (setting.context scene) scene.world
  (resumed.outcome, resumed.suspension,
    { scene with world := resumed.world }.noteAll resumed.events)

/-- The error of a nested command that asks for another tick. -/
def notWithinTick (command : String) : ScriptError :=
  .evaluation command "command did not finish within the tick; only top-level commands may wait"

/-- Takes the value of a started nested command, null if it declines, and binds it. -/
def finishNested (setting : Setting η σ ω) (command : Command) (suspension : σ) (scene : Scene ω) :
    Except Fault Value × Scene ω :=
  match setting.resume suspension scene with
  | (.error fault, _, scene) => (.error fault, scene)
  | (.ok .unfinished, _, scene) => (.error (.script (notWithinTick command.name)), scene)
  | (.ok .declined, _, scene) => (.ok .null, scene.bind? command.binding .null)
  | (.ok (.done value), _, scene) => (.ok value, scene.bind? command.binding value)

/-- Starts a prepared command, unless its guard did not hold or its preparation failed. -/
def enter (setting : Setting η σ ω) :
    Except Fault (Option Invocation) × Scene ω → Except Fault (Option σ) × Scene ω
  | (.error fault, scene) => (.error fault, scene)
  | (.ok none, scene) => (.ok none, scene)
  | (.ok (some invocation), scene) =>
    match setting.invoke invocation scene with
    | (.error fault, scene) => (.error fault, scene)
    | (.ok suspension, scene) => (.ok (some suspension), scene)

mutual

/-- The value of an expression; a nested command whose guard does not hold is null. -/
def eval (setting : Setting η σ ω) : Expr → Scene ω → Except Fault Value × Scene ω
  | .lit value, scene => (.ok value, scene)
  | .name name, scene =>
    match scene.names.resolve name with
    | .ok value => (.ok value, scene)
    | .error error => (.error (.script error), scene)
  | .call command, scene =>
    match setting.enter (setting.prepare command scene) with
    | (.error fault, scene) => (.error fault, scene)
    | (.ok none, scene) => (.ok .null, scene)
    | (.ok (some suspension), scene) => setting.finishNested command suspension scene

/-- Evaluates the guard, then the arguments, then the named arguments of a command; if the guard
does not hold, nothing else. -/
def prepare (setting : Setting η σ ω) :
    Command → Scene ω → Except Fault (Option Invocation) × Scene ω
  | .positional name args, scene =>
    match setting.evalAll args scene with
    | (.error fault, scene) => (.error fault, scene)
    | (.ok values, scene) => (.ok (some { name := name, args := values }), scene)
  | .keyword name args named guard _, scene =>
    match setting.evalGuard guard scene with
    | (.error fault, scene) => (.error fault, scene)
    | (.ok false, scene) => (.ok none, scene)
    | (.ok true, scene) =>
      match setting.evalAll args scene with
      | (.error fault, scene) => (.error fault, scene)
      | (.ok values, scene) =>
        match setting.evalNamed named scene with
        | (.error fault, scene) => (.error fault, scene)
        | (.ok entries, scene) =>
          (.ok (some { name := name, args := values, named := Table.ofList entries }), scene)

/-- Whether a guard holds; an absent one does. -/
def evalGuard (setting : Setting η σ ω) : Option Expr → Scene ω → Except Fault Bool × Scene ω
  | none, scene => (.ok true, scene)
  | some guard, scene =>
    match setting.eval guard scene with
    | (.error fault, scene) => (.error fault, scene)
    | (.ok value, scene) => (.ok value.holds, scene)

def evalAll (setting : Setting η σ ω) : List Expr → Scene ω → Except Fault (List Value) × Scene ω
  | [], scene => (.ok [], scene)
  | expr :: rest, scene =>
    match setting.eval expr scene with
    | (.error fault, scene) => (.error fault, scene)
    | (.ok value, scene) =>
      match setting.evalAll rest scene with
      | (.error fault, scene) => (.error fault, scene)
      | (.ok values, scene) => (.ok (value :: values), scene)

def evalNamed (setting : Setting η σ ω) :
    List (String × Expr) → Scene ω → Except Fault (List (String × Value)) × Scene ω
  | [], scene => (.ok [], scene)
  | (name, expr) :: rest, scene =>
    match setting.eval expr scene with
    | (.error fault, scene) => (.error fault, scene)
    | (.ok value, scene) =>
      match setting.evalNamed rest scene with
      | (.error fault, scene) => (.error fault, scene)
      | (.ok entries, scene) => (.ok ((name, value) :: entries), scene)

end

/-- The started command, or nothing if its guard does not hold. -/
def begin (setting : Setting η σ ω) (command : Command) (scene : Scene ω) :
    Except Fault (Option σ) × Scene ω :=
  setting.enter (setting.prepare command scene)

end Setting
end TickScript
