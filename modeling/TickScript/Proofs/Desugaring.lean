import TickScript.Proofs.Recording
import TickScript.Script.Names

/-! Scripts with every command in its keyword form. A command without named arguments, guard
and binding is a keyword command that leaves them out, and a guard that is left out always
holds. No session and no walk through the script can tell the two forms apart. -/
namespace TickScript

mutual

/-- The keyword form of a command and of all that is nested in it, each guard written out. -/
def Command.desugar : Command → Command
  | .positional name args =>
    .keyword name (Expr.desugarAll args) [] (some (.lit (.bool true))) none
  | .keyword name args named guard binding =>
    .keyword name (Expr.desugarAll args) (Expr.desugarNamed named) (some (Expr.desugarGuard guard))
      binding

def Expr.desugar : Expr → Expr
  | .lit value => .lit value
  | .name name => .name name
  | .call command => .call command.desugar

def Expr.desugarAll : List Expr → List Expr
  | [] => []
  | expr :: rest => expr.desugar :: Expr.desugarAll rest

def Expr.desugarNamed : List (String × Expr) → List (String × Expr)
  | [] => []
  | (name, expr) :: rest => (name, expr.desugar) :: Expr.desugarNamed rest

def Expr.desugarGuard : Option Expr → Expr
  | none => .lit (.bool true)
  | some guard => guard.desugar

end

namespace Command

@[simp] theorem name_desugar (command : Command) : command.desugar.name = command.name := by
  cases command <;> simp only [desugar, name]

@[simp] theorem binding_desugar (command : Command) :
    command.desugar.binding = command.binding := by
  cases command <;> simp only [desugar, binding]

end Command

namespace Setting

variable {η σ ω : Type} (setting : Setting η σ ω)

mutual

theorem eval_desugar (expr : Expr) (scene : Scene ω) :
    setting.eval expr.desugar scene = setting.eval expr scene := by
  cases expr with
  | lit value => simp only [Expr.desugar]
  | name name => simp only [Expr.desugar]
  | call command =>
    simp only [Expr.desugar, eval, prepare_desugar command, finishNested, Command.name_desugar,
      Command.binding_desugar]

theorem prepare_desugar (command : Command) (scene : Scene ω) :
    setting.prepare command.desugar scene = setting.prepare command scene := by
  cases command with
  | positional name args =>
    simp only [Command.desugar, prepare, evalGuard, eval, Value.holds, evalAll_desugar args,
      evalNamed]
    rfl
  | keyword name args named guard binding =>
    simp only [Command.desugar, prepare, evalGuard_desugar guard, evalAll_desugar args,
      evalNamed_desugar named]

theorem evalGuard_desugar (guard : Option Expr) (scene : Scene ω) :
    setting.evalGuard (some (Expr.desugarGuard guard)) scene = setting.evalGuard guard scene := by
  cases guard with
  | none => simp only [Expr.desugarGuard, evalGuard, eval, Value.holds]
  | some guard => simp only [Expr.desugarGuard, evalGuard, eval_desugar guard]

theorem evalAll_desugar (exprs : List Expr) (scene : Scene ω) :
    setting.evalAll (Expr.desugarAll exprs) scene = setting.evalAll exprs scene := by
  cases exprs with
  | nil => simp only [Expr.desugarAll]
  | cons expr rest =>
    simp only [Expr.desugarAll, evalAll, eval_desugar expr, evalAll_desugar rest]

theorem evalNamed_desugar (named : List (String × Expr)) (scene : Scene ω) :
    setting.evalNamed (Expr.desugarNamed named) scene = setting.evalNamed named scene := by
  cases named with
  | nil => simp only [Expr.desugarNamed]
  | cons entry rest =>
    obtain ⟨name, expr⟩ := entry
    simp only [Expr.desugarNamed, evalNamed, eval_desugar expr, evalNamed_desugar rest]

end

theorem begin_desugar (command : Command) (scene : Scene ω) :
    setting.begin command.desugar scene = setting.begin command scene := by
  simp only [begin, prepare_desugar]

end Setting

section Walk

mutual

theorem Expr.walk_desugar (expr : Expr) : expr.desugar.walk = expr.walk := by
  cases expr with
  | lit value => simp only [Expr.desugar]
  | name name => simp only [Expr.desugar]
  | call command => simp only [Expr.desugar, Expr.walk, Command.walk_desugar command]

/-- The two forms of a command have the same commands nested in them, in the same order. -/
theorem Command.walk_desugar (command : Command) : command.desugar.walk = command.walk := by
  cases command with
  | positional name args =>
    simp only [Command.desugar, Command.walk, Expr.walkNamed, Expr.walkGuard, Expr.walk,
      Expr.walkAll_desugar args, List.append_nil]
  | keyword name args named guard binding =>
    simp only [Command.desugar, Command.walk, Expr.walkAll_desugar args,
      Expr.walkNamed_desugar named, Expr.walkGuard_desugar guard]

theorem Expr.walkAll_desugar (exprs : List Expr) :
    Expr.walkAll (Expr.desugarAll exprs) = Expr.walkAll exprs := by
  cases exprs with
  | nil => simp only [Expr.desugarAll]
  | cons expr rest =>
    simp only [Expr.desugarAll, Expr.walkAll, Expr.walk_desugar expr, Expr.walkAll_desugar rest]

theorem Expr.walkNamed_desugar (named : List (String × Expr)) :
    Expr.walkNamed (Expr.desugarNamed named) = Expr.walkNamed named := by
  cases named with
  | nil => simp only [Expr.desugarNamed]
  | cons entry rest =>
    obtain ⟨name, expr⟩ := entry
    simp only [Expr.desugarNamed, Expr.walkNamed, Expr.walk_desugar expr,
      Expr.walkNamed_desugar rest]

theorem Expr.walkGuard_desugar (guard : Option Expr) :
    Expr.walkGuard (some (Expr.desugarGuard guard)) = Expr.walkGuard guard := by
  cases guard with
  | none => simp only [Expr.desugarGuard, Expr.walkGuard, Expr.walk]
  | some guard => simp only [Expr.desugarGuard, Expr.walkGuard, Expr.walk_desugar guard]

end

end Walk

namespace Script

def desugar (script : Script) : Script := ⟨script.commands.map Command.desugar⟩

theorem get?_desugar (script : Script) (index : Nat) :
    script.desugar.get? index = (script.get? index).map Command.desugar :=
  List.getElem?_map

theorem commandNames_desugar (script : Script) :
    script.desugar.commandNames = script.commandNames := by
  simp only [commandNames, desugar, List.foldl_map, Command.walk_desugar]

end Script

namespace Setting

variable {η σ ω : Type}

/-- Whatever a setting does, it does the same from the same scene. -/
theorem parallel_eq (setting : Setting η σ ω) :
    Parallel setting setting (· = ·) id (fun _ => True) (fun _ => True) := by
  apply setting.parallel_self
  · intro s t same
    rw [same]
    exact ⟨rfl, rfl⟩
  · intro world events s t same
    rw [same]
  · intro name value s t same
    rw [same]

end Setting

namespace Interpreter

variable {η σ ω : Type}

def desugaring (σ ω : Type) (script : Script) : Pairing σ σ ω ω where
  script := script
  twin := script.desugar
  related := (· = ·)
  form := id

theorem desugaring_lockstep (host : Host η σ ω) (script : Script) :
    (desugaring σ ω script).Lockstep host host (fun _ _ => True) where
  size := List.length_map _
  parallel registry now := Setting.parallel_eq ⟨host, registry, now⟩
  note event s t same := congrArg (Scene.note · event) same
  begins := by
    rintro now index completed interp moves command _ _ _ found rfl
    have there : script.desugar.get? index = some command.desugar := by
      rw [Script.get?_desugar]
      exact congrArg _ found
    have twins : (desugaring σ ω script).Twins (interp.setting host now) (interp.setting host now)
        index command command interp.scene interp.scene :=
      Pairing.twins_self (interp.setting host now).parallel_eq
        (fun event _ _ same => congrArg (Scene.note · event) same) index command rfl
    obtain ⟨started, s, _, left, right, rfl, agrees⟩ := twins
    refine ⟨command.desugar, there, started, s, s, left, ?_, rfl, ?_⟩
    · rw [← right]
      exact Setting.begin_desugar _ command interp.scene
    · simpa only [Command.name_desugar, Command.binding_desugar] using agrees

section Session

variable (host : Host (Builtin ⊕ η) σ ω) (script : Script) (extra : Registry (Builtin ⊕ η))
  (world : ω) (actions : List (Action η ω))

theorem session_desugar :
    (create script.desugar extra world : Interpreter _ σ ω).history host actions =
        (create script extra world).history host actions ∧
      (create script.desugar extra world).after host actions =
        { (create script extra world).after host actions with script := script.desugar } := by
  have paired : List.Forall₂ (desugaring σ ω script).Beside actions actions :=
    Pairing.beside_self (fun change s t same => congrArg (fun scene : Scene ω =>
      { scene with world := change scene.world }) same) actions
  have begun : (desugaring σ ω script).Coupled (create script extra world)
      (create script.desugar extra world : Interpreter (Builtin ⊕ η) σ ω) :=
    ⟨⟨rfl, _, rfl, rfl⟩, sound_fresh _ _ _, sound_fresh _ _ _⟩
  obtain ⟨⟨⟨_, _, rfl, same⟩, _, _⟩, reports, _⟩ :=
    (desugaring_lockstep host script).session paired (fun _ _ _ _ => trivial) begun
  refine ⟨reports, ?_⟩
  rw [same]
  simp only [Pairing.second, desugaring, InFlight.map_inForm_id]

/-- A script and its keyword form cannot be told apart. In every session they make the same steps
and the same calls of handlers, and they leave interpreters that differ in nothing but the script.
Expressions have the same values in them, and a registry misses the same of their commands. -/
theorem desugared_session :
    let plain : Interpreter (Builtin ⊕ η) σ ω := create script extra world
    let desugared : Interpreter (Builtin ⊕ η) σ ω := create script.desugar extra world
    desugared.history host actions = plain.history host actions ∧
      desugared.after host actions =
        { plain.after host actions with script := script.desugar } ∧
      calls host script.desugar extra world actions = calls host script extra world actions ∧
      (∀ now expr, ((desugared.after host actions).evaluate host now expr.desugar).1 =
        ((plain.after host actions).evaluate host now expr).1) ∧
      script.desugar.commandNames = script.commandNames ∧
      ∀ isKnown, script.desugar.unknownCommands isKnown = script.unknownCommands isKnown := by
  intro plain desugared
  obtain ⟨reports, same⟩ := session_desugar host script extra world actions
  refine ⟨reports, same, ?_, ?_, script.commandNames_desugar, ?_⟩
  · have recorded := (session_desugar host.recorded script extra (world, [])
      (actions.map Action.recorded)).2
    rw [calls, withRecord, recorded, calls, withRecord]
  · intro now expr
    rw [same]
    simp only [evaluate, setting, Setting.eval_desugar]
    rfl
  · intro isKnown
    simp only [Script.unknownCommands, Script.commandNames_desugar]

end Session

end Interpreter
end TickScript
