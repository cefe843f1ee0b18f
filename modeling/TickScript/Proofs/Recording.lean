import TickScript.Proofs.Lockstep

/-! The calls that a session makes of its host. A host can be made to keep a record of its
calls next to its world; a session with such a host is the session of the host it is made
from, so the record tells which calls that session makes. -/
namespace TickScript

variable {η σ ω : Type}

inductive Call (η σ : Type)
  | start (handler : η) (invocation : Invocation) (context : Context)
  | resume (suspension : σ) (context : Context)

/-- The host that keeps a record of its calls. -/
def Host.recorded (host : Host η σ ω) : Host η σ (ω × List (Call η σ)) where
  start handler invocation context world :=
    let started := host.start handler invocation context world.1
    ⟨started.outcome, (started.world, world.2 ++ [.start handler invocation context]),
      started.events⟩
  resume suspension context world :=
    let resumed := host.resume suspension context world.1
    ⟨resumed.outcome, resumed.suspension,
      (resumed.world, world.2 ++ [.resume suspension context]), resumed.events⟩

def Scene.unrecorded {κ : Type} (scene : Scene (ω × List κ)) : Scene ω :=
  ⟨scene.names, scene.world.1, scene.log⟩

/-- The host changes its own world and leaves the record alone. -/
def Action.recorded {κ : Type} : Action η ω → Action η (ω × List κ)
  | .step now => .step now
  | .runToCompletion now limit => .runToCompletion now limit
  | .evaluate now expr => .evaluate now expr
  | .register name handler => .register name handler
  | .extend other => .extend other
  | .reset => .reset
  | .disturb change => .disturb fun world => (change world.1, world.2)

namespace Setting

/-- A record changes nothing for those who do not look at it. -/
theorem recorded_parallel (host : Host η σ ω) (registry : Registry η) (now : Time) :
    Parallel ⟨host, registry, now⟩ ⟨host.recorded, registry, now⟩
      (fun s t => s = Scene.unrecorded t) id (fun _ => True) (fun _ => True) where
  read same _ := by
    rw [same]
    rfl
  invoke invocation s t same := by
    subst same
    simp only [invoke]
    cases registry.resolve invocation.name with
    | error error => exact ⟨_, _, _, rfl, rfl, rfl⟩
    | ok handler =>
      refine ⟨_, _, _, rfl, Prod.ext ?_ rfl, rfl⟩
      rw [Except.map_id]
      rfl
  resume suspension s t same := by
    subst same
    exact ⟨_, _, _, _, rfl, rfl, rfl⟩
  bind value s t same _ := by
    subst same
    rfl

end Setting

namespace Interpreter

def recording (η σ ω : Type) (script : Script) : Pairing σ σ ω (ω × List (Call η σ)) where
  script := script
  twin := script
  related s t := s = t.unrecorded
  form := id

theorem recording_lockstep (host : Host η σ ω) (script : Script) :
    (recording η σ ω script).Lockstep host host.recorded (fun _ _ => True) :=
  .of_parallel rfl (Setting.recorded_parallel host)
    fun event _ _ same => congrArg (Scene.note · event) same

section Session

variable (host : Host (Builtin ⊕ η) σ ω) (script : Script) (extra : Registry (Builtin ⊕ η))
  (world : ω)

def withRecord (actions : List (Action η ω)) :
    Interpreter (Builtin ⊕ η) σ (ω × List (Call (Builtin ⊕ η) σ)) :=
  (create script extra (world, [])).after host.recorded (actions.map Action.recorded)

def calls (actions : List (Action η ω)) : List (Call (Builtin ⊕ η) σ) :=
  (withRecord host script extra world actions).scene.world.2

theorem recorded_beside (actions : List (Action η ω)) :
    List.Forall₂ (recording (Builtin ⊕ η) σ ω script).Beside actions
      (actions.map Action.recorded) := by
  refine List.forall₂_map_right_iff.mpr (List.forall₂_same.mpr fun action _ => ?_)
  cases action <;> constructor
  rintro _ t rfl
  rfl

/-- The record sets nothing apart but itself. -/
theorem session_recorded (actions : List (Action η ω)) :
    (recording (Builtin ⊕ η) σ ω script).Coupled
        ((create script extra world).after host actions)
        (withRecord host script extra world actions) ∧
      ∀ later ∈ (create script extra (world, [])).stops host.recorded
          (actions.map Action.recorded),
        ∃ earlier ∈ (create script extra world).stops host actions,
          (recording (Builtin ⊕ η) σ ω script).Alongside earlier later := by
  let plain : Interpreter (Builtin ⊕ η) σ ω := create script extra world
  let recorded : Interpreter (Builtin ⊕ η) σ (ω × List (Call (Builtin ⊕ η) σ)) :=
    create script extra (world, [])
  have begun : (recording (Builtin ⊕ η) σ ω script).Coupled plain recorded :=
    ⟨⟨rfl, recorded.scene, rfl, rfl⟩, sound_fresh _ _ _, sound_fresh _ _ _⟩
  obtain ⟨coupled, _, stops⟩ := (recording_lockstep host script).session
    (recorded_beside script actions) (fun _ _ _ _ => trivial) begun
  exact ⟨coupled, stops⟩

end Session

end Interpreter
end TickScript
