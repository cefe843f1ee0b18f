import TickScript.Proofs.Lockstep

/-! Commands with numbers. A host can be made to number the commands it starts and to keep a
ledger of its starts and resumes in its world. Nothing depends on the numbers: a session with
such a host is the session of the host it is made from, once they are taken away again. -/
namespace TickScript

variable {η σ ω : Type}

/-- A command has been started, which gives it a number, or it has been resumed. -/
inductive Entry
  | began (id : Nat)
  | resumed (id : Nat) (answer : Except Fault Resume)

/-- The starts and resumes of a host so far, and the number of the next command. -/
structure Ledger where
  next : Nat := 0
  entries : List Entry := []

namespace Ledger

def begin (ledger : Ledger) : Ledger :=
  ⟨ledger.next + 1, ledger.entries ++ [.began ledger.next]⟩

def resume (ledger : Ledger) (id : Nat) (answer : Except Fault Resume) : Ledger :=
  { ledger with entries := ledger.entries ++ [.resumed id answer] }

end Ledger

/-- The host that numbers what it starts. A command keeps its number through all resumes. -/
def Host.numbered (host : Host η σ ω) : Host η (Nat × σ) (ω × Ledger) where
  start handler invocation context world :=
    let started := host.start handler invocation context world.1
    let ledger := match started.outcome with
      | .ok _ => world.2.begin
      | .error _ => world.2
    ⟨started.outcome.map fun suspension => (world.2.next, suspension), (started.world, ledger),
      started.events⟩
  resume suspension context world :=
    let resumed := host.resume suspension.2 context world.1
    ⟨resumed.outcome, (suspension.1, resumed.suspension),
      (resumed.world, world.2.resume suspension.1 resumed.outcome), resumed.events⟩

/-- What is started has the next number, and only that is noted. -/
def Ledger.Begins (ledger later : Ledger) : Except Fault (Nat × σ) → Prop
  | .ok suspension => suspension.1 = ledger.next ∧ later = ledger.begin
  | .error _ => later = ledger

theorem Host.numbered_begins (host : Host η σ ω) (handler : η) (invocation : Invocation)
    (context : Context) (world : ω × Ledger) :
    world.2.Begins (host.numbered.start handler invocation context world).world.2
      (host.numbered.start handler invocation context world).outcome := by
  simp only [numbered]
  cases (host.start handler invocation context world.1).outcome with
  | error fault => exact rfl
  | ok suspension => exact ⟨rfl, rfl⟩

def Setting.numbered (setting : Setting η σ ω) : Setting η (Nat × σ) (ω × Ledger) :=
  ⟨setting.host.numbered, setting.registry, setting.now⟩

def Scene.unnumbered (scene : Scene (ω × Ledger)) : Scene ω :=
  ⟨scene.names, scene.world.1, scene.log⟩

def InFlight.unnumbered (flight : InFlight (Nat × σ)) : InFlight σ :=
  ⟨flight.suspension.2, flight.binding⟩

def Interpreter.unnumbered (interp : Interpreter η (Nat × σ) (ω × Ledger)) :
    Interpreter η σ ω where
  script := interp.script
  registry := interp.registry
  scene := interp.scene.unnumbered
  cursor := interp.cursor
  inFlight := interp.inFlight.map InFlight.unnumbered

def Action.numbered : Action η ω → Action η (ω × Ledger)
  | .step now => .step now
  | .runToCompletion now limit => .runToCompletion now limit
  | .evaluate now expr => .evaluate now expr
  | .register name handler => .register name handler
  | .extend other => .extend other
  | .reset => .reset
  | .disturb change => .disturb fun world => (change world.1, world.2)

namespace Setting

variable (setting : Setting η σ ω)

/-- A setting and its numbered form go on alike. -/
theorem numbered_parallel :
    Parallel setting.numbered setting (fun s t => t = s.unnumbered) Prod.snd (fun _ => True)
      (fun _ => True) where
  read same _ := by
    rw [same]
    rfl
  invoke invocation s t same := by
    subst same
    simp only [invoke, numbered]
    cases setting.registry.resolve invocation.name with
    | error error => exact ⟨_, _, _, rfl, rfl, rfl⟩
    | ok handler =>
      refine ⟨_, _, _, rfl, Prod.ext ?_ rfl, rfl⟩
      simp only [Host.numbered, context, Scene.unnumbered]
      generalize (setting.host.start handler invocation ⟨setting.now, s.names⟩
        s.world.1).outcome = outcome
      cases outcome <;> rfl
  resume suspension s t same := by
    subst same
    exact ⟨_, _, _, _, rfl, rfl, rfl⟩
  bind value s t same _ := by
    subst same
    rfl

end Setting

def numbering (σ ω : Type) (script : Script) : Pairing (Nat × σ) σ (ω × Ledger) ω where
  script := script
  twin := script
  related s t := t = s.unnumbered
  form := Prod.snd

theorem numbering_lockstep (host : Host η σ ω) (script : Script) :
    (numbering σ ω script).Lockstep host.numbered host (fun _ _ => True) :=
  .of_parallel rfl (fun registry now => (Setting.mk host registry now).numbered_parallel)
    fun event _ _ same => congrArg (Scene.note · event) same

/-- What matches an interpreter is the interpreter without numbers. -/
theorem numbering_matches {script : Script} {numbered : Interpreter η (Nat × σ) (ω × Ledger)}
    {plain : Interpreter η σ ω} (same : (numbering σ ω script).Matches numbered plain) :
    plain = numbered.unnumbered := by
  obtain ⟨kept, _, rfl, rfl⟩ := same
  obtain ⟨script, registry, scene, cursor, inFlight⟩ := numbered
  cases kept
  rfl

namespace Interpreter

theorem Sound.unnumbered {interp : Interpreter η (Nat × σ) (ω × Ledger)} (sound : interp.Sound) :
    interp.unnumbered.Sound where
  within := sound.within
  aligned flight slot := by
    obtain ⟨numbered, filled, rfl⟩ := Option.map_eq_some_iff.mp slot
    exact sound.aligned numbered filled

theorem coupled_unnumbered {interp : Interpreter η (Nat × σ) (ω × Ledger)}
    (sound : interp.Sound) :
    (numbering σ ω interp.script).Coupled interp interp.unnumbered :=
  ⟨⟨rfl, _, rfl, rfl⟩, sound, sound.unnumbered⟩

theorem report_unnumbered (host : Host η σ ω) (now : Time)
    {interp : Interpreter η (Nat × σ) (ω × Ledger)} (sound : interp.Sound) :
    interp.unnumbered.report host now = interp.report host.numbered now :=
  ((numbering_lockstep host interp.script).step (fun _ _ => trivial)
    (coupled_unnumbered sound)).2.2

/-- A session with numbers is the same session as without, step by step. -/
theorem session_unnumbered (host : Host (Builtin ⊕ η) σ ω) (actions : List (Action η ω))
    {interp : Interpreter (Builtin ⊕ η) (Nat × σ) (ω × Ledger)} (sound : interp.Sound) :
    interp.unnumbered.after host actions =
        (interp.after host.numbered (actions.map Action.numbered)).unnumbered ∧
      interp.unnumbered.history host actions =
        interp.history host.numbered (actions.map Action.numbered) := by
  have paired : List.Forall₂ (numbering σ ω interp.script).Beside
      (actions.map Action.numbered) actions := by
    refine List.forall₂_map_left_iff.mpr (List.forall₂_same.mpr fun action _ => ?_)
    cases action <;> constructor
    rintro s _ rfl
    rfl
  obtain ⟨coupled, reports, _⟩ := (numbering_lockstep host interp.script).session paired
    (fun _ _ _ _ => trivial) (coupled_unnumbered sound)
  exact ⟨numbering_matches coupled.same, reports⟩

end Interpreter
end TickScript
