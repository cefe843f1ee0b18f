import TickScript.Proofs.Recording
import TickScript.Proofs.Sequential.Evaluation
import TickScript.Proofs.Timing

/-! Commands that are functions of their invocation. A command in flight keeps the function and the
invocation it was started with, and every resume of it is a call of the one with the other. What the
host has done since to the registry, the names or the clock is not seen by it. A call that fails
leaves all as it is, so that the next step makes it again. -/
namespace TickScript

variable {η θ σ τ ω : Type}

/-- A command that is a function of its invocation: a built-in operation, or a function of the
host. -/
inductive Immediate (η : Type)
  | operation (op : Operation)
  | function (handler : η)

namespace Immediate

def handler : Immediate η → Builtin ⊕ (η ⊕ θ)
  | operation op => .inl (.operation op)
  | function handler => .inr (.inl handler)

def call (functions : η → Invocation → Except ScriptError Value) :
    Immediate η → Invocation → Except ScriptError Value
  | operation op => op.call
  | function handler => functions handler

def events : Immediate η → Invocation → List Event
  | operation op => op.events
  | function _ => fun _ => []

def deferred : Immediate η → Invocation → Builtin.Task ⊕ ((η × Invocation) ⊕ τ)
  | operation op, invocation => .inl (.calling op invocation)
  | function handler, invocation => .inr (.inl (handler, invocation))

/-- A call that fails notes nothing. -/
theorem events_of_error {functions : η → Invocation → Except ScriptError Value}
    {wrapped : Immediate η} {invocation : Invocation} {error : ScriptError}
    (fails : wrapped.call functions invocation = .error error) : wrapped.events invocation = [] := by
  cases wrapped with
  | function handler => rfl
  | operation op =>
    cases op with
    | print => cases fails
    | eq | neq | or | and | gt | ge | lt | le | max | min | sum | diff => rfl

end Immediate

namespace Host

/-- The built-in commands, functions of the host, and all the other commands it may have. -/
def withFunctions (functions : η → Invocation → Except ScriptError Value) (other : Host θ τ ω) :
    Host (Builtin ⊕ (η ⊕ θ)) (Builtin.Task ⊕ ((η × Invocation) ⊕ τ)) ω :=
  ((Host.immediate functions).either other).withBuiltins

/-- A suspension that is a call put off. A resume makes the call and leaves the suspension as it is,
and this is what it notes and what it does to the world. -/
def Defers (host : Host η σ ω) (suspension : σ) (result : Except ScriptError Value)
    (events : List Event) (noted : Context → ω → ω) : Prop :=
  ∀ context world, host.resume suspension context world =
    ⟨Resume.ofCall result, suspension, noted context world, events⟩

variable (functions : η → Invocation → Except ScriptError Value) (other : Host θ τ ω)

theorem start_function (wrapped : Immediate η) (invocation : Invocation) (context : Context)
    (world : ω) :
    (withFunctions functions other).start wrapped.handler invocation context world =
      ⟨.ok (wrapped.deferred invocation), world, []⟩ := by
  cases wrapped <;> rfl

theorem deferred_defers (wrapped : Immediate η) (invocation : Invocation) :
    (withFunctions functions other).Defers (wrapped.deferred invocation)
      (wrapped.call functions invocation) (wrapped.events invocation) fun _ world => world := by
  intro context world
  cases wrapped with
  | operation op =>
    simp only [withFunctions, withBuiltins, either, Builtin.host, Immediate.deferred,
      Immediate.call, Immediate.events]
    cases op.call invocation <;> rfl
  | function handler =>
    simp only [withFunctions, withBuiltins, either, immediate, Immediate.deferred, Immediate.call,
      Immediate.events]
    cases functions handler invocation <;> rfl

theorem Defers.recorded {host : Host η σ ω} {suspension : σ} {result : Except ScriptError Value}
    {events : List Event} {noted : Context → ω → ω}
    (defers : host.Defers suspension result events noted) :
    host.recorded.Defers suspension result events fun context world =>
      (noted context world.1, world.2 ++ [.resume suspension context]) := by
  intro context world
  simp only [Host.recorded, defers context world.1]

end Host

namespace Setting

theorem complete_outcome (setting : Setting η σ ω) (binding : Option String) (rest : List Command)
    (index : Nat) (value : Value) (scene : Scene ω) :
    (setting.complete binding rest index value scene).outcome = .ok .completed ∨
      ∃ cause, (setting.complete binding rest index value scene).outcome =
        .error (.breakdown cause) := by
  simp only [complete]
  split
  · exact .inl rfl
  · exact .inl rfl
  · exact .inr ⟨_, rfl⟩

/-- A command of a known function is started without fail, and with that the function and the
invocation are settled. -/
theorem begin_function {functions : η → Invocation → Except ScriptError Value} {other : Host θ τ ω}
    {registry : Registry (Builtin ⊕ (η ⊕ θ))} {now : Time} {wrapped : Immediate η}
    {command : Command} {scene after : Scene ω}
    {suspension : Builtin.Task ⊕ ((η × Invocation) ⊕ τ)}
    (known : registry.resolve command.name = .ok wrapped.handler)
    (begun : (Setting.mk (Host.withFunctions functions other) registry now).begin command scene =
      (.ok (some suspension), after)) :
    ∃ invocation,
      (Setting.mk (Host.withFunctions functions other) registry now).prepare command scene =
        (.ok (some invocation), after) ∧ suspension = wrapped.deferred invocation := by
  obtain ⟨invocation, middle, prepared, invoked⟩ := enter_ok begun
  have named : invocation.name = command.name := prepare_name (congrArg Prod.fst prepared)
  simp only [invoke, named, known, Host.start_function] at invoked
  obtain ⟨started, rfl⟩ := Prod.mk.inj invoked
  cases started
  exact ⟨invocation, prepared, rfl⟩

end Setting

def Report.failing (index : Nat) (error : ScriptError) : Report :=
  ⟨.error (.script error), [.resumed index (.error (.script error))]⟩

namespace Interpreter

def stepCalls (host : Host η σ ω) (now : Time) (interp : Interpreter η σ ω) : List (Call η σ) :=
  let recording : Interpreter η σ (ω × List (Call η σ)) :=
    { script := interp.script
      registry := interp.registry
      scene := ⟨interp.scene.names, (interp.scene.world, []), interp.scene.log⟩
      cursor := interp.cursor
      inFlight := interp.inFlight }
  (recording.step host.recorded now).2.scene.world.2

namespace Holds

variable {host : Host η σ ω} {now : Time} {interp : Interpreter η σ ω} {index : Nat}
  {command : Command} {suspension : σ} {noted : Context → ω → ω}

/-- What is in flight depends neither on the registry nor on the scene. -/
theorem aside (holds : interp.Holds index command suspension) (registry : Registry η)
    (scene : Scene ω) : Holds { interp with registry, scene } index command suspension :=
  ⟨holds.here, holds.found, holds.slot⟩

section Failure

variable {error : ScriptError}

/-- A resume whose call fails. -/
theorem next_fails (holds : interp.Holds index command suspension)
    (defers : host.Defers suspension (.error error) [] noted) (moves : List Move) :
    Tick.next host now ⟨.resuming, interp, moves⟩ =
      ⟨.ended (.error (.script error)),
        { interp with scene := { interp.scene with
          world := noted ⟨now, interp.scene.names⟩ interp.scene.world } },
        moves ++ [.resumed index (.error (.script error))]⟩ := by
  obtain ⟨script, registry, scene, cursor, inFlight⟩ := interp
  obtain ⟨here, found, slot⟩ := holds
  subst here slot
  simp only [Tick.next, Tick.resume, setting, Setting.resume, Setting.context, defers _ _]
  rfl

theorem rounds_fail (holds : interp.Holds index command suspension)
    (defers : host.Defers suspension (.error error) [] noted) {moves : List Move} {count : Nat}
    {outcome : Except Fault StepResult}
    (ended : (Tick.rounds host now count ⟨.resuming, interp, moves⟩).point = .ended outcome) :
    Tick.rounds host now count ⟨.resuming, interp, moves⟩ =
      ⟨.ended (.error (.script error)),
        { interp with scene := { interp.scene with
          world := noted ⟨now, interp.scene.names⟩ interp.scene.world } },
        moves ++ [.resumed index (.error (.script error))]⟩ := by
  cases count with
  | zero => cases ended
  | succ count => rw [Tick.rounds, holds.next_fails defers, Tick.rounds_ended]

/-- A step whose call fails makes the call and does nothing else. -/
theorem step_fails (holds : interp.Holds index command suspension)
    (defers : host.Defers suspension (.error error) [] noted) (now : Time) :
    interp.step host now = (.error (.script error),
        { interp with scene := { interp.scene with
          world := noted ⟨now, interp.scene.names⟩ interp.scene.world } }) ∧
      (interp.tick host now).moves = [.resumed index (.error (.script error))] := by
  have ended := (tick_step host now holds.sound).1
  rw [holds.tick_eq host now] at ended
  have ends := (holds.tick_eq host now).trans (holds.rounds_fail defers ended)
  exact ⟨step_of_tick holds.sound ends, congrArg Tick.moves ends⟩

theorem report_fails (holds : interp.Holds index command suspension)
    (defers : host.Defers suspension (.error error) [] noted) (now : Time) :
    interp.report host now = .failing index error := by
  obtain ⟨same, moves⟩ := holds.step_fails defers now
  rw [report, same, moves]
  rfl

/-- Such a step makes one call of the host, which is the resume. -/
theorem stepCalls_fails (holds : interp.Holds index command suspension)
    (defers : host.Defers suspension (.error error) [] noted) (now : Time) :
    interp.stepCalls host now = [.resume suspension ⟨now, interp.scene.names⟩] := by
  have recording : Holds (ω := ω × List (Call η σ))
      ⟨interp.script, interp.registry, ⟨interp.scene.names, (interp.scene.world, []),
        interp.scene.log⟩, interp.cursor, interp.inFlight⟩ index command suspension :=
    ⟨holds.here, holds.found, holds.slot⟩
  obtain ⟨same, _⟩ := recording.step_fails defers.recorded now
  simp only [stepCalls, same]
  rfl

end Failure

/-- A resume whose call succeeds. -/
theorem next_done {value : Value} {events : List Event}
    (holds : interp.Holds index command suspension)
    (defers : host.Defers suspension (.ok value) events fun _ world => world) (moves : List Move) :
    Tick.next host now ⟨.resuming, interp, moves⟩ =
      ⟨.seeking (index + 1) true,
        { interp with
          scene := ((interp.scene.noteAll events).note (.completed index value)).bind?
            command.binding value
          inFlight := none },
        moves ++ [.resumed index (.ok (.done value))]⟩ := by
  obtain ⟨script, registry, scene, cursor, inFlight⟩ := interp
  obtain ⟨here, found, slot⟩ := holds
  subst here slot
  simp only [Tick.next, Tick.resume, setting, Setting.resume, Setting.context, defers _ _]
  rfl

end Holds

/-- A step completes a command with a value after these moves: it binds the value in this scene, and
only then tries the commands that follow. It resumes nothing any more, and unless a later command
breaks down when it is started, the outcome is the completion. -/
structure EndsCall (host : Host η σ ω) (now : Time) (interp : Interpreter η σ ω) (index : Nat)
    (command : Command) (value : Value) (before : List Move) (scene : Scene ω) : Prop where
  moves : ∃ rest, (interp.tick host now).moves =
      before ++ .resumed index (.ok (.done value)) :: rest ∧
    ∀ move ∈ rest, move.resumes = false
  lands :
    let landing := (interp.setting host now).complete command.binding
      (interp.script.commands.drop (index + 1)) index value scene
    interp.step host now = (landing.outcome, { interp with
      scene := landing.scene, cursor := some landing.cursor, inFlight := landing.inFlight })
  outcome : (interp.step host now).1 = .ok .completed ∨
    ∃ cause, (interp.step host now).1 = .error (.breakdown cause)

/-- A step comes to a command after these moves, and it evaluates the invocation there, which leaves
this scene. All commands before have been settled, at most one of them by its completion. -/
structure Evaluates (host : Host η σ ω) (now : Time) (interp : Interpreter η σ ω) (index : Nat)
    (command : Command) (before : List Move) (completed : Bool) (invocation : Invocation)
    (scene : Scene ω) : Prop where
  comes : ∃ count middle,
    interp.entry.rounds host now count = ⟨.seeking index completed, middle, before⟩ ∧
    (interp.setting host now).prepare command middle.scene = (.ok (some invocation), scene)
  passed : Passed (interp.cursor.getD 0) index before
  counted : completions before = completed.toNat

/-- How a step ends that starts a command with this call after these moves. After a completion it
ends with the start. Else it makes the call at once. -/
inductive StartsCall (host : Host η σ ω) (now : Time) (interp : Interpreter η σ ω) (index : Nat)
    (command : Command) (suspension : σ) (result : Except ScriptError Value) (events : List Event)
    (before : List Move) (scene : Scene ω) : Bool → Prop
  | afterwards
      (moves : (interp.tick host now).moves = before ++ [.started index])
      (outcome : (interp.step host now).1 = .ok .completed)
      (holds : (interp.step host now).2.Holds index command suspension)
      (left : (interp.step host now).2.scene = scene.note (.started index command.name)) :
      StartsCall host now interp index command suspension result events before scene true
  | failed {error : ScriptError} (fails : result = .error error)
      (moves : (interp.tick host now).moves =
        before ++ [.started index, .resumed index (.error (.script error))])
      (outcome : (interp.step host now).1 = .error (.script error))
      (holds : (interp.step host now).2.Holds index command suspension)
      (left : (interp.step host now).2.scene = scene.note (.started index command.name)) :
      StartsCall host now interp index command suspension result events before scene false
  | atOnce {value : Value} (succeeds : result = .ok value)
      (ends : interp.EndsCall host now index command value (before ++ [.started index])
        ((scene.note (.started index command.name)).noteAll events)) :
      StartsCall host now interp index command suspension result events before scene false

section Session

variable {now : Time} {index : Nat} {command : Command}

theorem EndsCall.of_lands {host : Host η σ ω} {interp : Interpreter η σ ω} {value : Value}
    {before : List Move} {scene : Scene ω}
    (moves : ∃ rest, (interp.tick host now).moves =
        before ++ .resumed index (.ok (.done value)) :: rest ∧
      ∀ move ∈ rest, move.resumes = false)
    (lands :
      let landing := (interp.setting host now).complete command.binding
        (interp.script.commands.drop (index + 1)) index value scene
      interp.step host now = (landing.outcome, { interp with
        scene := landing.scene, cursor := some landing.cursor, inFlight := landing.inFlight })) :
    interp.EndsCall host now index command value before scene := by
  refine ⟨moves, lands, ?_⟩
  rw [lands]
  exact Setting.complete_outcome ..

/-- Once the call succeeds, the step completes the command. -/
theorem Holds.step_done {host : Host η σ ω} {interp : Interpreter η σ ω} {suspension : σ}
    {value : Value} {events : List Event} (holds : interp.Holds index command suspension)
    (defers : host.Defers suspension (.ok value) events fun _ world => world) (now : Time) :
    interp.EndsCall host now index command value [] (interp.scene.noteAll events) := by
  have ended := (tick_step host now holds.sound).1
  rw [holds.tick_eq host now] at ended
  obtain ⟨lands, moves⟩ := Tick.rounds_done (holds.next_done defers []) ended
  rw [← holds.tick_eq host now] at lands moves
  exact .of_lands moves (step_of_lands holds.sound lands)

/-- How a step ends that has just put a call into the slot. -/
theorem Holds.starts {host : Host η σ ω} {interp : Interpreter η σ ω} (sound : interp.Sound)
    {suspension : σ} {result : Except ScriptError Value} {events : List Event} {scene : Scene ω}
    (found : interp.script.get? index = some command)
    (defers : host.Defers suspension result events fun _ world => world)
    (quiet : ∀ error, result = .error error → events = [])
    {later : Nat} {before : List Move} {completed : Bool}
    (goes_on : interp.tick host now = Tick.rounds host now later
      ⟨if completed then .ended (.ok .completed) else .resuming,
        { interp with
          cursor := some index, scene := scene.note (.started index command.name)
          inFlight := some ⟨suspension, command.binding⟩ },
        before ++ [.started index]⟩) :
    interp.StartsCall host now index command suspension result events before scene completed := by
  have holds : Holds { interp with
      cursor := some index, scene := scene.note (.started index command.name)
      inFlight := some ⟨suspension, command.binding⟩ } index command suspension :=
    ⟨rfl, found, rfl⟩
  cases completed with
  | true =>
    simp only [if_true, Tick.rounds_ended] at goes_on
    have stepped := step_of_tick sound goes_on
    apply StartsCall.afterwards
    · rw [goes_on]
    · rw [stepped]
    · rw [stepped]
      exact holds
    · rw [stepped]
  | false =>
    simp only [Bool.false_eq_true, if_false] at goes_on
    have ended := (tick_step host now sound).1
    rw [goes_on] at ended
    cases result with
    | error error =>
      cases quiet error rfl
      have failed := goes_on.trans (holds.rounds_fail defers ended)
      have stepped := step_of_tick sound failed
      apply StartsCall.failed rfl
      · rw [failed, List.append_assoc]
        rfl
      · rw [stepped]
      · rw [stepped]
        exact holds
      · rw [stepped]
    | ok value =>
      obtain ⟨lands, moves⟩ := Tick.rounds_done (holds.next_done defers _) ended
      rw [← goes_on] at lands moves
      exact .atOnce rfl (.of_lands moves (step_of_lands sound lands))

/-- As long as the call fails, nothing that the host does takes the command out of the slot, and
every step is the same failure. -/
theorem Holds.after_fails {host : Host (Builtin ⊕ η) σ ω} {interp : Interpreter (Builtin ⊕ η) σ ω}
    {suspension : σ} {error : ScriptError} (holds : interp.Holds index command suspension)
    (defers : host.Defers suspension (.error error) [] fun _ world => world)
    (later : List (Action η ω)) :
    (interp.after host later).Holds index command suspension ∧
      ∀ report ∈ interp.history host later, report = .failing index error := by
  have performed (action : Action η ω) (middle : Interpreter (Builtin ⊕ η) σ ω)
      (holds : middle.Holds index command suspension) :
      (middle.perform host action).Holds index command suspension := by
    apply perform_preserves (P := fun middle => middle.Holds index command suspension) _ _ action
      holds
    · intro now earlier holds
      rw [(holds.step_fails defers now).1]
      exact holds
    · intro earlier registry scene holds
      exact holds.aside registry scene
  constructor
  · exact after_preserves performed later holds
  · intro report member
    obtain ⟨middle, now, held, rfl⟩ := history_from performed later holds report member
    exact held.report_fails defers now

/-- Until a step is made the command stays in the slot. -/
theorem Holds.after_unstepped {host : Host (Builtin ⊕ η) σ ω}
    {interp : Interpreter (Builtin ⊕ η) σ ω} {suspension : σ}
    (holds : interp.Holds index command suspension) {later : List (Action η ω)}
    (unstepped : interp.history host later = []) :
    (interp.after host later).Holds index command suspension := by
  induction later generalizing interp with
  | nil => exact holds
  | cons action rest ih =>
    obtain ⟨first, others⟩ := List.append_eq_nil_iff.mp unstepped
    apply ih _ others
    cases action with
    | step now => cases first
    | runToCompletion now limit =>
      cases limit with
      | zero => exact holds
      | succ limit =>
        simp only [reports, runReports, holds.unfinished, Bool.false_eq_true, if_false] at first
        split at first <;> cases first
    | evaluate | register | extend | reset | disturb => exact holds.aside _ _

/-- A command that is a function of its invocation is started with the invocation that is evaluated
then, and it keeps both as long as it is in flight, whatever the host does to the registry, the
names and the clock. If the function fails for this invocation, every step has its error as the
outcome, makes no call of the host but the resume and changes nothing. If it has a value, the next
step completes the command with it. -/
theorem invocation_captured {functions : η → Invocation → Except ScriptError Value}
    {other : Host θ τ ω} {script : Script} {extra : Registry (Builtin ⊕ (η ⊕ θ))} {world : ω}
    {actions : List (Action (η ⊕ θ) ω)}
    {interp : Interpreter (Builtin ⊕ (η ⊕ θ)) (Builtin.Task ⊕ ((η × Invocation) ⊕ τ)) ω}
    {wrapped : Immediate η}
    (reached : interp =
      (create script extra world).after (Host.withFunctions functions other) actions)
    (found : script.get? index = some command)
    (known : interp.registry.resolve command.name = .ok wrapped.handler)
    (started : .started index ∈ (interp.tick (Host.withFunctions functions other) now).moves) :
    let host := Host.withFunctions functions other
    ∃ before completed invocation scene,
      interp.Evaluates host now index command before completed invocation scene ∧
      let suspension := wrapped.deferred invocation
      let result := wrapped.call functions invocation
      let events := wrapped.events invocation
      let next := (interp.step host now).2
      interp.StartsCall host now index command suspension result events before scene completed ∧
      (next.Holds index command suspension →
        ∀ later : List (Action (η ⊕ θ) ω),
          let last := next.after host later
          (∀ error, result = .error error →
            last.Holds index command suspension ∧
            (∀ report ∈ next.history host later, report = .failing index error) ∧
            ∀ reading registry scene,
              let pending : Interpreter _ _ _ := { last with registry, scene }
              pending.step host reading = (.error (.script error), pending) ∧
                pending.stepCalls host reading = [.resume suspension ⟨reading, scene.names⟩]) ∧
          (∀ value, result = .ok value → next.history host later = [] →
            last.Holds index command suspension ∧
            ∀ reading registry scene,
              let pending : Interpreter _ _ _ := { last with registry, scene }
              pending.EndsCall host reading index command value [] (scene.noteAll events))) := by
  intro host
  have sound : interp.Sound := by
    rw [reached]
    exact after_sound _ actions (sound_fresh _ _ _)
  have same : interp.script = script := by
    rw [reached]
    exact after_script _ actions _
  obtain ⟨count, rounds, before, completed, middle, suspension, scene, comes, passed, counted,
    begun, goes_on⟩ := tick_started host now sound (same ▸ found) started
  obtain ⟨invocation, prepared, rfl⟩ := Setting.begin_function known begun
  have defers := Host.deferred_defers functions other wrapped invocation
  have quiet (error : ScriptError) (fails : wrapped.call functions invocation = .error error) :
      wrapped.events invocation = [] := Immediate.events_of_error fails
  refine ⟨before, completed, invocation, scene,
    ⟨⟨count, middle, comes, prepared⟩, passed, counted⟩, ?_⟩
  intro suspension result events next
  constructor
  · exact Holds.starts sound (same ▸ found) defers quiet goes_on
  · intro holds later last
    constructor
    · intro error (fails : wrapped.call functions invocation = .error error)
      rw [fails, quiet error fails] at defers
      obtain ⟨still, reported⟩ := holds.after_fails defers later
      refine ⟨still, reported, ?_⟩
      intro reading registry scene
      constructor
      · exact ((still.aside registry scene).step_fails defers reading).1
      · exact (still.aside registry scene).stepCalls_fails defers reading
    · intro value (succeeds : wrapped.call functions invocation = .ok value) unstepped
      rw [succeeds] at defers
      have still : last.Holds index command suspension := holds.after_unstepped unstepped
      refine ⟨still, ?_⟩
      intro reading registry scene
      exact (still.aside registry scene).step_done defers reading

end Session

def unsubtractable : Script where
  commands := [
    .keyword "eq" [.lit (.int 1), .lit (.int 1)] [] none (some "x"),
    .keyword "diff" [.name "x", .lit (.int 1)] [] none (some "y")]

/-- The name has a number in the end and the command another handler, but the difference is still
taken from the boolean. -/
theorem invocation_captured_unsubtractable :
    let host : Host (Builtin ⊕ (Empty ⊕ Empty)) _ Unit := Host.withFunctions nofun Host.none
    let interp := create unsubtractable Table.empty ()
    let error := Operation.notNumbers "diff" (.bool true) (.int 1)
    let later : List (Action (Empty ⊕ Empty) Unit) :=
      [.evaluate 5 (.call (.keyword "sum" [.lit (.int 3)] [] none (some "x"))), .step 7,
        .register "diff" (.inl (.operation .sum))]
    let pending := (interp.step host 0).2.after host later
    .started 1 ∈ (interp.tick host 0).moves ∧
      pending.scene.names.get? "x" = some (.int 3) ∧
      pending.registry.get? "diff" = some (.inl (.operation .sum)) ∧
      pending.step host 9 = (.error (.script error), pending) := by
  intro host interp error later pending
  let command : Command := .keyword "diff" [.name "x", .lit (.int 1)] [] none (some "y")
  have moves : (interp.tick host 0).moves =
      [.started 0, .resumed 0 (.ok (.done (.bool true))), .started 1] := rfl
  have started : .started 1 ∈ (interp.tick host 0).moves := by
    rw [moves]
    exact .tail _ (.tail _ (.head _))
  have reached : interp = (create unsubtractable Table.empty ()).after host [] := rfl
  have found : unsubtractable.get? 1 = some command := rfl
  have known : interp.registry.resolve "diff" = .ok (Immediate.operation .diff).handler := rfl
  obtain ⟨before, completed, invocation, scene, _, starts, captured⟩ :=
    invocation_captured reached found known started
  have holds : (interp.step host 0).2.Holds 1 command (.inl (.calling .diff invocation)) := by
    cases starts with
    | afterwards _ _ holds | failed _ _ _ holds => exact holds
    | @atOnce value _ ends =>
      obtain ⟨rest, same, _⟩ := ends.moves
      have resumed : .resumed 1 (.ok (.done value)) ∈ (interp.tick host 0).moves := by
        rw [same]
        exact List.mem_append_right _ (.head _)
      simp [moves] at resumed
  have slot : (interp.step host 0).2.inFlight =
      some ⟨.inl (.calling .diff ⟨"diff", [.bool true, .int 1], .empty⟩), some "y"⟩ := rfl
  cases slot.symm.trans holds.slot
  obtain ⟨_, _, fails⟩ := (captured holds later).1 error rfl
  refine ⟨started, rfl, rfl, ?_⟩
  change ((interp.step host 0).2.after host later).step host 9 =
    (_, (interp.step host 0).2.after host later)
  generalize (interp.step host 0).2.after host later = last at fails ⊢
  exact (fails 9 last.registry last.scene).1

end Interpreter
end TickScript
