import TickScript.Builtin.Host
import TickScript.Proofs.Sequential

/-! Evaluation against a host whose handlers are functions of their invocation: it
has the values of a sequential run, binds the same names and makes the same calls.
Every nested command is started and resumed on the spot, so the calls come in the
same order. -/
namespace TickScript

variable {η σ ω : Type}

def Resume.ofCall : Except ScriptError Value → Except Fault Resume
  | .ok value => .ok (.done value)
  | .error error => .error (.script error)

namespace Host

/-- A suspension whose resume calls a function and notes the call in the world. -/
structure Calls (host : Host η σ ω) (suspension : σ) (result : Except ScriptError Value)
    (noted : ω → ω) : Prop where
  outcome : ∀ context world, (host.resume suspension context world).outcome = Resume.ofCall result
  world : ∀ context world, (host.resume suspension context world).world = noted world

/-- A handler whose commands are a function of their invocation, called by one resume. Nothing
happens when they are started. -/
def IsImmediate (host : Host η σ ω) (handler : η) (call : Invocation → Except ScriptError Value)
    (noted : Invocation → ω → ω) : Prop :=
  ∀ invocation context world, ∃ suspension,
    (host.start handler invocation context world).outcome = .ok suspension ∧
      (host.start handler invocation context world).world = world ∧
      host.Calls suspension (call invocation) (noted invocation)

theorem immediate_isImmediate (call : η → Invocation → Except ScriptError Value) (handler : η) :
    (immediate call : Host η (η × Invocation) ω).IsImmediate handler (call handler)
      (fun _ world => world) := by
  intro invocation context world
  refine ⟨(handler, invocation), rfl, rfl, ?_, fun _ _ => rfl⟩
  intro context world
  simp only [immediate]
  cases call handler invocation <;> rfl

def recorder (call : η → Invocation → Except ScriptError Value) :
    Host η (η × Invocation) (List (η × Invocation)) where
  start handler invocation _ world := ⟨.ok (handler, invocation), world, []⟩
  resume suspension _ world :=
    ⟨Resume.ofCall (call suspension.1 suspension.2), suspension, world ++ [suspension], []⟩

theorem recorder_isImmediate (call : η → Invocation → Except ScriptError Value) (handler : η) :
    (recorder call).IsImmediate handler (call handler)
      (fun invocation world => world ++ [(handler, invocation)]) :=
  fun invocation _ _ => ⟨(handler, invocation), rfl, rfl, fun _ _ => rfl, fun _ _ => rfl⟩

end Host

/-- The built-in operations are immediate; `wait` is not. -/
theorem Builtin.operation_isImmediate (op : Operation) :
    (Builtin.host : Host Builtin Task ω).IsImmediate (.operation op) op.call
      (fun _ world => world) := by
  intro invocation context world
  refine ⟨.calling op invocation, rfl, rfl, ?_, fun _ _ => rfl⟩
  intro context world
  simp only [Builtin.host]
  cases op.call invocation <;> rfl

namespace Sequential

/-- What the calls of a sequential run leave of a world that notes them. -/
def replay (noted : η → Invocation → ω → ω) (world : ω) (calls : List (η × Invocation)) : ω :=
  calls.foldl (fun world call => noted call.1 call.2 world) world

/-- A scene agrees with a trail: the names are bound as there, and the world has noted the calls. -/
structure Shows (noted : η → Invocation → ω → ω) (world : ω) (trail : Trail η)
    (scene : Scene ω) : Prop where
  names : scene.names = trail.names
  world : scene.world = replay noted world trail.calls

def Yields {α : Type} (noted : η → Invocation → ω → ω) (world : ω) (value : α) (trail : Trail η)
    (result : Except Fault α × Scene ω) : Prop :=
  ∃ left, result = (.ok value, left) ∧ Shows noted world trail left

def AllImmediate (host : Host η σ ω) (registry : Registry η)
    (functions : η → Invocation → Except ScriptError Value)
    (noted : η → Invocation → ω → ω) : Prop :=
  ∀ name handler, registry.get? name = some handler →
    host.IsImmediate handler (functions handler) (noted handler)

section Flight

variable (host : Host η σ ω) (noted : η → Invocation → ω → ω) (world : ω)

/-- A command in flight whose call is the next thing to happen: one resume at any time takes it
from one trail to another, its value bound. -/
def Due (flight : InFlight σ) (trail last : Trail η) (value : Value) : Prop :=
  ∀ registry now scene, Shows noted world trail scene → ∃ suspension left,
    (Setting.mk host registry now).resume flight.suspension scene =
        (.ok (.done value), suspension, left) ∧
      Shows noted world last (left.bind? flight.binding value)

end Flight

theorem Shows.note {noted : η → Invocation → ω → ω} {world : ω} {trail : Trail η} {scene : Scene ω}
    (shows : Shows noted world trail scene) (event : Event) :
    Shows noted world trail (scene.note event) :=
  ⟨shows.names, shows.world⟩

theorem Shows.bind?_note {noted : η → Invocation → ω → ω} {world : ω} {trail : Trail η}
    {scene : Scene ω} {binding : Option String} {value : Value}
    (shows : Shows noted world trail (scene.bind? binding value)) (event : Event) :
    Shows noted world trail ((scene.note event).bind? binding value) := by
  cases binding with
  | none => exact shows.note event
  | some name => exact shows.note event

variable {host : Host η σ ω} {registry : Registry η}
  {functions : η → Invocation → Except ScriptError Value} {noted : η → Invocation → ω → ω}
  {world : ω} (now : Time)

theorem apply_ok {invocation : Invocation} {binding : Option String} {trail last : Trail η}
    {value : Value} (ran : apply functions registry invocation binding trail = .ok (value, last)) :
    ∃ handler, registry.get? invocation.name = some handler ∧
      functions handler invocation = .ok value ∧
      last = trail.record handler invocation binding value := by
  unfold apply at ran
  split at ran
  · contradiction
  · rename_i handler resolved
    unfold Registry.resolve at resolved
    split at resolved
    · rename_i other found
      cases resolved
      split at ran
      · contradiction
      · rename_i result called
        cases ran
        exact ⟨handler, found, called, rfl⟩
    · contradiction

/-- An immediate command is started where its function would be called, and its call is due. -/
theorem invoke_due (immediate : AllImmediate host registry functions noted)
    {invocation : Invocation} {binding : Option String} {trail last : Trail η} {value : Value}
    {scene : Scene ω} (shows : Shows noted world trail scene)
    (ran : apply functions registry invocation binding trail = .ok (value, last)) :
    ∃ suspension,
      Yields noted world suspension trail
        ((Setting.mk host registry now).invoke invocation scene) ∧
      Due host noted world ⟨suspension, binding⟩ trail last value := by
  obtain ⟨handler, found, called, rfl⟩ := apply_ok ran
  obtain ⟨suspension, started, still, calls⟩ :=
    immediate _ handler found invocation ⟨now, scene.names⟩ scene.world
  refine ⟨suspension, ?_, ?_⟩
  · refine ⟨scene.noteAll (host.start handler invocation ⟨now, scene.names⟩ scene.world).events,
      ?_, shows.names, shows.world⟩
    simp only [Setting.invoke, Registry.resolve, found, Setting.context, started, still]
  · -- The resume may come a tick later, in another scene with the same names and calls.
    intro registry now scene shows
    have outcome := calls.outcome ⟨now, scene.names⟩ scene.world
    have after := calls.world ⟨now, scene.names⟩ scene.world
    simp only [called, Resume.ofCall] at outcome
    refine ⟨_, _, by simp only [Setting.resume, Setting.context, outcome]; rfl, ?_⟩
    have noting : (host.resume suspension ⟨now, scene.names⟩ scene.world).world =
        replay noted world (trail.record handler invocation binding value).calls := by
      rw [after, shows.world]
      simp only [replay, Trail.record, List.foldl_append, List.foldl_cons, List.foldl_nil]
    cases binding with
    | none => exact ⟨shows.names, noting⟩
    | some name =>
      refine ⟨?_, noting⟩
      simp only [Scene.bind?, Scene.bind, Scene.noteAll, Trail.record, Option.elim, shows.names]

theorem enter_due (immediate : AllImmediate host registry functions noted)
    {invocation : Invocation} {binding : Option String} {middle last : Trail η} {value : Value}
    {prepared : Except Fault (Option Invocation) × Scene ω}
    (ready : Yields noted world (some invocation) middle prepared)
    (ran : apply functions registry invocation binding middle = .ok (value, last)) :
    ∃ suspension,
      Yields noted world (some suspension) middle
        ((Setting.mk host registry now).enter prepared) ∧
      Due host noted world ⟨suspension, binding⟩ middle last value := by
  obtain ⟨scene, rfl, shows⟩ := ready
  obtain ⟨suspension, ⟨left, started, showing⟩, due⟩ := invoke_due now immediate shows ran
  refine ⟨suspension, ⟨left, ?_, showing⟩, due⟩
  simp only [Setting.enter, started]

theorem finishNested_yields {command : Command} {suspension : σ} {middle last : Trail η}
    {value : Value} {scene : Scene ω} (shows : Shows noted world middle scene)
    (due : Due host noted world ⟨suspension, command.binding⟩ middle last value) :
    Yields noted world value last
      ((Setting.mk host registry now).finishNested command suspension scene) := by
  obtain ⟨_, left, resumed, showing⟩ := due registry now scene shows
  refine ⟨_, ?_, showing⟩
  simp only [Setting.finishNested, resumed]

mutual

theorem eval_yields (immediate : AllImmediate host registry functions noted) (expr : Expr)
    {trail last : Trail η} {result : Value} {scene : Scene ω}
    (shows : Shows noted world trail scene)
    (ran : value functions registry expr trail = .ok (result, last)) :
    Yields noted world result last ((Setting.mk host registry now).eval expr scene) := by
  cases expr with
  | lit constant =>
    obtain ⟨rfl, rfl⟩ := pure_ok ran
    exact ⟨scene, rfl, shows⟩
  | name name =>
    simp only [value] at ran
    simp only [Setting.eval, shows.names]
    cases resolved : trail.names.resolve name with
    | error error =>
      rw [resolved] at ran
      contradiction
    | ok constant =>
      rw [resolved] at ran
      cases ran
      exact ⟨scene, rfl, shows⟩
  | call command =>
    simp only [value] at ran
    obtain ⟨invocation, middle, valued, rest⟩ := bind_ok ran
    have prepared := prepare_yields immediate command shows valued
    simp only [Setting.eval]
    cases invocation with
    | none =>
      obtain ⟨left, prepared, showing⟩ := prepared
      obtain ⟨rfl, rfl⟩ := pure_ok rest
      exact ⟨left, by simp only [prepared, Setting.enter], showing⟩
    | some invocation =>
      obtain ⟨suspension, ⟨left, started, showing⟩, due⟩ := enter_due now immediate prepared rest
      simp only [started]
      exact finishNested_yields now showing due

theorem prepare_yields (immediate : AllImmediate host registry functions noted) (command : Command)
    {trail last : Trail η} {result : Option Invocation} {scene : Scene ω}
    (shows : Shows noted world trail scene)
    (ran : invocation? functions registry command trail = .ok (result, last)) :
    Yields noted world result last ((Setting.mk host registry now).prepare command scene) := by
  cases command with
  | positional name args =>
    simp only [invocation?] at ran
    obtain ⟨results, middle, valued, rest⟩ := bind_ok ran
    obtain ⟨rfl, rfl⟩ := pure_ok rest
    obtain ⟨left, evaluated, showing⟩ := evalAll_yields immediate args shows valued
    exact ⟨left, by simp only [Setting.prepare, evaluated], showing⟩
  | keyword name args named guard binding =>
    simp only [invocation?] at ran
    obtain ⟨holding, guarded, valued, rest⟩ := bind_ok ran
    obtain ⟨left, evaluated, showing⟩ := evalGuard_yields immediate guard shows valued
    simp only [Setting.prepare, evaluated]
    cases holding with
    | false =>
      obtain ⟨rfl, rfl⟩ := pure_ok rest
      exact ⟨left, rfl, showing⟩
    | true =>
      obtain ⟨results, middle, valued, rest⟩ := bind_ok rest
      obtain ⟨left, evaluated, showing⟩ := evalAll_yields immediate args showing valued
      simp only [evaluated]
      obtain ⟨results, middle, valued, rest⟩ := bind_ok rest
      obtain ⟨left, evaluated, showing⟩ := evalNamed_yields immediate named showing valued
      obtain ⟨rfl, rfl⟩ := pure_ok rest
      exact ⟨left, by simp only [evaluated], showing⟩

theorem evalGuard_yields (immediate : AllImmediate host registry functions noted)
    (guard : Option Expr) {trail last : Trail η} {result : Bool} {scene : Scene ω}
    (shows : Shows noted world trail scene)
    (ran : holds functions registry guard trail = .ok (result, last)) :
    Yields noted world result last ((Setting.mk host registry now).evalGuard guard scene) := by
  cases guard with
  | none =>
    obtain ⟨rfl, rfl⟩ := pure_ok ran
    exact ⟨scene, rfl, shows⟩
  | some expr =>
    simp only [holds] at ran
    obtain ⟨condition, middle, valued, rest⟩ := bind_ok ran
    obtain ⟨rfl, rfl⟩ := pure_ok rest
    obtain ⟨left, evaluated, showing⟩ := eval_yields immediate expr shows valued
    exact ⟨left, by simp only [Setting.evalGuard, evaluated], showing⟩

theorem evalAll_yields (immediate : AllImmediate host registry functions noted) (exprs : List Expr)
    {trail last : Trail η} {results : List Value} {scene : Scene ω}
    (shows : Shows noted world trail scene)
    (ran : values functions registry exprs trail = .ok (results, last)) :
    Yields noted world results last ((Setting.mk host registry now).evalAll exprs scene) := by
  cases exprs with
  | nil =>
    obtain ⟨rfl, rfl⟩ := pure_ok ran
    exact ⟨scene, rfl, shows⟩
  | cons expr rest =>
    simp only [values] at ran
    obtain ⟨head, middle, valued, following⟩ := bind_ok ran
    obtain ⟨left, evaluated, showing⟩ := eval_yields immediate expr shows valued
    simp only [Setting.evalAll, evaluated]
    obtain ⟨tail, middle, valued, following⟩ := bind_ok following
    obtain ⟨rfl, rfl⟩ := pure_ok following
    obtain ⟨left, evaluated, showing⟩ := evalAll_yields immediate rest showing valued
    exact ⟨left, by simp only [evaluated], showing⟩

theorem evalNamed_yields (immediate : AllImmediate host registry functions noted)
    (named : List (String × Expr)) {trail last : Trail η} {results : List (String × Value)}
    {scene : Scene ω} (shows : Shows noted world trail scene)
    (ran : entries functions registry named trail = .ok (results, last)) :
    Yields noted world results last ((Setting.mk host registry now).evalNamed named scene) := by
  cases named with
  | nil =>
    obtain ⟨rfl, rfl⟩ := pure_ok ran
    exact ⟨scene, rfl, shows⟩
  | cons entry rest =>
    obtain ⟨name, expr⟩ := entry
    simp only [entries] at ran
    obtain ⟨head, middle, valued, following⟩ := bind_ok ran
    obtain ⟨left, evaluated, showing⟩ := eval_yields immediate expr shows valued
    simp only [Setting.evalNamed, evaluated]
    obtain ⟨tail, middle, valued, following⟩ := bind_ok following
    obtain ⟨rfl, rfl⟩ := pure_ok following
    obtain ⟨left, evaluated, showing⟩ := evalNamed_yields immediate rest showing valued
    exact ⟨left, by simp only [evaluated], showing⟩

end

theorem begin_skipped (immediate : AllImmediate host registry functions noted)
    {command : Command} {trail last : Trail η} {scene : Scene ω}
    (shows : Shows noted world trail scene)
    (ran : perform functions registry command trail = .ok (none, last)) :
    Yields noted world none last ((Setting.mk host registry now).begin command scene) := by
  simp only [perform] at ran
  obtain ⟨invocation, middle, valued, rest⟩ := bind_ok ran
  cases invocation with
  | none =>
    obtain ⟨left, prepared, showing⟩ := prepare_yields now immediate command shows valued
    obtain ⟨_, rfl⟩ := pure_ok rest
    exact ⟨left, by simp only [Setting.begin, Setting.enter, prepared], showing⟩
  | some invocation =>
    obtain ⟨value, applied, _, rest⟩ := bind_ok rest
    obtain ⟨impossible, _⟩ := pure_ok rest
    contradiction

/-- A command that a sequential run performs is started, and its call is all that is left of it. -/
theorem begin_started (immediate : AllImmediate host registry functions noted)
    {command : Command} {trail last : Trail η} {value : Value} {scene : Scene ω}
    (shows : Shows noted world trail scene)
    (ran : perform functions registry command trail = .ok (some value, last)) :
    ∃ suspension middle,
      Yields noted world (some suspension) middle
        ((Setting.mk host registry now).begin command scene) ∧
      Due host noted world ⟨suspension, command.binding⟩ middle last value := by
  simp only [perform] at ran
  obtain ⟨invocation, middle, valued, rest⟩ := bind_ok ran
  have prepared := prepare_yields now immediate command shows valued
  cases invocation with
  | none =>
    obtain ⟨impossible, _⟩ := pure_ok rest
    contradiction
  | some invocation =>
    obtain ⟨result, applied, called, rest⟩ := bind_ok rest
    obtain ⟨same, rfl⟩ := pure_ok rest
    cases same
    obtain ⟨suspension, started, due⟩ := enter_due now immediate prepared called
    exact ⟨suspension, middle, started, due⟩

end Sequential
end TickScript
