import TickScript.Proofs.Resolution
import TickScript.Proofs.Retry

/-! The timing of a `wait`. Its deadline is set by the reading of the clock at which it is started,
and it is done at the first resume whose reading has come to that deadline. Nothing that happens in
between moves the deadline, and no resume before it changes anything. -/
namespace TickScript

variable {η σ ω : Type}

namespace Setting

variable {host : Host η σ ω} {registry : Registry (Builtin ⊕ η)} {now : Time}

theorem invoke_wait {invocation : Invocation}
    (known : registry.resolve invocation.name = .ok (.inl .wait)) (scene : Scene ω) :
    (Setting.mk host.withBuiltins registry now).invoke invocation scene =
      (((Builtin.startWait invocation now).map .waiting).map .inl, scene) := by
  unfold invoke
  rewrite [known]
  rfl

theorem resume_waiting (timer : Timer) (scene : Scene ω) :
    (Setting.mk host.withBuiltins registry now).resume (.inl (.waiting timer)) scene =
      ((Builtin.resumeWait timer now).1, .inl (.waiting (Builtin.resumeWait timer now).2), scene) :=
  rfl

/-- A `wait` is started with its deadline at the given number of milliseconds from the reading
on. -/
theorem begin_wait {command : Command} {scene after : Scene ω} {suspension : Builtin.Task ⊕ σ}
    (known : registry.resolve command.name = .ok (.inl .wait))
    (begun : (Setting.mk host.withBuiltins registry now).begin command scene =
      (.ok (some suspension), after)) :
    ∃ invocation ms,
      (Setting.mk host.withBuiltins registry now).prepare command scene =
        (.ok (some invocation), after) ∧
      Builtin.asked invocation = .ok ms ∧ now + Builtin.nanos ms < Time.bound ∧
      suspension = .inl (.waiting
        ⟨Builtin.nanos ms, now + Builtin.nanos ms, false, false⟩) := by
  obtain ⟨invocation, middle, prepared, invoked⟩ := enter_ok begun
  have named : invocation.name = command.name := prepare_name (congrArg Prod.fst prepared)
  rw [invoke_wait (named ▸ known)] at invoked
  obtain ⟨outcome, rfl⟩ := Prod.mk.inj invoked
  obtain ⟨timer, waits, rfl⟩ := Builtin.waiting_ok_iff.mp outcome
  obtain ⟨ms, asks, within, rfl⟩ := Builtin.startWait_ok_iff.mp waits
  exact ⟨invocation, ms, prepared, asks, within, rfl⟩

end Setting

/-- The steps of an action are made at readings before a deadline. A run without a limit above zero
makes none. -/
def Action.Early (deadline : Time) : Action η ω → Prop
  | .step now => now < deadline
  | .runToCompletion now limit => 0 < limit → now < deadline
  | .evaluate _ _ | .register _ _ | .extend _ | .reset | .disturb _ => True

def Report.stillRunning (index : Nat) : Report :=
  ⟨.ok .stillRunning, [.resumed index (.ok .unfinished)]⟩

def Move.resumes : Move → Bool
  | .resumed _ _ => true
  | _ => false

namespace Tick

variable {host : Host η σ ω} {now : Time}

/-- More rounds than it takes make no difference. -/
theorem rounds_add_of_ended {tick : Tick η σ ω} {count : Nat} {outcome : Except Fault StepResult}
    (ended : (tick.rounds host now count).point = .ended outcome) (more : Nat) :
    tick.rounds host now (count + more) = tick.rounds host now count := by
  induction count generalizing tick with
  | zero =>
    obtain ⟨point, interp, moves⟩ := tick
    cases ended
    rw [Nat.zero_add, rounds_ended]
    rfl
  | succ count ih =>
    rw [Nat.succ_add]
    exact ih ended

/-- A step under way has completed a command before and resumed nothing since. -/
def Dispatches (before : List Move) (tick : Tick η σ ω) : Prop :=
  (match tick.point with
    | .seeking _ completed => completed = true
    | .resuming => False
    | .ended _ => True) ∧
  ∃ rest, tick.moves = before ++ rest ∧ ∀ move ∈ rest, move.resumes = false

theorem round_dispatches {before : List Move} {tick next : Tick η σ ω}
    (round : Round host now tick next) (dispatches : tick.Dispatches before) :
    next.Dispatches before := by
  obtain ⟨completed, rest, same, quiet⟩ := dispatches
  have one_more {move : Move} (unresumed : move.resumes = false) :
      ∃ longer, tick.moves ++ [move] = before ++ longer ∧ ∀ other ∈ longer,
        other.resumes = false := by
    refine ⟨rest ++ [move], ?_, forall_snoc quiet unresumed⟩
    rw [same, List.append_assoc]
  cases round with
  | exhausted => exact ⟨trivial, rest, same, quiet⟩
  | refused => exact ⟨trivial, one_more rfl⟩
  | skipped => exact ⟨completed, one_more rfl⟩
  | started =>
    cases completed
    exact ⟨trivial, one_more rfl⟩
  | vacant | failed | unfinished | declined | done => exact completed.elim
  | still => exact ⟨trivial, rest, same, quiet⟩

/-- Nothing is resumed after a completion. -/
theorem rounds_dispatch (count index : Nat) (interp : Interpreter η σ ω) (moves : List Move) :
    ∃ rest, (rounds host now count ⟨.seeking index true, interp, moves⟩).moves = moves ++ rest ∧
      ∀ move ∈ rest, move.resumes = false := by
  have initial : Dispatches moves ⟨.seeking index true, interp, moves⟩ :=
    ⟨rfl, [], (List.append_nil _).symm, List.forall_mem_nil _⟩
  exact (rounds_preserves round_dispatches count initial).2

/-- Once what is in flight is done, the step completes it, and it resumes nothing more. -/
theorem rounds_done {interp : Interpreter η σ ω} {index : Nat} {binding : Option String}
    {value : Value} {scene : Scene ω} {moves : List Move}
    (done : next host now ⟨.resuming, interp, moves⟩ =
      ⟨.seeking (index + 1) true,
        { interp with
          scene := (scene.note (.completed index value)).bind? binding value, inFlight := none },
        moves ++ [.resumed index (.ok (.done value))]⟩)
    {count : Nat} {outcome : Except Fault StepResult}
    (ended : (rounds host now count ⟨.resuming, interp, moves⟩).point = .ended outcome) :
    Lands interp
        ((interp.setting host now).complete binding (interp.script.commands.drop (index + 1))
          index value scene)
        (rounds host now count ⟨.resuming, interp, moves⟩) ∧
      ∃ rest, (rounds host now count ⟨.resuming, interp, moves⟩).moves =
          moves ++ .resumed index (.ok (.done value)) :: rest ∧
        ∀ move ∈ rest, move.resumes = false := by
  cases count with
  | zero => cases ended
  | succ count =>
    rw [rounds, done] at ended ⊢
    constructor
    · -- The search has its end after enough rounds, and the step is over before those.
      have lands := rounds_launch host now interp _ (index + 1)
        (count + ((interp.script.commands.drop (index + 1)).length + 1)) rfl (by omega)
        ((scene.note (.completed index value)).bind? binding value)
        interp.cursor (moves ++ [.resumed index (.ok (.done value))])
      rw [rounds_add_of_ended ended] at lands
      exact lands
    · obtain ⟨rest, same, quiet⟩ := rounds_dispatch count (index + 1) _ _
      refine ⟨rest, ?_, quiet⟩
      rw [same, List.append_assoc]
      rfl

end Tick

namespace Interpreter

/-- A step that starts a command comes to it with nothing in flight. It ends there if it has
completed a command before, and else it resumes the command. -/
theorem tick_started (host : Host η σ ω) (now : Time) {interp : Interpreter η σ ω}
    (sound : interp.Sound) {index : Nat} {command : Command}
    (found : interp.script.get? index = some command)
    (started : .started index ∈ (interp.tick host now).moves) :
    ∃ earlier later before completed middle suspension scene,
      interp.entry.rounds host now earlier = ⟨.seeking index completed, middle, before⟩ ∧
      Passed (interp.cursor.getD 0) index before ∧ completions before = completed.toNat ∧
      (interp.setting host now).begin command middle.scene = (.ok (some suspension), scene) ∧
      interp.tick host now = Tick.rounds host now later
        ⟨if completed then .ended (.ok .completed) else .resuming,
          { interp with
            cursor := some index, scene := scene.note (.started index command.name)
            inFlight := some ⟨suspension, command.binding⟩ },
          before ++ [.started index]⟩ := by
  unfold tick at started ⊢
  by_cases finished : interp.isFinished = true
  · rw [if_pos finished] at started
    cases started
  · rw [if_neg finished] at started ⊢
    obtain ⟨earlier, later, same, _, made⟩ := Tick.rounds_made _ started List.not_mem_nil
    have steady : (interp.entry.rounds host now earlier).Steady (interp.cursor.getD 0) :=
      Tick.rounds_preserves Tick.round_steady _ (entry_steady sound)
    have accounted : (interp.entry.rounds host now earlier).Accounted
        (interp.setting host now) interp.script :=
      Tick.rounds_preserves Tick.round_accounted _ (interp.entry_accounted host now)
    have round := (interp.entry.rounds host now earlier).next_round host now
    rw [same]
    generalize coming : interp.entry.rounds host now earlier = tick
      at steady accounted round made ⊢
    generalize tick.next host now = next at round made ⊢
    have nothing_else {move : Move} {moves : List Move}
        (one_more : moves ++ [move] = moves ++ [.started index]) : move = .started index :=
      List.singleton_inj.mp (List.append_cancel_left one_more)
    cases round with
    | exhausted | still => exact absurd made (by simp)
    | refused | skipped | vacant | failed | unfinished | declined | done =>
      cases nothing_else made
    | @started there completed middle before other suspension scene at_there begun =>
      cases nothing_else made
      obtain ⟨_, _, _, passed, counted⟩ := steady
      obtain ⟨of_script, of_registry, _⟩ := accounted
      obtain ⟨script, registry, _, _, _⟩ := middle
      cases of_script
      cases of_registry
      cases found.symm.trans at_there
      exact ⟨earlier, later, before, completed, _, suspension, scene, coming, passed, counted,
        begun, rfl⟩

/-- A step is what its loop comes to. -/
theorem step_of_tick {host : Host η σ ω} {now : Time} {interp last : Interpreter η σ ω}
    (sound : interp.Sound) {outcome : Except Fault StepResult} {moves : List Move}
    (ends : interp.tick host now = ⟨.ended outcome, last, moves⟩) :
    interp.step host now = (outcome, last) := by
  obtain ⟨ended, same⟩ := tick_step host now sound
  rw [ends] at ended same
  exact Prod.ext (Tick.Point.ended.inj ended).symm same.symm

theorem step_of_lands {host : Host η σ ω} {now : Time} {interp base : Interpreter η σ ω}
    (sound : interp.Sound) {landing : Landing σ ω}
    (lands : Tick.Lands base landing (interp.tick host now)) :
    interp.step host now = (landing.outcome, { base with
      scene := landing.scene, cursor := some landing.cursor, inFlight := landing.inFlight }) := by
  obtain ⟨ended, left⟩ := lands
  have ends : interp.tick host now = ⟨.ended landing.outcome, { base with
      scene := landing.scene, cursor := some landing.cursor, inFlight := landing.inFlight },
      (interp.tick host now).moves⟩ := by
    rw [← ended, ← left]
  exact step_of_tick sound ends

/-- The command at an index is in flight with a suspension. -/
structure Holds (interp : Interpreter η σ ω) (index : Nat) (command : Command) (suspension : σ) :
    Prop where
  here : interp.cursor = some index
  found : interp.script.get? index = some command
  slot : interp.inFlight = some ⟨suspension, command.binding⟩

namespace Holds

variable {interp : Interpreter η σ ω} {index : Nat} {command : Command} {suspension : σ}

theorem sound (holds : interp.Holds index command suspension) : interp.Sound :=
  .occupied holds.here holds.found holds.slot

theorem unfinished (holds : interp.Holds index command suspension) : interp.isFinished = false :=
  unfinished_at holds.here holds.found

/-- A step begins with a resume of what is in flight. -/
theorem tick_eq (holds : interp.Holds index command suspension) (host : Host η σ ω) (now : Time) :
    interp.tick host now =
      Tick.rounds host now (2 * interp.script.size + 1) ⟨.resuming, interp, []⟩ := by
  have enters : interp.entry = ⟨.resuming, interp, []⟩ := by
    simp only [entry, holds.slot, Option.isSome_some, if_true]
  rw [tick, if_neg (Bool.not_eq_true _ ▸ holds.unfinished), enters]

end Holds

/-- A `wait` with this deadline is in flight. -/
structure Waits (interp : Interpreter η (Builtin.Task ⊕ σ) ω) (index : Nat) (command : Command)
    (deadline : Time) : Prop where
  here : interp.cursor = some index
  found : interp.script.get? index = some command
  armed : ∃ duration, interp.inFlight =
    some ⟨.inl (.waiting ⟨duration, deadline, false, false⟩), command.binding⟩

namespace Waits

variable {host : Host η σ ω} {now deadline : Time}
  {interp : Interpreter (Builtin ⊕ η) (Builtin.Task ⊕ σ) ω} {index : Nat} {command : Command}

theorem holds (waits : interp.Waits index command deadline) :
    ∃ duration, interp.Holds index command
      (.inl (.waiting ⟨duration, deadline, false, false⟩)) := by
  obtain ⟨here, found, duration, armed⟩ := waits
  exact ⟨duration, here, found, armed⟩

theorem sound (waits : interp.Waits index command deadline) : interp.Sound := by
  obtain ⟨_, holds⟩ := waits.holds
  exact holds.sound

theorem unfinished (waits : interp.Waits index command deadline) : interp.isFinished = false :=
  unfinished_at waits.here waits.found

/-- A resume before the deadline changes nothing. -/
theorem next_early (waits : interp.Waits index command deadline) (early : now < deadline)
    (moves : List Move) :
    Tick.next host.withBuiltins now ⟨.resuming, interp, moves⟩ =
      ⟨.ended (.ok .stillRunning), interp, moves ++ [.resumed index (.ok .unfinished)]⟩ := by
  obtain ⟨script, registry, scene, cursor, inFlight⟩ := interp
  obtain ⟨here, _, duration, armed⟩ := waits
  subst here armed
  have resumed (timer : Timer) (once : timer.repeats = false) (ahead : now < timer.deadline) :
      (Setting.mk host.withBuiltins registry now).resume (.inl (.waiting timer)) scene =
        (.ok .unfinished, .inl (.waiting timer), scene) := by
    rw [Setting.resume_waiting, Builtin.resumeWait_eq once, if_pos (.inr ahead)]
  simp only [Tick.next, Tick.resume, setting]
  rw [resumed _ rfl early]
  rfl

/-- A resume at the deadline or after it is done with `true`. -/
theorem next_due (waits : interp.Waits index command deadline) (due : deadline ≤ now)
    (moves : List Move) :
    Tick.next host.withBuiltins now ⟨.resuming, interp, moves⟩ =
      ⟨.seeking (index + 1) true,
        { interp with
          scene := (interp.scene.note (.completed index (.bool true))).bind? command.binding
            (.bool true)
          inFlight := none },
        moves ++ [.resumed index (.ok (.done (.bool true)))]⟩ := by
  obtain ⟨script, registry, scene, cursor, inFlight⟩ := interp
  obtain ⟨here, _, duration, armed⟩ := waits
  subst here armed
  have resumed (timer : Timer) (once : timer.repeats = false) (unfired : timer.fired = false)
      (reached : timer.deadline ≤ now) :
      (Setting.mk host.withBuiltins registry now).resume (.inl (.waiting timer)) scene =
        (.ok (.done (.bool true)), .inl (.waiting { timer with fired := true }), scene) := by
    have ready : ¬(timer.fired = true ∨ now < timer.deadline) := by
      rw [unfired]
      exact not_or.mpr ⟨Bool.false_ne_true, Nat.not_lt.mpr reached⟩
    rw [Setting.resume_waiting, Builtin.resumeWait_eq once, if_neg ready]
  simp only [Tick.next, Tick.resume, setting]
  rw [resumed _ rfl rfl due]
  rfl

/-- Once a `wait` is resumed before its deadline, the step is over. -/
theorem rounds_early (waits : interp.Waits index command deadline) (early : now < deadline)
    {moves : List Move} {count : Nat} {outcome : Except Fault StepResult}
    (ended : (Tick.rounds host.withBuiltins now count ⟨.resuming, interp, moves⟩).point =
      .ended outcome) :
    Tick.rounds host.withBuiltins now count ⟨.resuming, interp, moves⟩ =
      ⟨.ended (.ok .stillRunning), interp, moves ++ [.resumed index (.ok .unfinished)]⟩ := by
  cases count with
  | zero => cases ended
  | succ count => rw [Tick.rounds, waits.next_early early, Tick.rounds_ended]

/-- Once a `wait` is resumed at its deadline or after it, the step completes it, and it resumes
nothing more. -/
theorem rounds_due (waits : interp.Waits index command deadline) (due : deadline ≤ now)
    {moves : List Move} {count : Nat} {outcome : Except Fault StepResult}
    (ended : (Tick.rounds host.withBuiltins now count ⟨.resuming, interp, moves⟩).point =
      .ended outcome) :
    Tick.Lands interp
        ((interp.setting host.withBuiltins now).complete command.binding
          (interp.script.commands.drop (index + 1)) index (.bool true) interp.scene)
        (Tick.rounds host.withBuiltins now count ⟨.resuming, interp, moves⟩) ∧
      ∃ rest, (Tick.rounds host.withBuiltins now count ⟨.resuming, interp, moves⟩).moves =
          moves ++ .resumed index (.ok (.done (.bool true))) :: rest ∧
        ∀ move ∈ rest, move.resumes = false :=
  Tick.rounds_done (waits.next_due due moves) ended

variable (host)

theorem tick_eq (waits : interp.Waits index command deadline) (now : Time) :
    interp.tick host.withBuiltins now =
      Tick.rounds host.withBuiltins now (2 * interp.script.size + 1) ⟨.resuming, interp, []⟩ := by
  obtain ⟨_, holds⟩ := waits.holds
  exact holds.tick_eq host.withBuiltins now

/-- A step before the deadline resumes the `wait` once and changes nothing. -/
theorem step_early (waits : interp.Waits index command deadline) (early : now < deadline) :
    interp.step host.withBuiltins now = (.ok .stillRunning, interp) ∧
      (interp.tick host.withBuiltins now).moves = [.resumed index (.ok .unfinished)] := by
  have ended := (tick_step host.withBuiltins now waits.sound).1
  rw [waits.tick_eq host now] at ended
  have ends := (waits.tick_eq host now).trans (waits.rounds_early early ended)
  exact ⟨step_of_tick waits.sound ends, congrArg Tick.moves ends⟩

theorem report_early (waits : interp.Waits index command deadline) (early : now < deadline) :
    interp.report host.withBuiltins now = .stillRunning index := by
  obtain ⟨same, moves⟩ := waits.step_early host early
  rw [report, same, moves]
  rfl

theorem run_early (waits : interp.Waits index command deadline) {limit : Nat}
    (early : 0 < limit → now < deadline) :
    interp.runToCompletion host.withBuiltins now limit = (.ok limit, interp) ∧
      ∀ report ∈ interp.runReports host.withBuiltins now limit, report = .stillRunning index := by
  induction limit with
  | zero => exact ⟨rfl, List.forall_mem_nil _⟩
  | succ limit ih =>
    have ahead : now < deadline := early (Nat.succ_pos limit)
    obtain ⟨rest, reported⟩ := ih fun _ => ahead
    obtain ⟨same, _⟩ := waits.step_early host ahead
    unfold runToCompletion runReports
    simp only [waits.unfinished, Bool.false_eq_true, if_false, same, rest]
    refine ⟨rfl, ?_⟩
    exact List.forall_mem_cons.mpr ⟨waits.report_early host ahead, reported⟩

/-- A `wait` depends neither on the registry nor on the scene. -/
theorem aside (waits : interp.Waits index command deadline) (registry : Registry (Builtin ⊕ η))
    (scene : Scene ω) : Waits { interp with registry, scene } index command deadline :=
  ⟨waits.here, waits.found, waits.armed⟩

/-- Before the deadline no action changes anything about a `wait`. -/
theorem perform_early (waits : interp.Waits index command deadline) {action : Action η ω}
    (early : action.Early deadline) :
    (interp.perform host.withBuiltins action).Waits index command deadline ∧
      ∀ report ∈ interp.reports host.withBuiltins action, report = .stillRunning index := by
  cases action with
  | step now =>
    obtain ⟨same, _⟩ := waits.step_early host early
    constructor
    · rw [perform, same]
      exact waits
    · exact List.forall_mem_singleton.mpr (waits.report_early host early)
  | runToCompletion now limit =>
    obtain ⟨same, reported⟩ := waits.run_early host early
    refine ⟨?_, reported⟩
    rw [perform, same]
    exact waits
  | evaluate | register | extend | reset | disturb =>
    exact ⟨waits.aside _ _, List.forall_mem_nil _⟩

theorem after_early (waits : interp.Waits index command deadline) {actions : List (Action η ω)}
    (early : ∀ action ∈ actions, action.Early deadline) :
    (interp.after host.withBuiltins actions).Waits index command deadline ∧
      ∀ report ∈ interp.history host.withBuiltins actions, report = .stillRunning index := by
  induction actions generalizing interp with
  | nil => exact ⟨waits, List.forall_mem_nil _⟩
  | cons action rest ih =>
    obtain ⟨first, others⟩ := List.forall_mem_cons.mp early
    obtain ⟨next, reported⟩ := waits.perform_early host first
    obtain ⟨last, remaining⟩ := ih next others
    exact ⟨last, List.forall_mem_append.mpr ⟨reported, remaining⟩⟩

end Waits

/-- A step completes a `wait` with `true` after these moves: it binds the value in this scene, tries
the commands that follow, and resumes nothing any more. -/
structure EndsWait (host : Host η σ ω) (now : Time)
    (interp : Interpreter (Builtin ⊕ η) (Builtin.Task ⊕ σ) ω) (index : Nat) (command : Command)
    (before : List Move) (scene : Scene ω) : Prop where
  moves : ∃ rest, (interp.tick host.withBuiltins now).moves =
      before ++ .resumed index (.ok (.done (.bool true))) :: rest ∧
    ∀ move ∈ rest, move.resumes = false
  lands :
    let landing := (interp.setting host.withBuiltins now).complete command.binding
      (interp.script.commands.drop (index + 1)) index (.bool true) scene
    interp.step host.withBuiltins now = (landing.outcome, { interp with
      scene := landing.scene, cursor := some landing.cursor, inFlight := landing.inFlight })

/-- A step comes to a command after these moves, and the call that it makes there, which leaves this
scene, asks for a number of milliseconds. All commands before have been settled, at most one of them
by its completion. -/
structure Asks (host : Host η σ ω) (now : Time)
    (interp : Interpreter (Builtin ⊕ η) (Builtin.Task ⊕ σ) ω) (index : Nat) (command : Command)
    (before : List Move) (completed : Bool) (ms : Binary64) (scene : Scene ω) : Prop where
  comes : ∃ count middle invocation,
    interp.entry.rounds host.withBuiltins now count = ⟨.seeking index completed, middle, before⟩ ∧
    (interp.setting host.withBuiltins now).prepare command middle.scene =
      (.ok (some invocation), scene) ∧
    Builtin.asked invocation = .ok ms
  passed : Passed (interp.cursor.getD 0) index before
  counted : completions before = completed.toNat

/-- How a step ends that starts a `wait` after these moves. After a completion it ends with the
start. Else it resumes the `wait` at once, and this is done if it does not have to wait at all. -/
inductive StartsWait (host : Host η σ ω) (now : Time)
    (interp : Interpreter (Builtin ⊕ η) (Builtin.Task ⊕ σ) ω) (index : Nat) (command : Command)
    (deadline : Time) (before : List Move) (scene : Scene ω) : Bool → Prop
  | afterwards
      (moves : (interp.tick host.withBuiltins now).moves = before ++ [.started index])
      (outcome : (interp.step host.withBuiltins now).1 = .ok .completed)
      (waits : (interp.step host.withBuiltins now).2.Waits index command deadline)
      (left : (interp.step host.withBuiltins now).2.scene =
        scene.note (.started index command.name)) :
      StartsWait host now interp index command deadline before scene true
  | resumed (early : now < deadline)
      (moves : (interp.tick host.withBuiltins now).moves =
        before ++ [.started index, .resumed index (.ok .unfinished)])
      (outcome : (interp.step host.withBuiltins now).1 = .ok .stillRunning)
      (waits : (interp.step host.withBuiltins now).2.Waits index command deadline)
      (left : (interp.step host.withBuiltins now).2.scene =
        scene.note (.started index command.name)) :
      StartsWait host now interp index command deadline before scene false
  | atOnce (due : deadline ≤ now)
      (ends : interp.EndsWait host now index command (before ++ [.started index])
        (scene.note (.started index command.name))) :
      StartsWait host now interp index command deadline before scene false

section Session

variable {host : Host η σ ω} {now deadline : Time}
  {interp : Interpreter (Builtin ⊕ η) (Builtin.Task ⊕ σ) ω} {index : Nat} {command : Command}

theorem Waits.step_due (waits : interp.Waits index command deadline) (due : deadline ≤ now) :
    interp.EndsWait host now index command [] interp.scene := by
  have ended := (tick_step host.withBuiltins now waits.sound).1
  rw [waits.tick_eq] at ended
  obtain ⟨lands, moves⟩ := waits.rounds_due due ended
  rw [← waits.tick_eq] at lands moves
  exact ⟨moves, step_of_lands waits.sound lands⟩

/-- How a step ends that has just put a `wait` into the slot. -/
theorem Waits.starts (sound : interp.Sound) {flight : InFlight (Builtin.Task ⊕ σ)}
    {scene : Scene ω} (waits : Waits { interp with
      cursor := some index, scene := scene.note (.started index command.name)
      inFlight := some flight } index command deadline)
    {later : Nat} {before : List Move} {completed : Bool}
    (goes_on : interp.tick host.withBuiltins now = Tick.rounds host.withBuiltins now later
      ⟨if completed then .ended (.ok .completed) else .resuming,
        { interp with
          cursor := some index, scene := scene.note (.started index command.name)
          inFlight := some flight },
        before ++ [.started index]⟩) :
    interp.StartsWait host now index command deadline before scene completed := by
  cases completed with
  | true =>
    simp only [if_true, Tick.rounds_ended] at goes_on
    have stepped := step_of_tick sound goes_on
    apply StartsWait.afterwards
    · rw [goes_on]
    · rw [stepped]
    · rw [stepped]
      exact waits
    · rw [stepped]
  | false =>
    simp only [Bool.false_eq_true, if_false] at goes_on
    have ended := (tick_step host.withBuiltins now sound).1
    rw [goes_on] at ended
    by_cases early : now < deadline
    · have resumed := goes_on.trans (waits.rounds_early early ended)
      have stepped := step_of_tick sound resumed
      apply StartsWait.resumed early
      · rw [resumed, List.append_assoc]
        rfl
      · rw [stepped]
      · rw [stepped]
        exact waits
      · rw [stepped]
    · have due : deadline ≤ now := Nat.not_lt.mp early
      obtain ⟨lands, moves⟩ := waits.rounds_due due ended
      rw [← goes_on] at lands moves
      exact .atOnce due ⟨moves, step_of_lands sound lands⟩

/-- A step that starts a `wait` takes its own reading for the start of it. -/
theorem step_starts_wait (sound : interp.Sound) (found : interp.script.get? index = some command)
    (known : interp.registry.resolve command.name = .ok (.inl .wait))
    (started : .started index ∈ (interp.tick host.withBuiltins now).moves) :
    ∃ before completed ms scene,
      interp.Asks host now index command before completed ms scene ∧
      now + Builtin.nanos ms < Time.bound ∧
      interp.StartsWait host now index command (now + Builtin.nanos ms) before scene completed := by
  obtain ⟨count, later, before, completed, middle, suspension, scene, comes, passed, counted, begun,
    goes_on⟩ := tick_started host.withBuiltins now sound found started
  obtain ⟨invocation, ms, prepared, asks, within, rfl⟩ := Setting.begin_wait known begun
  refine ⟨before, completed, ms, scene,
    ⟨⟨count, middle, invocation, comes, prepared, asks⟩, passed, counted⟩, within, ?_⟩
  exact Waits.starts sound ⟨rfl, found, _, rfl⟩ goes_on

/-- A `wait` that a step of a session starts has its deadline as far from the reading of that step
as it is asked for. Unless it is done within the step, every resume before the deadline leaves all
as it is, and the first resume at the deadline or after it completes the `wait` with `true`. It does
not matter what else the host does in between, or what becomes of the registry and the scene. -/
theorem wait_timed {script : Script} {extra : Registry (Builtin ⊕ η)} {world : ω}
    {actions : List (Action η ω)}
    (reached : interp = (create script extra world).after host.withBuiltins actions)
    (found : script.get? index = some command)
    (known : interp.registry.resolve command.name = .ok (.inl .wait))
    (started : .started index ∈ (interp.tick host.withBuiltins now).moves) :
    ∃ before completed ms scene,
      interp.Asks host now index command before completed ms scene ∧
      let deadline := now + Builtin.nanos ms
      let next := (interp.step host.withBuiltins now).2
      deadline < Time.bound ∧
      interp.StartsWait host now index command deadline before scene completed ∧
      (next.Waits index command deadline →
        ∀ later : List (Action η ω), (∀ action ∈ later, action.Early deadline) →
          let last := next.after host.withBuiltins later
          last.Waits index command deadline ∧
          (∀ report ∈ next.history host.withBuiltins later, report = .stillRunning index) ∧
          ∀ reading registry scene,
            let pending : Interpreter _ _ _ := { last with registry, scene }
            (reading < deadline →
              pending.step host.withBuiltins reading = (.ok .stillRunning, pending)) ∧
            (deadline ≤ reading → pending.EndsWait host reading index command [] scene)) := by
  have sound : interp.Sound := by
    rw [reached]
    exact after_sound _ actions (sound_fresh _ _ _)
  have same : interp.script = script := by
    rw [reached]
    exact after_script _ actions _
  obtain ⟨before, completed, ms, scene, asks, within, starts⟩ :=
    step_starts_wait sound (same ▸ found) known started
  refine ⟨before, completed, ms, scene, asks, within, starts, ?_⟩
  intro waits later early last
  obtain ⟨still, reported⟩ := waits.after_early host early
  refine ⟨still, reported, ?_⟩
  intro reading registry scene
  constructor
  · intro ahead
    exact ((still.aside registry scene).step_early host ahead).1
  · intro due
    exact (still.aside registry scene).step_due due

end Session

def halfSecond : Script where
  commands := [.keyword "wait" [.lit (.int 500)] [] none (some "waited")]

/-- The clock goes forth and back in between, and the commands are reset. -/
theorem wait_timed_halfSecond :
    let host := Host.none.withBuiltins
    let interp : Interpreter (Builtin ⊕ Empty) (Builtin.Task ⊕ Empty) Unit :=
      create halfSecond Table.empty ()
    let command : Command := .keyword "wait" [.lit (.int 500)] [] none (some "waited")
    let pending := (interp.step host 0).2.after host
      [.step 400000000, .reset, .step 0, .evaluate 900000000 (.lit .null)]
    .started 0 ∈ (interp.tick host 0).moves ∧
      pending.Waits 0 command 500000000 ∧
      pending.step host 499999999 = (.ok .stillRunning, pending) ∧
      pending.EndsWait Host.none 500000000 0 command [] pending.scene := by
  intro host interp command
  have started : .started 0 ∈ (interp.tick host 0).moves := by decide +kernel
  have reached : interp = (create halfSecond Table.empty ()).after host [] := rfl
  have known : interp.registry.resolve command.name = .ok (.inl .wait) := rfl
  obtain ⟨before, completed, ms, scene, asks, _, starts, timed⟩ :=
    wait_timed reached rfl known started
  have span : 0 + Builtin.nanos ms = 500000000 := by
    have computed : (Builtin.asked ⟨"wait", [.int 500], Table.ofList []⟩).toOption.map
        Builtin.nanos = some 500000000 := by decide +kernel
    obtain ⟨_, _, invocation, _, prepared, asked⟩ := asks.comes
    cases prepared
    rw [asked] at computed
    rw [Nat.zero_add]
    exact Option.some.inj computed
  rw [span] at starts timed
  have waits : (interp.step host 0).2.Waits 0 command 500000000 := by
    cases starts with
    | afterwards _ _ waits | resumed _ _ _ waits => exact waits
    | atOnce due => exact absurd due (by decide)
  obtain ⟨still, _, resumes⟩ := timed waits
    [.step 400000000, .reset, .step 0, .evaluate 900000000 (.lit .null)]
    (by simp [Action.Early])
  generalize (interp.step host 0).2.after host
    [.step 400000000, .reset, .step 0, .evaluate 900000000 (.lit .null)] = last at still resumes ⊢
  refine ⟨started, still, ?_, ?_⟩
  · exact (resumes 499999999 last.registry last.scene).1 (by decide)
  · exact (resumes 500000000 last.registry last.scene).2 (Nat.le_refl _)

end Interpreter

end TickScript
