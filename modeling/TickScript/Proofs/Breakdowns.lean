import TickScript.Proofs.Arms
import TickScript.Proofs.Recording
import TickScript.Proofs.Retry

/-! What breaks a session of the built-in commands down: the start of a `wait` whose deadline would
lie beyond the last time, and nothing else. -/
namespace TickScript

variable {η σ ω : Type}

namespace Setting

/-- Nothing but a start breaks down, and it leaves a scene of which something is known. What is
started is of a lasting kind, which no resume breaks down. -/
structure Sturdy (setting : Setting η σ ω) (lasting : σ → Prop)
    (left : Breakdown → Scene ω → Prop) : Prop where
  broken : ∀ {invocation scene cause after},
    setting.invoke invocation scene = (.error (.breakdown cause), after) → left cause after
  started : ∀ {invocation scene suspension after},
    setting.invoke invocation scene = (.ok suspension, after) → lasting suspension
  resumed : ∀ {suspension}, lasting suspension → ∀ scene,
    lasting (setting.resume suspension scene).2.1 ∧
      ∀ cause, (setting.resume suspension scene).1 ≠ .error (.breakdown cause)

variable {setting : Setting η σ ω} {lasting : σ → Prop} {left : Breakdown → Scene ω → Prop}
  {scene after : Scene ω} {cause : Breakdown}

theorem enter_started (sturdy : setting.Sturdy lasting left)
    {prepared : Except Fault (Option Invocation) × Scene ω} {suspension : σ}
    (entered : setting.enter prepared = (.ok (some suspension), after)) : lasting suspension := by
  obtain ⟨invocation, middle, _, started⟩ := enter_ok entered
  exact sturdy.started started

theorem enter_broken (sturdy : setting.Sturdy lasting left)
    {prepared : Except Fault (Option Invocation) × Scene ω}
    (within : prepared = (.error (.breakdown cause), after) → left cause after)
    (failed : setting.enter prepared = (.error (.breakdown cause), after)) : left cause after := by
  obtain ⟨outcome, middle⟩ := prepared
  cases outcome with
  | error fault =>
    cases failed
    exact within rfl
  | ok invocation =>
    cases invocation with
    | none => cases failed
    | some invocation =>
      simp only [enter] at failed
      split at failed
      case h_1 refused =>
        cases failed
        exact sturdy.broken refused
      case h_2 => cases failed

theorem finishNested_unbroken (sturdy : setting.Sturdy lasting left) {command : Command}
    {suspension : σ} (lasts : lasting suspension) :
    setting.finishNested command suspension scene ≠ (.error (.breakdown cause), after) := by
  intro failed
  obtain ⟨_, unbroken⟩ := sturdy.resumed lasts scene
  unfold finishNested at failed
  split at failed
  case h_1 resumed =>
    cases failed
    exact unbroken cause (congrArg Prod.fst resumed)
  all_goals cases failed

mutual

theorem eval_broken (sturdy : setting.Sturdy lasting left) (expr : Expr)
    {scene after : Scene ω}
    (failed : setting.eval expr scene = (.error (.breakdown cause), after)) : left cause after := by
  cases expr with
  | lit value => cases failed
  | name name =>
    simp only [eval] at failed
    split at failed
    · cases failed
    · cases failed
  | call command =>
    simp only [eval] at failed
    split at failed
    case h_1 entered =>
      cases failed
      exact enter_broken sturdy (prepare_broken sturdy command) entered
    case h_2 => cases failed
    case h_3 entered =>
      exact absurd failed (finishNested_unbroken sturdy (enter_started sturdy entered))

theorem prepare_broken (sturdy : setting.Sturdy lasting left) (command : Command)
    {scene after : Scene ω}
    (failed : setting.prepare command scene = (.error (.breakdown cause), after)) :
    left cause after := by
  cases command with
  | positional name args =>
    simp only [prepare] at failed
    split at failed
    case h_1 evaluated =>
      cases failed
      exact evalAll_broken sturdy args evaluated
    case h_2 => cases failed
  | keyword name args named guard binding =>
    simp only [prepare] at failed
    split at failed
    case h_1 evaluated =>
      cases failed
      exact evalGuard_broken sturdy guard evaluated
    case h_2 => cases failed
    case h_3 =>
      split at failed
      case h_1 evaluated =>
        cases failed
        exact evalAll_broken sturdy args evaluated
      case h_2 =>
        split at failed
        case h_1 evaluated =>
          cases failed
          exact evalNamed_broken sturdy named evaluated
        case h_2 => cases failed

theorem evalGuard_broken (sturdy : setting.Sturdy lasting left) (guard : Option Expr)
    {scene after : Scene ω}
    (failed : setting.evalGuard guard scene = (.error (.breakdown cause), after)) :
    left cause after := by
  cases guard with
  | none => cases failed
  | some guard =>
    simp only [evalGuard] at failed
    split at failed
    case h_1 evaluated =>
      cases failed
      exact eval_broken sturdy guard evaluated
    case h_2 => cases failed

theorem evalAll_broken (sturdy : setting.Sturdy lasting left) (exprs : List Expr)
    {scene after : Scene ω}
    (failed : setting.evalAll exprs scene = (.error (.breakdown cause), after)) :
    left cause after := by
  cases exprs with
  | nil => cases failed
  | cons expr rest =>
    simp only [evalAll] at failed
    split at failed
    case h_1 evaluated =>
      cases failed
      exact eval_broken sturdy expr evaluated
    case h_2 =>
      split at failed
      case h_1 evaluated =>
        cases failed
        exact evalAll_broken sturdy rest evaluated
      case h_2 => cases failed

theorem evalNamed_broken (sturdy : setting.Sturdy lasting left) (named : List (String × Expr))
    {scene after : Scene ω}
    (failed : setting.evalNamed named scene = (.error (.breakdown cause), after)) :
    left cause after := by
  cases named with
  | nil => cases failed
  | cons entry rest =>
    obtain ⟨name, expr⟩ := entry
    simp only [evalNamed] at failed
    split at failed
    case h_1 evaluated =>
      cases failed
      exact eval_broken sturdy expr evaluated
    case h_2 =>
      split at failed
      case h_1 evaluated =>
        cases failed
        exact evalNamed_broken sturdy rest evaluated
      case h_2 => cases failed

end

theorem begin_broken (sturdy : setting.Sturdy lasting left) (command : Command)
    (failed : setting.begin command scene = (.error (.breakdown cause), after)) :
    left cause after :=
  enter_broken sturdy (prepare_broken sturdy command) failed

end Setting

namespace Tick

/-- What is in flight lasts, and after a breakdown nothing is in flight and the scene is as it was
left. -/
def Intact (lasting : σ → Prop) (left : Breakdown → Scene ω → Prop) (tick : Tick η σ ω) : Prop :=
  (∀ flight, tick.interp.inFlight = some flight → lasting flight.suspension) ∧
    ∀ cause, tick.point = .ended (.error (.breakdown cause)) →
      tick.interp.inFlight = none ∧ left cause tick.interp.scene

theorem round_intact {host : Host η σ ω} {now : Time} {lasting : σ → Prop}
    {left : Breakdown → Scene ω → Prop}
    (sturdy : ∀ registry, Setting.Sturdy ⟨host, registry, now⟩ lasting left)
    {start : Nat} {tick next : Tick η σ ω} (round : Round host now tick next)
    (steady : tick.Steady start) (intact : tick.Intact lasting left) :
    next.Intact lasting left := by
  obtain ⟨lasts, unbroken⟩ := intact
  cases round with
  | exhausted | vacant | skipped =>
    refine ⟨lasts, ?_⟩
    intro cause ended
    cases ended
  | @refused index completed interp moves command fault scene found failed =>
    refine ⟨lasts, ?_⟩
    intro cause ended
    obtain ⟨_, _, empty, _⟩ := steady
    cases fault with
    | script error => cases completed <;> cases ended
    | breakdown reason =>
      cases ended
      exact ⟨empty, Setting.begin_broken (sturdy interp.registry) command failed⟩
  | @started index completed interp moves command suspension scene found begun =>
    constructor
    · intro flight filled
      cases filled
      exact Setting.enter_started (sturdy interp.registry) begun
    · intro cause ended
      cases completed <;> cases ended
  | @failed interp moves flight fault suspension scene slot resumed =>
    obtain ⟨kept, whole⟩ := (sturdy interp.registry).resumed (lasts flight slot) interp.scene
    rw [Interpreter.setting] at resumed
    rw [resumed] at kept whole
    constructor
    · intro other filled
      cases filled
      exact kept
    · intro cause ended
      cases ended
      exact absurd rfl (whole cause)
  | @unfinished interp moves flight suspension scene slot resumed =>
    obtain ⟨kept, _⟩ := (sturdy interp.registry).resumed (lasts flight slot) interp.scene
    rw [Interpreter.setting] at resumed
    rw [resumed] at kept
    constructor
    · intro other filled
      cases filled
      exact kept
    · intro cause ended
      cases ended
  | declined | done =>
    constructor
    · intro flight filled
      cases filled
    · intro cause ended
      cases ended
  | still => exact ⟨lasts, unbroken⟩

end Tick

namespace Interpreter

def Lasts (lasting : σ → Prop) (interp : Interpreter η σ ω) : Prop :=
  ∀ flight, interp.inFlight = some flight → lasting flight.suspension

inductive BreaksDown (host : Host (Builtin ⊕ η) σ ω) (interp : Interpreter (Builtin ⊕ η) σ ω) :
    Action η ω → Time → Breakdown → Prop
  | step {now cause} (broken : (interp.step host now).1 = .error (.breakdown cause)) :
      BreaksDown host interp (.step now) now cause
  | run {now limit cause}
      (broken : (interp.runToCompletion host now limit).1 = .error (.breakdown cause)) :
      BreaksDown host interp (.runToCompletion now limit) now cause
  | evaluate {now expr cause}
      (broken : (interp.evaluate host now expr).1 = .error (.breakdown cause)) :
      BreaksDown host interp (.evaluate now expr) now cause

section Sturdy

variable {host : Host η σ ω} {now : Time} {lasting : σ → Prop}
  {left : Breakdown → Scene ω → Prop} {interp : Interpreter η σ ω}

theorem step_sturdy (sturdy : ∀ registry, Setting.Sturdy ⟨host, registry, now⟩ lasting left)
    (sound : interp.Sound) (lasts : interp.Lasts lasting) :
    (interp.step host now).2.Lasts lasting ∧
      ∀ cause, (interp.step host now).1 = .error (.breakdown cause) →
        (interp.step host now).2.inFlight = none ∧ left cause (interp.step host now).2.scene := by
  have intact : (interp.tick host now).Intact lasting left := by
    apply tick_induction host now sound
    case entered =>
      refine ⟨lasts, ?_⟩
      intro cause ended
      unfold entry at ended
      split at ended <;> cases ended
    case finished =>
      refine ⟨lasts, ?_⟩
      intro cause ended
      cases ended
    case kept =>
      intro tick next round steady intact
      exact Tick.round_intact sturdy round steady intact
  obtain ⟨ended, same⟩ := tick_step host now sound
  unfold Tick.Intact at intact
  rw [ended, same] at intact
  refine ⟨intact.1, ?_⟩
  intro cause broken
  exact intact.2 cause (congrArg _ broken)

theorem runToCompletion_sturdy
    (sturdy : ∀ registry, Setting.Sturdy ⟨host, registry, now⟩ lasting left) (limit : Nat)
    {interp : Interpreter η σ ω} (sound : interp.Sound) (lasts : interp.Lasts lasting)
    {cause : Breakdown}
    (broken : (interp.runToCompletion host now limit).1 = .error (.breakdown cause)) :
    left cause (interp.runToCompletion host now limit).2.scene := by
  induction limit generalizing interp with
  | zero => cases broken
  | succ limit ih =>
    obtain ⟨following, unbroken⟩ := step_sturdy sturdy sound lasts
    obtain ⟨_, _, next, _⟩ := step_ends host now sound
    unfold runToCompletion at broken ⊢
    by_cases finished : interp.isFinished = true
    · rw [if_pos finished] at broken
      cases broken
    · rw [if_neg finished] at broken ⊢
      generalize interp.step host now = result at following unbroken next broken ⊢
      obtain ⟨outcome, later⟩ := result
      cases outcome with
      | error fault =>
        cases broken
        exact (unbroken cause rfl).2
      | ok answer =>
        cases answer with
        | finished => cases broken
        | stillRunning | completed =>
          apply ih next following
          dsimp only at broken
          cases counted : (later.runToCompletion host now limit).1 with
          | ok count =>
            rw [counted] at broken
            cases broken
          | error fault =>
            rw [counted] at broken
            cases broken
            rfl

end Sturdy

section Session

variable {host : Host (Builtin ⊕ η) σ ω} {lasting : σ → Prop}
  {left : Time → Breakdown → Scene ω → Prop}

theorem after_lasts
    (sturdy : ∀ registry now, Setting.Sturdy ⟨host, registry, now⟩ lasting (left now))
    (actions : List (Action η ω)) {interp : Interpreter (Builtin ⊕ η) σ ω}
    (sound : interp.Sound) (lasts : interp.Lasts lasting) :
    (interp.after host actions).Sound ∧ (interp.after host actions).Lasts lasting := by
  apply after_preserves (P := fun later => later.Sound ∧ later.Lasts lasting)
  case initial => exact ⟨sound, lasts⟩
  case performed =>
    intro action middle kept
    apply perform_preserves (P := fun later => later.Sound ∧ later.Lasts lasting)
    case initial => exact kept
    case stepped =>
      rintro now later ⟨sound, lasts⟩
      obtain ⟨_, _, next, _⟩ := step_ends host now sound
      exact ⟨next, (step_sturdy (sturdy · now) sound lasts).1⟩
    case aside =>
      rintro later registry scene ⟨sound, lasts⟩
      exact ⟨⟨sound.within, sound.aligned⟩, lasts⟩

theorem BreaksDown.scene
    (sturdy : ∀ registry now, Setting.Sturdy ⟨host, registry, now⟩ lasting (left now))
    {interp : Interpreter (Builtin ⊕ η) σ ω} (sound : interp.Sound)
    (lasts : interp.Lasts lasting) {action : Action η ω} {now : Time} {cause : Breakdown}
    (broken : interp.BreaksDown host action now cause) :
    left now cause (interp.perform host action).scene := by
  cases broken with
  | step broken => exact ((step_sturdy (sturdy · now) sound lasts).2 cause broken).2
  | run broken => exact runToCompletion_sturdy (sturdy · now) _ sound lasts broken
  | evaluate broken =>
    exact Setting.eval_broken (sturdy interp.registry now) _ (Prod.ext broken rfl)

end Session

end Interpreter

section Retry

inductive Move.Tries (index : Nat) : Move → Prop
  | skipped : Tries index (.skipped index)
  | refused {fault} : Tries index (.refused index fault)
  | started : Tries index (.started index)

/-- With nothing in flight a step begins with an attempt at the command at the cursor. -/
theorem Interpreter.tick_tries (host : Host η σ ω) (now : Time) {interp : Interpreter η σ ω}
    {index : Nat} {command : Command} (here : interp.cursor = some index)
    (empty : interp.inFlight = none) (found : interp.script.get? index = some command) :
    ∃ move rest, (interp.tick host now).moves = move :: rest ∧ move.Tries index := by
  have unfinished : interp.isFinished = false := unfinished_at here found
  have begins : interp.entry = ⟨.seeking index false, interp, []⟩ := by
    simp [entry, here, empty]
  have first : ∃ move, (interp.entry.next host now).moves = [move] ∧ move.Tries index := by
    have round := interp.entry.next_round host now
    rw [begins] at round ⊢
    generalize Tick.next host now ⟨.seeking index false, interp, []⟩ = next at round ⊢
    cases round with
    | exhausted beyond =>
      rw [found] at beyond
      contradiction
    | refused => exact ⟨_, rfl, .refused⟩
    | skipped => exact ⟨_, rfl, .skipped⟩
    | started => exact ⟨_, rfl, .started⟩
  obtain ⟨move, alone, tries⟩ := first
  have before := Tick.rounds_moves host now (2 * interp.script.size) (interp.entry.next host now)
  rw [alone] at before
  obtain ⟨rest, same⟩ := before
  refine ⟨move, rest, ?_, tries⟩
  unfold tick
  rw [if_neg (by simp [unfinished])]
  exact same.symm

/-- A step that fails and leaves nothing in flight stops at the command that it could not start, which
is the first one that the next step tries. -/
theorem Interpreter.step_stops (host : Host η σ ω) (now : Time) {interp : Interpreter η σ ω}
    (sound : interp.Sound) {fault : Fault} (failed : (interp.step host now).1 = .error fault)
    (empty : (interp.step host now).2.inFlight = none) :
    let next := (interp.step host now).2
    ∃ index command found, next.cursor = some index ∧ interp.script.get? index = some command ∧
      ((interp.setting host now).begin command found).1 = .error fault ∧
      ∀ later, ∃ move rest, (next.tick host later).moves = move :: rest ∧ move.Tries index := by
  intro next
  obtain ⟨index, _, here, slot⟩ := (step_reported host now sound).failed _ failed
  have last : (interp.tick host now).moves.getLast? = some (.refused index fault) := by
    rcases slot with ⟨filled, _⟩ | ⟨_, last⟩
    · rw [empty] at filled
      cases filled
    · exact last
  obtain ⟨_, _, command, found, there, refused, _⟩ :=
    step_halted host now sound (List.mem_of_getLast? last)
  have found_next : next.script.get? index = some command := by
    rw [step_script]
    exact there
  refine ⟨index, command, found, here, there, refused, ?_⟩
  intro later
  exact tick_tries host later here empty found_next

end Retry

section Builtins

/-- A call that starts a `wait` whose deadline lies beyond the last time. -/
inductive Call.Overflows : Call (Builtin ⊕ η) σ → Time → Prop
  | wait {invocation context ms} (asks : Builtin.asked invocation = .ok ms)
      (beyond : Time.bound ≤ context.now + Builtin.nanos ms) :
      Overflows (.start (.inl .wait) invocation context) context.now

theorem Call.Overflows.late {call : Call (Builtin ⊕ η) σ} {now : Time}
    (overflows : call.Overflows now) : Time.bound - 1 - (UInt64.size - 1) < now := by
  cases overflows with
  | @wait invocation context ms asks beyond =>
    have short : Builtin.nanos ms < UInt64.size := Builtin.nanos_lt ms
    have room : UInt64.size ≤ Time.bound := by decide
    unfold Time at *
    omega

def Builtin.Task.Once : Builtin.Task → Prop
  | .calling _ _ => True
  | .waiting timer => timer.repeats = false

/-- A breakdown of the built-in commands comes of the call that is recorded last. -/
def Overflown (now : Time) (cause : Breakdown)
    (scene : Scene (ω × List (Call (Builtin ⊕ Empty) (Builtin.Task ⊕ Empty)))) : Prop :=
  cause = .timeOverflow ∧ ∃ call, scene.world.2.getLast? = some call ∧ call.Overflows now

theorem builtins_sturdy (registry : Registry (Builtin ⊕ Empty)) (now : Time) :
    Setting.Sturdy ⟨(Host.none.withBuiltins (ω := ω)).recorded, registry, now⟩
      (Sum.elim Builtin.Task.Once fun _ => True) (Overflown now) where
  broken := by
    intro invocation scene cause after broken
    unfold Setting.invoke at broken
    split at broken
    case h_1 => cases broken
    case h_2 handler _ =>
      rcases handler with (op | _) | none
      · cases broken
      · obtain ⟨outcome, same⟩ := Prod.mk.inj broken
        have refused : Builtin.startWait invocation now = .error (.breakdown cause) :=
          Builtin.waiting_error_iff.mp outcome
        obtain ⟨ms, asks, beyond, rfl⟩ := Builtin.startWait_breakdown_iff.mp refused
        refine ⟨rfl, .start (.inl .wait) invocation ⟨now, scene.names⟩, ?_, .wait asks beyond⟩
        rw [← same]
        exact List.getLast?_concat ..
      · cases none
  started := by
    intro invocation scene suspension after started
    unfold Setting.invoke at started
    split at started
    case h_1 => cases started
    case h_2 handler _ =>
      rcases handler with (op | _) | none
      · cases started
        trivial
      · obtain ⟨outcome, _⟩ := Prod.mk.inj started
        obtain ⟨timer, waits, rfl⟩ := Builtin.waiting_ok_iff.mp outcome
        obtain ⟨ms, _, _, rfl⟩ := Builtin.startWait_ok_iff.mp waits
        rfl
      · cases none
  resumed := by
    intro suspension lasts scene
    rcases suspension with (⟨op, invocation⟩ | timer) | none
    · constructor
      · trivial
      · intro cause broken
        simp only [Setting.resume, Host.recorded, Host.withBuiltins, Host.either,
          Builtin.host] at broken
        cases called : op.call invocation with
        | ok value =>
          rw [called] at broken
          cases broken
        | error error =>
          rw [called] at broken
          cases broken
    · have once : timer.repeats = false := lasts
      have resumed := Builtin.resumeWait_eq once now
      change (Builtin.resumeWait timer now).2.repeats = false ∧
        ∀ cause, (Builtin.resumeWait timer now).1 ≠ .error (.breakdown cause)
      rw [resumed]
      by_cases quiet : timer.fired ∨ now < timer.deadline
      · rw [if_pos quiet]
        exact ⟨once, fun cause broken => by cases broken⟩
      · rw [if_neg quiet]
        exact ⟨once, fun cause broken => by cases broken⟩
    · cases none

namespace Interpreter

theorem after_append {host : Host (Builtin ⊕ η) σ ω} (actions others : List (Action η ω))
    (interp : Interpreter (Builtin ⊕ η) σ ω) :
    interp.after host (actions ++ others) = (interp.after host actions).after host others := by
  induction actions generalizing interp with
  | nil => rfl
  | cons action rest ih => exact ih _

/-- A session with a record breaks down as the session without does. -/
theorem BreaksDown.recorded {host : Host (Builtin ⊕ η) σ ω} {script : Script}
    {first : Interpreter (Builtin ⊕ η) σ ω}
    {second : Interpreter (Builtin ⊕ η) σ (ω × List (Call (Builtin ⊕ η) σ))}
    (coupled : (recording (Builtin ⊕ η) σ ω script).Coupled first second) {action : Action η ω}
    {now : Time} {cause : Breakdown} (broken : first.BreaksDown host action now cause) :
    second.BreaksDown host.recorded action.recorded now cause := by
  have lockstep := recording_lockstep host script
  cases broken with
  | step broken =>
    obtain ⟨outcome, _⟩ := lockstep.step (fun _ _ => trivial) coupled
    exact .step (outcome.trans broken)
  | run broken =>
    obtain ⟨outcome, _⟩ := lockstep.run _ (fun _ _ _ _ => trivial) coupled
    exact .run (outcome.trans broken)
  | evaluate broken =>
    obtain ⟨outcome, _⟩ := lockstep.evaluate _ _ coupled
    exact .evaluate (outcome.trans broken)

section Session

variable (script : Script) (extra : Registry (Builtin ⊕ Empty)) (world : ω)
  (actions : List (Action Empty ω))

theorem record_lasts :
    (withRecord Host.none.withBuiltins script extra world actions).Sound ∧
      (withRecord Host.none.withBuiltins script extra world actions).Lasts
        (Sum.elim Builtin.Task.Once fun _ => True) := by
  apply after_lasts builtins_sturdy
  case sound => exact sound_fresh _ _ _
  case lasts =>
    intro flight filled
    cases filled

variable {script extra world actions} {now : Time} {cause : Breakdown}

theorem BreaksDown.overflows {action : Action Empty ω}
    (broken : ((create script extra world).after Host.none.withBuiltins actions).BreaksDown
      Host.none.withBuiltins action now cause) :
    cause = .timeOverflow ∧ ∃ call,
      (calls Host.none.withBuiltins script extra world (actions ++ [action])).getLast? =
        some call ∧ call.Overflows now := by
  obtain ⟨coupled, _⟩ := session_recorded Host.none.withBuiltins script extra world actions
  obtain ⟨sound, lasts⟩ := record_lasts script extra world actions
  have overflown := (broken.recorded coupled).scene builtins_sturdy sound lasts
  unfold calls withRecord
  rw [List.map_append, after_append]
  exact overflown

/-- A step that breaks down leaves nothing in flight. -/
theorem broken_vacant
    (broken : (((create script extra world).after Host.none.withBuiltins actions).step
      Host.none.withBuiltins now).1 = .error (.breakdown cause)) :
    (((create script extra world).after Host.none.withBuiltins actions).step
      Host.none.withBuiltins now).2.inFlight = none := by
  obtain ⟨coupled, _⟩ := session_recorded Host.none.withBuiltins script extra world actions
  obtain ⟨sound, lasts⟩ := record_lasts script extra world actions
  obtain ⟨outcome, ⟨⟨_, _, _, beside⟩, _, _⟩, _⟩ :=
    (recording_lockstep Host.none.withBuiltins script).step (fun _ _ => trivial) coupled
  have sturdy := step_sturdy (builtins_sturdy · now) sound lasts
  obtain ⟨empty, _⟩ := sturdy.2 cause (outcome.trans broken)
  rw [beside] at empty
  exact Option.map_eq_none_iff.mp empty

end Session

/-- In a session of the built-in commands no operation comes to an arm that is not to be reached,
and nothing breaks down but an action whose last call starts a `wait` with a deadline beyond the
last time. A step that breaks down stops at the command that it was about to start, which is the
first one that the next step tries. -/
theorem session_breakdown (script : Script) (extra : Registry (Builtin ⊕ Empty)) (world : ω)
    (actions : List (Action Empty ω)) :
    let host := Host.none.withBuiltins
    let interp := (create script extra world).after host actions
    ((∀ op call, Operation.byArms? op call = some (op.call call)) ∧
      ∀ call, Builtin.askedByArms? call = some (Builtin.asked call)) ∧
    (∀ action now cause, interp.BreaksDown host action now cause →
      cause = .timeOverflow ∧ ∃ call,
        (calls host script extra world (actions ++ [action])).getLast? = some call ∧
          call.Overflows now) ∧
    (∀ action now cause, now ≤ Time.bound - 1 - (UInt64.size - 1) →
      ¬interp.BreaksDown host action now cause) ∧
    ∀ now cause, interp.BreaksDown host (.step now) now cause →
      let next := (interp.step host now).2
      ∃ index command found, next.cursor = some index ∧ next.inFlight = none ∧
        script.get? index = some command ∧
        ((interp.setting host now).begin command found).1 = .error (.breakdown cause) ∧
        ∀ later, ∃ move rest, (next.tick host later).moves = move :: rest ∧ move.Tries index := by
  intro host interp
  have sound : interp.Sound := after_sound _ actions (sound_fresh _ _ _)
  have same : interp.script = script := after_script _ actions _
  refine ⟨⟨Operation.byArms_eq, Builtin.askedByArms_eq⟩, ?_, ?_, ?_⟩
  · intro action now cause broken
    exact broken.overflows
  · intro action now cause early broken
    obtain ⟨_, call, _, overflows⟩ := broken.overflows
    exact absurd overflows.late (Nat.not_lt.mpr early)
  · intro now cause broken next
    have failed : (interp.step host now).1 = .error (.breakdown cause) := by
      cases broken with
      | step broken => exact broken
    have empty : next.inFlight = none := broken_vacant failed
    obtain ⟨index, command, found, here, there, refused, tries⟩ :=
      step_stops host now sound failed empty
    exact ⟨index, command, found, here, empty, same ▸ there, refused, tries⟩

def printAndWait : Script where
  commands := [.positional "print" [.lit (.str "hi")], .positional "wait" [.lit (.int 1)]]

/-- At the last time the second command breaks the step down that has completed the first. -/
theorem session_breakdown_last :
    let host := Host.none.withBuiltins
    let interp : Interpreter (Builtin ⊕ Empty) (Builtin.Task ⊕ Empty) Unit :=
      (create printAndWait Table.empty ()).after host []
    let last := Time.bound - 1
    interp.BreaksDown host (.step last) last .timeOverflow ∧
      (∃ call, (calls host printAndWait Table.empty () [.step last]).getLast? = some call ∧
        call.Overflows last) ∧
      (interp.step host last).2.inFlight = none ∧
      ¬interp.BreaksDown host (.step 0) 0 .timeOverflow := by
  intro host interp last
  have broken : interp.BreaksDown host (.step last) last .timeOverflow := .step (by decide +kernel)
  obtain ⟨_, causes, early, stops⟩ := session_breakdown printAndWait Table.empty () []
  obtain ⟨_, called⟩ := causes _ _ _ broken
  obtain ⟨_, _, _, _, empty, _⟩ := stops _ _ broken
  exact ⟨broken, called, empty, early _ _ _ (by decide)⟩

end Interpreter

end Builtins
end TickScript
