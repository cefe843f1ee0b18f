import TickScript.Runner
import TickScript.Proofs.Lockstep

/-! Runs and plain stepping. A run makes the steps that plain stepping makes at the same
pace. It only decides before each step whether it goes on and after each step whether it
gives up, and it keeps count; where it ends and what it reports is settled by the
plain steps alone. -/
namespace TickScript

variable {η σ ω : Type}

namespace Interpreter

def unlogged (interp : Interpreter η σ ω) : Interpreter η σ ω :=
  { interp with scene := { interp.scene with log := [] } }

/-- The interpreter after a number of steps, the first one at a reading of the clock and each other
one an interval after the one before. Errors do not end this. -/
def paced (host : Host η σ ω) (start interval : Time) (interp : Interpreter η σ ω) :
    Nat → Interpreter η σ ω
  | 0 => interp
  | count + 1 =>
    ((interp.paced host start interval count).step host (start + count * interval)).2

def logging (σ ω : Type) (script : Script) : Pairing σ σ ω ω where
  script := script
  twin := script
  related s t := t.names = s.names ∧ t.world = s.world
  form := id

/-- The log sets nothing apart but itself. -/
theorem logging_lockstep (host : Host η σ ω) (script : Script) :
    (logging σ ω script).Lockstep host host (fun _ _ => True) := by
  apply Pairing.Lockstep.of_parallel rfl
  · intro registry now
    apply Setting.parallel_self
    · exact fun same => same
    · intro world events s t same
      exact ⟨same.1, rfl⟩
    · intro name value s t same
      exact ⟨congrArg (Table.insert · name value) same.1, same.2⟩
  · intro event s t same
    exact same

/-- Interpreters in states of their sessions that differ at most in the log. -/
abbrev Alongside (first second : Interpreter η σ ω) : Prop :=
  (logging σ ω first.script).Coupled first second

namespace Alongside

variable {first second : Interpreter η σ ω}

theorem refl (sound : first.Sound) : first.Alongside first := by
  refine ⟨⟨rfl, first.scene, ⟨rfl, rfl⟩, ?_⟩, sound, sound⟩
  simp only [Pairing.second, logging, InFlight.map_inForm_id]

theorem second_eq (alongside : first.Alongside second) :
    second = { first with scene := { first.scene with log := second.scene.log } } := by
  obtain ⟨⟨_, scene, ⟨names, world⟩, same⟩, _, _⟩ := alongside
  obtain ⟨others, things, log⟩ := scene
  subst names world same
  simp only [Pairing.second, logging, InFlight.map_inForm_id]

theorem isFinished_eq (alongside : first.Alongside second) :
    second.isFinished = first.isFinished := by
  rw [alongside.second_eq]
  rfl

theorem position_eq (alongside : first.Alongside second) : second.position = first.position := by
  rw [alongside.second_eq]
  rfl

theorem names_eq (alongside : first.Alongside second) :
    second.scene.names = first.scene.names := by
  rw [alongside.second_eq]

theorem unlogged_eq (alongside : first.Alongside second) : second.unlogged = first.unlogged := by
  rw [alongside.second_eq]
  rfl

theorem note (alongside : first.Alongside second) (event : Event) :
    first.Alongside { second with scene := second.scene.note event } := by
  obtain ⟨⟨_, scene, relates, rfl⟩, sound, also⟩ := alongside
  exact ⟨⟨rfl, scene.note event, relates, rfl⟩, sound, ⟨also.within, also.aligned⟩⟩

theorem step (alongside : first.Alongside second) (host : Host η σ ω) (now : Time) :
    (second.step host now).1 = (first.step host now).1 ∧
      (first.step host now).2.Alongside (second.step host now).2 := by
  have permitted : first.Permits (fun _ _ => True) host now := fun _ _ => trivial
  obtain ⟨outcome, coupled, _⟩ := (logging_lockstep host first.script).step permitted alongside
  refine ⟨outcome, ?_⟩
  rw [Alongside, step_script]
  exact coupled

end Alongside

end Interpreter

namespace Runner

/-- Plain stepping at the pace of a run: a host, a configuration, the reading of the clock at first
and the interpreter. -/
structure Course (η σ ω : Type) where
  host : Host η σ ω
  config : RunnerConfig
  start : Time
  first : Interpreter η σ ω

namespace Course

variable (course : Course η σ ω)

/-- The reading of the clock at which the step after the given number of steps is made. -/
def reading (count : Nat) : Time := course.start + count * course.config.tickInterval

def state (count : Nat) : Interpreter η σ ω :=
  course.first.paced course.host course.start course.config.tickInterval count

def answer (count : Nat) : Except Fault StepResult :=
  ((course.state count).step course.host (course.reading count)).1

theorem state_succ (count : Nat) :
    course.state (count + 1) =
      ((course.state count).step course.host (course.reading count)).2 := rfl

def isFailure : Except Fault StepResult → Bool
  | .error (.script _) => true
  | _ => false

def failures (count : Nat) : Nat :=
  (List.range count).countP fun earlier => isFailure (course.answer earlier)

/-- The script is finished after so many steps, or there may not be more of them. -/
def Halts (count : Nat) : Prop :=
  (course.state count).isFinished = true ∨
    course.config.maxTicks ≠ 0 ∧ count = course.config.maxTicks

def Fatal : Except Fault StepResult → Prop
  | .ok _ => False
  | .error (.script _) => course.config.stopOnError = true
  | .error (.breakdown _) => True

/-- A run gets beyond so many steps: nothing halts it before one of them, and it does not give up
after one. -/
def Passes (count : Nat) : Prop :=
  ∀ earlier < count, ¬ course.Halts earlier ∧ ¬ course.Fatal (course.answer earlier)

/-- The end of a run, read off plain stepping, and the number of its steps. -/
inductive Ends : Nat → Outcome → Prop
  | ended {count} (passes : course.Passes count) (halts : course.Halts count) :
      Ends count (.ended ⟨count, (course.state count).isFinished, course.failures count,
        (course.state count).scene.names⟩)
  | aborted {count error} (passes : course.Passes count) (due : ¬ course.Halts count)
      (failed : course.answer count = .error (.script error))
      (strict : course.config.stopOnError = true) :
      Ends (count + 1) (.aborted ⟨(course.state (count + 1)).position, count + 1, error⟩)
  | brokeDown {count cause} (passes : course.Passes count) (due : ¬ course.Halts count)
      (broke : course.answer count = .error (.breakdown cause)) :
      Ends (count + 1) (.brokeDown cause)

/-- A run is where plain stepping is after as many steps. It is still under way after a number of
them, or it has come to its end by then. -/
structure Follows (count : Nat) (outcome : Option Outcome) (run : Run η σ ω) : Prop where
  alongside : (course.state run.ticks).Alongside run.interp
  errors : run.errors = course.failures run.ticks
  ended : match outcome with
    | none => run.ticks = count ∧ course.Passes count
    | some outcome => ¬ course.Passes count ∧ course.Ends run.ticks outcome

variable {course} {schedule : Schedule}

theorem failures_succ (count : Nat) :
    course.failures (count + 1) =
      course.failures count + (isFailure (course.answer count)).toNat := by
  simp only [failures, List.range_succ, List.countP_append, List.countP_singleton]
  cases isFailure (course.answer count) <;> rfl

theorem Passes.succ {count : Nat} (passes : course.Passes count) (due : ¬ course.Halts count)
    (survives : ¬ course.Fatal (course.answer count)) : course.Passes (count + 1) := by
  intro earlier before
  rcases Nat.lt_succ_iff_lt_or_eq.mp before with less | rfl
  · exact passes earlier less
  · exact ⟨due, survives⟩

theorem Passes.of_le {count fewer : Nat} (passes : course.Passes count) (within : fewer ≤ count) :
    course.Passes fewer :=
  fun earlier before => passes earlier (Nat.lt_of_lt_of_le before within)

theorem Halts.not_passes {count : Nat} (halts : course.Halts count) :
    ¬ course.Passes (count + 1) :=
  fun passes => (passes count (Nat.lt_succ_self count)).1 halts

theorem Fatal.not_passes {count : Nat} (fatal : course.Fatal (course.answer count)) :
    ¬ course.Passes (count + 1) :=
  fun passes => (passes count (Nat.lt_succ_self count)).2 fatal

/-- The limit is not left behind, because a run halts there. -/
theorem Passes.le_limit {count : Nat} (passes : course.Passes count)
    (limited : course.config.maxTicks ≠ 0) : count ≤ course.config.maxTicks := by
  by_contra beyond
  apply (passes course.config.maxTicks (by omega)).1
  exact .inr ⟨limited, rfl⟩

theorem atLimit_iff {run : Run η σ ω} (passes : course.Passes run.ticks) :
    run.atLimit course.config = true ↔
      course.config.maxTicks ≠ 0 ∧ run.ticks = course.config.maxTicks := by
  have within := passes.le_limit
  simp only [Run.atLimit, RunnerConfig.tickLimit]
  split
  · simp only [Option.any_some, decide_eq_true_eq]
    omega
  · simp only [Option.any_none, Bool.false_eq_true, false_iff]
    omega

/-- A timer ticks as the steps of a course are paced. -/
def Keeps (course : Course η σ ω) (schedule : Schedule) : Prop :=
  ∀ count, schedule count = course.reading count

theorem tick_follows (punctual : course.Keeps schedule) {run : Run η σ ω}
    (follows : course.Follows run.ticks none run) (due : ¬ course.Halts run.ticks) :
    course.Follows (run.ticks + 1) (tick course.host course.config schedule run).1
      (tick course.host course.config schedule run).2 := by
  obtain ⟨alongside, errors, _, passes⟩ := follows
  obtain ⟨answered, next⟩ := alongside.step course.host (course.reading run.ticks)
  have counted := course.failures_succ run.ticks
  rw [← errors] at counted
  change _ = course.answer run.ticks at answered
  change (course.state (run.ticks + 1)).Alongside _ at next
  simp only [tick, punctual run.ticks]
  generalize run.interp.step course.host (course.reading run.ticks) = result at answered next ⊢
  obtain ⟨outcome, interp⟩ := result
  rw [← answered] at counted
  cases outcome with
  | ok result =>
    have passed : course.Passes (run.ticks + 1) := passes.succ due (by rw [← answered]; exact id)
    cases result with
    | stillRunning => exact ⟨next, counted.symm, rfl, passed⟩
    | completed | finished => exact ⟨next.note _, counted.symm, rfl, passed⟩
  | error fault =>
    cases fault with
    | breakdown cause =>
      refine ⟨next, counted.symm, Fatal.not_passes ?_, .brokeDown passes due answered.symm⟩
      rw [← answered]
      trivial
    | script error =>
      simp only
      split
      case isTrue strict =>
        refine ⟨next.note _, counted.symm, Fatal.not_passes ?_, ?_⟩
        · rw [← answered]
          exact strict
        · have here : interp.position = (course.state (run.ticks + 1)).position := next.position_eq
          simp only [here]
          exact .aborted passes due answered.symm strict
      case isFalse lenient =>
        refine ⟨next.note _, counted.symm, rfl, passes.succ due ?_⟩
        rw [← answered]
        exact lenient

theorem finish_follows {run : Run η σ ω} (follows : course.Follows run.ticks none run)
    (halts : course.Halts run.ticks) :
    course.Follows (run.ticks + 1) (some (finish run).1) (finish run).2 := by
  obtain ⟨alongside, errors, _, passes⟩ := follows
  refine ⟨alongside.note _, errors, halts.not_passes, ?_⟩
  simp only [finish, Run.note, alongside.isFinished_eq, alongside.names_eq, errors]
  exact .ended passes halts

theorem advance_follows (punctual : course.Keeps schedule) {run : Run η σ ω}
    (follows : course.Follows run.ticks none run) :
    course.Follows (run.ticks + 1) (advance course.host course.config schedule run).1
      (advance course.host course.config schedule run).2 := by
  have alongside := follows.alongside
  have passes := follows.ended.2
  unfold advance
  split
  case isTrue finished =>
    apply finish_follows follows
    exact .inl (alongside.isFinished_eq.symm.trans finished)
  case isFalse unfinished =>
    split
    case isTrue limited =>
      let noted := run.note (.tickLimit run.ticks run.interp.position)
      have follows : course.Follows noted.ticks none noted :=
        ⟨alongside.note _, follows.errors, follows.ended⟩
      exact finish_follows follows (.inr ((atLimit_iff passes).mp limited))
    case isFalse unlimited =>
      apply tick_follows punctual follows
      rintro (finished | limit)
      · exact unfinished (alongside.isFinished_eq.trans finished)
      · exact unlimited ((atLimit_iff passes).mpr limit)

theorem ticking_follows (punctual : course.Keeps schedule) (fuel : Nat) {run : Run η σ ω}
    (follows : course.Follows run.ticks none run) :
    course.Follows (run.ticks + fuel) (ticking course.host course.config schedule fuel run).1
      (ticking course.host course.config schedule fuel run).2 := by
  induction fuel generalizing run with
  | zero => exact follows
  | succ fuel ih =>
    have advanced := advance_follows punctual follows
    unfold ticking
    generalize advance course.host course.config schedule run = result at advanced ⊢
    obtain ⟨outcome, next⟩ := result
    cases outcome with
    | some outcome =>
      obtain ⟨alongside, errors, done, ends⟩ := advanced
      exact ⟨alongside, errors, fun passes => done (passes.of_le (by omega)), ends⟩
    | none =>
      have same : next.ticks = run.ticks + 1 := advanced.ended.1
      rw [← same] at advanced
      have later := ih advanced
      rw [same, Nat.add_assoc, Nat.add_comm 1 fuel] at later
      exact later

variable (course) in
/-- A run follows plain stepping from the first step on. -/
theorem run_follows (spaced : 0 < course.config.tickIntervalMs)
    (punctual : course.Keeps schedule) (sound : course.first.Sound) (fuel : Nat) :
    course.Follows fuel (run course.host course.config schedule fuel course.first).1
      (run course.host course.config schedule fuel course.first).2 := by
  have apart : course.config.tickInterval ≠ 0 := Nat.ne_of_gt (Nat.mul_pos spaced (by decide))
  let launched := launch course.config course.first
  have follows : course.Follows launched.ticks none launched := by
    refine ⟨(Interpreter.Alongside.refl sound).note _, rfl, rfl, ?_⟩
    intro earlier before
    exact absurd before (Nat.not_lt_zero _)
  rw [run, if_neg apart]
  have ended := ticking_follows punctual fuel follows
  rw [show launched.ticks + fuel = fuel from Nat.zero_add fuel] at ended
  exact ended

variable (course) in
/-- What a run of at most so many rounds makes of plain stepping, and what it reports. -/
structure Reported (fuel : Nat) (outcome : Option Outcome) (run : Run η σ ω) : Prop where
  /-- For each tick one step is made, when plain stepping makes it, and nothing else is done. -/
  steps : run.interp.unlogged = (course.state run.ticks).unlogged
  /-- No step is made where the run has to halt. -/
  due : ∀ count < run.ticks, ¬ course.Halts count
  /-- The run lasts longer just if plain stepping passes so many steps. -/
  lasting : outcome = none ↔ course.Passes fuel
  /-- A summary is that of the plain steps up to where the run has to halt. -/
  halted : ∀ summary, outcome = some (.ended summary) → course.Halts run.ticks ∧
    summary = ⟨run.ticks, run.interp.isFinished, course.failures run.ticks,
      run.interp.scene.names⟩
  unfinished : ∀ summary, outcome = some (.ended summary) → summary.finished = false →
    course.config.maxTicks ≠ 0 ∧ run.ticks = course.config.maxTicks
  faultless : ∀ summary, outcome = some (.ended summary) → course.config.stopOnError = true →
    summary.errors = 0
  /-- The run is aborted just if a step has failed and errors are not passed over. -/
  aborted : (∃ abort, outcome = some (.aborted abort)) ↔
    course.config.stopOnError = true ∧ ∃ count < run.ticks, isFailure (course.answer count) = true
  /-- The step that has failed is the last one, and its error is reported. -/
  failed : ∀ abort, outcome = some (.aborted abort) → ∃ count, run.ticks = count + 1 ∧
    course.answer count = .error (.script abort.error) ∧
    abort = ⟨run.interp.position, run.ticks, abort.error⟩
  /-- A step that breaks down is the last one too, and there is nothing to report. -/
  broke : ∀ cause, outcome = some (.brokeDown cause) → ∃ count, run.ticks = count + 1 ∧
    course.answer count = .error (.breakdown cause)
  /-- An interpreter that is finished at first makes no step. -/
  idle : course.first.isFinished = true → run.ticks = 0

theorem Passes.faultless {count : Nat} (passes : course.Passes count)
    (strict : course.config.stopOnError = true) :
    ∀ earlier < count, isFailure (course.answer earlier) = false := by
  intro earlier before
  have survived := (passes earlier before).2
  cases answered : course.answer earlier with
  | ok result => rfl
  | error fault =>
    cases fault with
    | breakdown cause => rfl
    | script error =>
      rw [answered] at survived
      exact absurd strict survived

theorem Passes.failures_eq {count : Nat} (passes : course.Passes count)
    (strict : course.config.stopOnError = true) : course.failures count = 0 := by
  apply List.countP_eq_zero.mpr
  intro earlier member
  rw [passes.faultless strict earlier (List.mem_range.mp member)]
  exact Bool.false_ne_true

theorem Ends.due {count : Nat} {outcome : Outcome} (ends : course.Ends count outcome) :
    ∀ earlier < count, ¬ course.Halts earlier := by
  intro earlier before
  cases ends with
  | ended passes halts => exact (passes earlier before).1
  | aborted passes due | brokeDown passes due =>
    rcases Nat.lt_succ_iff_lt_or_eq.mp before with less | rfl
    · exact (passes earlier less).1
    · exact due

/-- Errors that are not passed over are found at the end. -/
theorem Ends.aborted_iff {count : Nat} {outcome : Outcome} (ends : course.Ends count outcome) :
    (∃ abort, outcome = .aborted abort) ↔ course.config.stopOnError = true ∧
      ∃ earlier < count, isFailure (course.answer earlier) = true := by
  constructor
  · rintro ⟨abort, rfl⟩
    cases ends with
    | @aborted last _ passes due failed strict =>
      refine ⟨strict, last, Nat.lt_succ_self last, ?_⟩
      rw [failed]
      rfl
  · rintro ⟨strict, earlier, before, failure⟩
    cases ends with
    | ended passes halts =>
      rw [passes.faultless strict earlier before] at failure
      contradiction
    | aborted => exact ⟨_, rfl⟩
    | brokeDown passes due broke =>
      rcases Nat.lt_succ_iff_lt_or_eq.mp before with less | rfl
      · rw [passes.faultless strict earlier less] at failure
        contradiction
      · rw [broke] at failure
        contradiction

theorem Follows.reported {fuel : Nat} {outcome : Option Outcome} {run : Run η σ ω}
    (follows : course.Follows fuel outcome run) : course.Reported fuel outcome run := by
  obtain ⟨alongside, errors, ended⟩ := follows
  have finished := alongside.isFinished_eq
  have names := alongside.names_eq
  have position := alongside.position_eq
  cases outcome with
  | none =>
    obtain ⟨rfl, passes⟩ := ended
    constructor
    case steps => exact alongside.unlogged_eq
    case due => exact fun count before => (passes count before).1
    case lasting => exact iff_of_true rfl passes
    case aborted =>
      apply iff_of_false
      · rintro ⟨_, impossible⟩
        contradiction
      · rintro ⟨strict, count, before, failure⟩
        rw [passes.faultless strict count before] at failure
        contradiction
    case idle =>
      intro done
      by_contra more
      exact (passes 0 (by omega)).1 (.inl done)
    all_goals
      intro _ impossible
      contradiction
  | some outcome =>
    obtain ⟨done, ends⟩ := ended
    constructor
    case steps => exact alongside.unlogged_eq
    case due => exact ends.due
    case lasting => exact iff_of_false (by simp) done
    case aborted => simpa only [Option.some.injEq] using ends.aborted_iff
    case idle =>
      intro done
      by_contra more
      exact ends.due 0 (by omega) (.inl done)
    case halted =>
      rintro summary ⟨⟩
      rw [finished, names]
      generalize run.ticks = count at ends ⊢
      cases ends with
      | ended passes halts => exact ⟨halts, rfl⟩
    case unfinished =>
      rintro summary ⟨⟩ open_end
      generalize run.ticks = count at ends ⊢
      cases ends with
      | ended passes halts =>
        rcases halts with done | limit
        · rw [done] at open_end
          contradiction
        · exact limit
    case faultless =>
      rintro summary ⟨⟩ strict
      generalize run.ticks = count at ends
      cases ends with
      | ended passes halts => exact passes.failures_eq strict
    case failed =>
      rintro abort ⟨⟩
      rw [position]
      generalize run.ticks = count at ends ⊢
      cases ends with
      | @aborted last _ passes due failed strict => exact ⟨last, rfl, failed, rfl⟩
    case broke =>
      rintro cause ⟨⟩
      generalize run.ticks = count at ends ⊢
      cases ends with
      | @brokeDown last _ passes due broke => exact ⟨last, rfl, broke⟩

end Course

/-- A run of an interpreter in any state of a session makes the steps of plain stepping at the same
readings of the clock, if the timer ticks at once and then one interval after another. It stops before a step just
where the script is finished or the limit is reached, unless a step that must not fail has failed;
and it reports what the plain steps tell. -/
theorem run_paced {host : Host (Builtin ⊕ η) σ ω} {script : Script}
    {extra : Registry (Builtin ⊕ η)} {world : ω} {actions : List (Action η ω)}
    {interp : Interpreter (Builtin ⊕ η) σ ω} {config : RunnerConfig} {start : Time}
    {schedule : Schedule}
    (reached : interp = (Interpreter.create script extra world).after host actions)
    (spaced : 0 < config.tickIntervalMs)
    (punctual : ∀ count, schedule count = start + count * config.tickInterval) (fuel : Nat) :
    let course : Course (Builtin ⊕ η) σ ω := ⟨host, config, start, interp⟩
    let result := run host config schedule fuel interp
    course.Reported fuel result.1 result.2 := by
  have sound : interp.Sound := by
    rw [reached]
    exact Interpreter.after_sound host actions (Interpreter.sound_fresh _ _ _)
  intro course result
  exact (course.run_follows spaced punctual sound fuel).reported

/-- A wait of a tenth of a second at twenty ticks a second, and then an unknown command, until the
limit is reached. -/
theorem run_paced_waiting :
    let script : Script := ⟨[.positional "wait" [.lit (.int 100)], .positional "frobnicate" []]⟩
    let interp : Interpreter (Builtin ⊕ Empty) (Builtin.Task ⊕ Empty) Unit :=
      .create script Table.empty ()
    let config : RunnerConfig := { tickIntervalMs := 50, maxTicks := 5, stopOnError := false }
    let course : Course (Builtin ⊕ Empty) (Builtin.Task ⊕ Empty) Unit :=
      ⟨Host.none.withBuiltins, config, 0, interp⟩
    let schedule : Schedule := fun count => count * .ofMillis 50
    let result := run Host.none.withBuiltins config schedule 6 interp
    (0 < config.tickIntervalMs ∧ ∀ count, schedule count = 0 + count * config.tickInterval) ∧
      course.Reported 6 result.1 result.2 ∧ result.2.ticks = 5 ∧ result.2.errors = 2 := by
  intro script interp config course schedule result
  have reached : interp =
      (Interpreter.create script Table.empty ()).after Host.none.withBuiltins [] := rfl
  have spaced : 0 < config.tickIntervalMs := by decide
  have punctual (count : Nat) : schedule count = 0 + count * config.tickInterval :=
    (Nat.zero_add _).symm
  refine ⟨⟨spaced, punctual⟩, run_paced reached spaced punctual 6, ?_, ?_⟩
  · decide +kernel
  · decide +kernel

end Runner
end TickScript
