import TickScript.Proofs.Nanoseconds
import TickScript.Proofs.Pacing
import TickScript.Proofs.Timing
import Mathlib.Algebra.BigOperators.Group.Finset.Basic
import Mathlib.Algebra.Order.Floor.Div

/-! How many ticks a script of waits takes. A command is started by the tick that completes the one
before, so each but the first is resumed an interval after its start at the earliest, and the time
by which a wait ends late is lost to all that follow. -/
namespace TickScript

variable {η σ ω : Type}

namespace Setting

variable {host : Host η σ ω} {registry : Registry (Builtin ⊕ η)} {now : Time}

/-- A `wait` is started unless its deadline is no time. -/
theorem begin_asked {command : Command} {scene after : Scene ω} {invocation : Invocation}
    {ms : Binary64} (known : registry.resolve command.name = .ok (.inl .wait))
    (prepared : (Setting.mk host.withBuiltins registry now).prepare command scene =
      (.ok (some invocation), after))
    (asks : Builtin.asked invocation = .ok ms) (within : now + Builtin.nanos ms < Time.bound) :
    (Setting.mk host.withBuiltins registry now).begin command scene =
      (.ok (some (.inl (.waiting ⟨Builtin.nanos ms, now + Builtin.nanos ms, false, false⟩))),
        after) := by
  have named : invocation.name = command.name := prepare_name (congrArg Prod.fst prepared)
  have started := Builtin.startWait_ok_iff.mpr ⟨ms, asks, within, rfl⟩
  rw [begin, prepared, enter, invoke_wait (named ▸ known), started]
  rfl

end Setting

namespace Tick

variable (host : Host η σ ω) (now : Time)

theorem rounds_next (count : Nat) (tick : Tick η σ ω) :
    tick.rounds host now (count + 1) = (tick.rounds host now count).next host now := by
  induction count generalizing tick with
  | zero => rfl
  | succ count ih => exact ih (tick.next host now)

variable {host now}

theorem next_started (interp : Interpreter η σ ω) {index : Nat} {completed : Bool}
    {moves : List Move} {command : Command} {suspension : σ} {scene : Scene ω}
    (found : interp.script.get? index = some command)
    (begun : (interp.setting host now).begin command interp.scene =
      (.ok (some suspension), scene)) :
    next host now ⟨.seeking index completed, interp, moves⟩ =
      ⟨if completed then .ended (.ok .completed) else .resuming,
        { interp with
          cursor := some index, scene := scene.note (.started index command.name)
          inFlight := some ⟨suspension, command.binding⟩ },
        moves ++ [.started index]⟩ := by
  simp only [Interpreter.setting] at begun
  simp only [next, seek, found, Interpreter.setting, begun]

theorem next_done (interp : Interpreter η σ ω) {index : Nat} {moves : List Move}
    {flight : InFlight σ} {value : Value} {suspension : σ} {scene : Scene ω}
    (here : interp.cursor = some index) (slot : interp.inFlight = some flight)
    (done : (interp.setting host now).resume flight.suspension interp.scene =
      (.ok (.done value), suspension, scene)) :
    next host now ⟨.resuming, interp, moves⟩ =
      ⟨.seeking (index + 1) true,
        { interp with
          scene := (scene.note (.completed index value)).bind? flight.binding value
          inFlight := none },
        moves ++ [.resumed index (.ok (.done value))]⟩ := by
  simp only [next, resume, slot, done, here, Option.getD_some]

theorem next_exhausted (interp : Interpreter η σ ω) {index : Nat} {moves : List Move}
    (beyond : interp.script.get? index = none) :
    next host now ⟨.seeking index true, interp, moves⟩ =
      ⟨.ended (.ok .completed), { interp with
        cursor := some index, scene := interp.scene.note (.scriptComplete index) }, moves⟩ := by
  simp only [next, seek, beyond, if_true]

end Tick

namespace Interpreter

/-- A step comes to the end of its loop, however many rounds that is after. -/
theorem step_of_ended {host : Host η σ ω} {now : Time} {interp last : Interpreter η σ ω}
    (sound : interp.Sound) (unfinished : interp.isFinished = false) {rounds : Nat}
    {outcome : Except Fault StepResult} {moves : List Move}
    (ended : interp.entry.rounds host now rounds = ⟨.ended outcome, last, moves⟩) :
    interp.step host now = (outcome, last) := by
  obtain ⟨at_end, left⟩ := tick_step host now sound
  rw [tick, unfinished, if_neg Bool.false_ne_true] at at_end left
  have all := Tick.rounds_add_of_ended at_end rounds
  have some_of_them := Tick.rounds_add_of_ended
    (congrArg Tick.point ended) (2 * interp.script.size + 1)
  rw [Nat.add_comm, some_of_them, ended] at all
  rw [← all] at at_end left
  exact Prod.ext (Tick.Point.ended.inj at_end).symm left.symm

end Interpreter

namespace Runner.Course

section Trajectory

variable (course : Course η σ ω)

def setting (count : Nat) : Setting η σ ω := course.first.setting course.host (course.reading count)

def Reaches (count : Nat) (tick : Tick η σ ω) : Prop :=
  ∃ rounds, (course.state count).entry.rounds course.host (course.reading count) rounds = tick

/-- The step after a number of steps comes to the command at an index in a scene, after it has
completed another one or not. -/
def Comes (count index : Nat) (completed : Bool) (scene : Scene ω) : Prop :=
  ∃ middle before, course.Reaches count ⟨.seeking index completed, middle, before⟩ ∧
    middle.scene = scene

def Resumes (count : Nat) (interp : Interpreter η σ ω) : Prop :=
  ∃ before, course.Reaches count ⟨.resuming, interp, before⟩

/-- The script is still running after so many steps, and none of them has had an error. -/
def Runs (count : Nat) : Prop :=
  (course.state count).isFinished = false ∧
    ∀ earlier < count, (course.state earlier).isFinished = false ∧
      ∃ result, course.answer earlier = .ok result

variable {course}

theorem state_steady (sound : course.first.Sound) (count : Nat) :
    (course.state count).Sound ∧ (course.state count).script = course.first.script ∧
      (course.state count).registry = course.first.registry := by
  induction count with
  | zero => exact ⟨sound, rfl, rfl⟩
  | succ count ih =>
    obtain ⟨sound, script, registry⟩ := ih
    rw [state_succ, Interpreter.step_script, Interpreter.step_registry]
    obtain ⟨_, _, next, _⟩ := Interpreter.step_ends course.host (course.reading count) sound
    exact ⟨next, script, registry⟩

theorem Runs.with_next {count : Nat} {result : StepResult} (runs : course.Runs count)
    (answered : course.answer count = .ok result) :
    ∀ earlier < count + 1, (course.state earlier).isFinished = false ∧
      ∃ result, course.answer earlier = .ok result := by
  intro earlier before
  rcases Nat.lt_succ_iff_lt_or_eq.mp before with less | rfl
  · exact runs.2 earlier less
  · exact ⟨runs.1, result, answered⟩

theorem Runs.next {count : Nat} {result : StepResult} (runs : course.Runs count)
    (answered : course.answer count = .ok result)
    (unfinished : (course.state (count + 1)).isFinished = false) : course.Runs (count + 1) :=
  ⟨unfinished, runs.with_next answered⟩

theorem Reaches.next {count : Nat} {tick : Tick η σ ω} (reaches : course.Reaches count tick) :
    course.Reaches count (tick.next course.host (course.reading count)) := by
  obtain ⟨rounds, rfl⟩ := reaches
  exact ⟨rounds + 1, Tick.rounds_next course.host (course.reading count) rounds _⟩

/-- The end of its loop tells the answer of a step and the next state. -/
theorem Runs.ended {count : Nat} (runs : course.Runs count) (sound : course.first.Sound)
    {outcome : Except Fault StepResult} {last : Interpreter η σ ω} {moves : List Move}
    (reaches : course.Reaches count ⟨.ended outcome, last, moves⟩) :
    course.answer count = outcome ∧ course.state (count + 1) = last := by
  obtain ⟨rounds, ended⟩ := reaches
  have stepped := Interpreter.step_of_ended (state_steady sound count).1 runs.1 ended
  exact ⟨congrArg Prod.fst stepped, congrArg Prod.snd stepped⟩

theorem resumes_of_state {count : Nat} {interp : Interpreter η σ ω} {flight : InFlight σ}
    (here : course.state count = interp) (slot : interp.inFlight = some flight) :
    course.Resumes count interp := by
  refine ⟨[], 0, ?_⟩
  rw [here, Tick.rounds, Interpreter.entry, slot]
  rfl

/-- Where a step looks for a command to start, nothing is in flight. -/
theorem Comes.middle {count index : Nat} {completed : Bool} {scene : Scene ω}
    (comes : course.Comes count index completed scene) (sound : course.first.Sound) :
    ∃ before cursor, course.Reaches count ⟨.seeking index completed,
      ⟨course.first.script, course.first.registry, scene, cursor, none⟩, before⟩ := by
  obtain ⟨middle, before, ⟨rounds, coming⟩, rfl⟩ := comes
  obtain ⟨_, of_script, of_registry⟩ := state_steady sound count
  have accounted := Tick.rounds_preserves Tick.round_accounted rounds
    ((course.state count).entry_accounted course.host (course.reading count))
  rw [coming] at accounted
  obtain ⟨same_script, same_registry, empty, _⟩ := accounted
  obtain ⟨script, registry, scene, cursor, inFlight⟩ := middle
  obtain rfl : script = course.first.script := same_script.trans of_script
  obtain rfl : registry = course.first.registry := same_registry.trans of_registry
  cases empty
  exact ⟨before, cursor, rounds, coming⟩

/-- The start of a command: the step goes on and resumes it, unless it has completed another
before. -/
theorem Comes.starts {count index : Nat} {completed : Bool} {scene after : Scene ω}
    {command : Command} {suspension : σ} (comes : course.Comes count index completed scene)
    (sound : course.first.Sound) (runs : course.Runs count)
    (found : course.first.script.get? index = some command)
    (begun : (course.setting count).begin command scene = (.ok (some suspension), after)) :
    let interp : Interpreter η σ ω := ⟨course.first.script, course.first.registry,
      after.note (.started index command.name), some index, some ⟨suspension, command.binding⟩⟩
    course.Runs (count + completed.toNat) ∧ course.Resumes (count + completed.toNat) interp := by
  intro interp
  obtain ⟨before, cursor, reaches⟩ := comes.middle sound
  have starting := reaches.next
  rw [Tick.next_started ⟨_, _, scene, cursor, none⟩ found begun] at starting
  cases completed with
  | false => exact ⟨runs, _, starting⟩
  | true =>
    obtain ⟨answered, next⟩ := runs.ended sound starting
    have here : interp.isFinished = false := Interpreter.unfinished_at rfl found
    have unfinished : (course.state (count + 1)).isFinished = false := next ▸ here
    exact ⟨runs.next answered unfinished, resumes_of_state next rfl⟩

theorem Resumes.comes {count index : Nat} {interp : Interpreter η σ ω} {flight : InFlight σ}
    {value : Value} {suspension : σ} {scene : Scene ω} (resumes : course.Resumes count interp)
    (here : interp.cursor = some index) (slot : interp.inFlight = some flight)
    (done : (interp.setting course.host (course.reading count)).resume flight.suspension
      interp.scene = (.ok (.done value), suspension, scene)) :
    course.Comes count (index + 1) true
      ((scene.note (.completed index value)).bind? flight.binding value) := by
  obtain ⟨before, reaches⟩ := resumes
  have resuming := reaches.next
  rw [Tick.next_done interp here slot done] at resuming
  exact ⟨_, _, resuming, rfl⟩

/-- The last completion finishes the script. -/
theorem Comes.finishes {count index : Nat} {scene : Scene ω}
    (comes : course.Comes count index true scene) (sound : course.first.Sound)
    (runs : course.Runs count) (last : index = course.first.script.size) :
    course.answer count = .ok .completed ∧ (course.state (count + 1)).isFinished = true := by
  obtain ⟨before, cursor, reaches⟩ := comes.middle sound
  have beyond : course.first.script.get? index = none :=
    List.getElem?_eq_none (Nat.le_of_eq last.symm)
  have ending := reaches.next
  rw [Tick.next_exhausted ⟨_, _, scene, cursor, none⟩ beyond] at ending
  obtain ⟨answered, next⟩ := runs.ended sound ending
  refine ⟨answered, ?_⟩
  rw [next]
  exact Interpreter.finished_iff.mpr ⟨index, rfl, Nat.le_of_eq last.symm⟩

end Trajectory

section Waiting

variable {course : Course (Builtin ⊕ η) (Builtin.Task ⊕ σ) ω} {host : Host η σ ω}

/-- The steps before the deadline of a `wait` change nothing. -/
theorem Resumes.lasts (hosted : course.host = host.withBuiltins) (sound : course.first.Sound)
    {first last index : Nat} {interp : Interpreter (Builtin ⊕ η) (Builtin.Task ⊕ σ) ω}
    {command : Command} {deadline : Time} (resumes : course.Resumes first interp)
    (runs : course.Runs first) (waits : interp.Waits index command deadline) (within : first ≤ last)
    (early : ∀ count, first ≤ count → count < last → course.reading count < deadline) :
    course.Runs last ∧ course.Resumes last interp := by
  induction last, within using Nat.le_induction with
  | base => exact ⟨runs, resumes⟩
  | succ count within ih =>
    obtain ⟨runs, before, reaches⟩ := ih fun other from_first less =>
      early other from_first (Nat.lt_succ_of_lt less)
    have resuming := reaches.next
    rw [hosted, waits.next_early (early count within (Nat.lt_succ_self count))] at resuming
    obtain ⟨answered, next⟩ := runs.ended sound resuming
    have unfinished : (course.state (count + 1)).isFinished = false := next ▸ waits.unfinished
    obtain ⟨_, armed⟩ := waits.armed
    exact ⟨runs.next answered unfinished, resumes_of_state next armed⟩

/-- The step at the deadline of a `wait` or after it completes the `wait`. -/
theorem Resumes.due (hosted : course.host = host.withBuiltins) {count index : Nat}
    {interp : Interpreter (Builtin ⊕ η) (Builtin.Task ⊕ σ) ω} {command : Command} {deadline : Time}
    (resumes : course.Resumes count interp) (waits : interp.Waits index command deadline)
    (due : deadline ≤ course.reading count) :
    ∃ scene, course.Comes count (index + 1) true scene := by
  obtain ⟨before, reaches⟩ := resumes
  have resuming := reaches.next
  rw [hosted, waits.next_due due] at resuming
  exact ⟨_, _, _, resuming, rfl⟩

/-- What becomes of a command that the step after a number of steps comes to, and how long it takes:
it is a `wait` for a span, or it is done when it is resumed for the first time. It is resumed in the
same step, or in the next one if this step has completed another command before. -/
inductive Takes (course : Course (Builtin ⊕ η) (Builtin.Task ⊕ σ) ω) (count index : Nat)
    (completed : Bool) (command : Command) (scene : Scene ω) : Time → Prop
  | waiting {invocation ms after}
      (known : course.first.registry.resolve command.name = .ok (.inl .wait))
      (prepared : (course.setting count).prepare command scene = (.ok (some invocation), after))
      (asks : Builtin.asked invocation = .ok ms) :
      Takes course count index completed command scene (Builtin.nanos ms)
  | single {suspension after value left last}
      (begun : (course.setting count).begin command scene = (.ok (some suspension), after))
      (done : (course.setting (count + completed.toNat)).resume suspension
        (after.note (.started index command.name)) = (.ok (.done value), left, last)) :
      Takes course count index completed command scene 0

theorem setting_eq (hosted : course.host = host.withBuiltins) (count : Nat) :
    course.setting count = ⟨host.withBuiltins, course.first.registry, course.reading count⟩ := by
  rw [setting, Interpreter.setting, hosted]

theorem reading_le_iff (spaced : 0 < course.config.tickInterval) (count steps : Nat) (span : Time) :
    course.reading count + span ≤ course.reading (count + steps) ↔
      span ⌈/⌉ course.config.tickInterval ≤ steps := by
  rw [ceilDiv_le_iff_le_mul spaced, reading, reading, Nat.add_mul, Nat.mul_comm steps]
  unfold Time at *
  omega

/-- A command that takes a span is completed by the first step at which this has passed, but not by
the step that has started it after another one. -/
theorem Comes.takes (hosted : course.host = host.withBuiltins) (sound : course.first.Sound)
    (spaced : 0 < course.config.tickInterval) {count index : Nat} {completed : Bool}
    {scene : Scene ω} {command : Command} {span : Time}
    (comes : course.Comes count index completed scene) (runs : course.Runs count)
    (found : course.first.script.get? index = some command)
    (takes : course.Takes count index completed command scene span) :
    let last : Nat := count + max completed.toNat (span ⌈/⌉ course.config.tickInterval)
    course.reading last < Time.bound →
      course.Runs last ∧ ∃ scene, course.Comes last (index + 1) true scene := by
  intro last within
  cases takes with
  | @single suspension after value left final begun done =>
    have at_once : last = count + completed.toNat := by
      simp only [last, zero_ceilDiv, Nat.max_zero]
    obtain ⟨runs, resumes⟩ := comes.starts sound runs found begun
    rw [at_once]
    exact ⟨runs, _, resumes.comes rfl rfl done⟩
  | @waiting invocation ms after known prepared asks =>
    let deadline := course.reading count + Builtin.nanos ms
    let interp : Interpreter (Builtin ⊕ η) (Builtin.Task ⊕ σ) ω :=
      ⟨course.first.script, course.first.registry, after.note (.started index command.name),
        some index,
        some ⟨.inl (.waiting ⟨Builtin.nanos ms, deadline, false, false⟩), command.binding⟩⟩
    have due : deadline ≤ course.reading last :=
      (reading_le_iff spaced count _ _).mpr (Nat.le_max_right _ _)
    have early (other : Nat) (from_first : count + completed.toNat ≤ other) (less : other < last) :
        course.reading other < deadline := by
      obtain ⟨steps, rfl⟩ := Nat.exists_eq_add_of_le (Nat.le_of_add_right_le from_first)
      rcases lt_max_iff.mp (Nat.lt_of_add_lt_add_left less) with before | short
      · exact absurd (Nat.le_of_add_le_add_left from_first) (Nat.not_le.mpr before)
      · refine Nat.not_le.mp fun reached => ?_
        exact absurd ((reading_le_iff spaced count steps _).mp reached) (Nat.not_le.mpr short)
    rw [setting_eq hosted] at prepared
    have begun := Setting.begin_asked known prepared asks (Nat.lt_of_le_of_lt due within)
    rw [← setting_eq hosted] at begun
    obtain ⟨runs, resumes⟩ := comes.starts sound runs found begun
    have waits : interp.Waits index command deadline := ⟨rfl, found, _, rfl⟩
    obtain ⟨runs, resumes⟩ := resumes.lasts hosted sound runs waits
      (Nat.add_le_add_left (Nat.le_max_left _ _) count) early
    exact ⟨runs, resumes.due hosted waits due⟩

/-- The number of steps before the one that completes the command at an index, for commands that
take these spans. -/
def completing (interval : Time) (span : Nat → Time) : Nat → Nat
  | 0 => span 0 ⌈/⌉ interval
  | index + 1 => completing interval span index + max 1 (span (index + 1) ⌈/⌉ interval)

theorem completing_eq (interval : Time) (span : Nat → Time) (index : Nat) :
    completing interval span index = span 0 ⌈/⌉ interval +
      ∑ i ∈ Finset.range index, max 1 (span (i + 1) ⌈/⌉ interval) := by
  induction index with
  | zero => rfl
  | succ index ih => rw [completing, ih, Finset.sum_range_succ, Nat.add_assoc]

theorem completing_le {interval : Time} {span : Nat → Time} {index later : Nat}
    (le : index ≤ later) : completing interval span index ≤ completing interval span later := by
  induction later, le using Nat.le_induction with
  | base => exact Nat.le_refl _
  | succ later le ih => exact Nat.le_trans ih (Nat.le_add_right _ _)

/-- The commands of a script that takes up nothing but time are completed one after another by these
steps. -/
theorem completes (hosted : course.host = host.withBuiltins) (sound : course.first.Sound)
    (spaced : 0 < course.config.tickInterval) {span : Nat → Time}
    (opens : course.Comes 0 0 false course.first.scene) (runs : course.Runs 0)
    (takes : ∀ count index command completed scene,
      course.first.script.get? index = some command → course.Comes count index completed scene →
      course.Takes count index completed command scene (span index))
    {index : Nat} (inside : index < course.first.script.size)
    (within : course.reading (completing course.config.tickInterval span index) < Time.bound) :
    let last := completing course.config.tickInterval span index
    course.Runs last ∧ ∃ scene, course.Comes last (index + 1) true scene := by
  induction index with
  | zero =>
    have found : course.first.script.get? 0 = some course.first.script.commands[0] :=
      List.getElem?_eq_getElem inside
    have same : 0 + max false.toNat (span 0 ⌈/⌉ course.config.tickInterval) =
        completing course.config.tickInterval span 0 := by
      rw [Nat.zero_add]
      exact Nat.zero_max _
    have first := opens.takes hosted sound spaced runs found (takes _ _ _ _ _ found opens)
    rw [same] at first
    exact first within
  | succ index ih =>
    have found : course.first.script.get? (index + 1) =
        some course.first.script.commands[index + 1] := List.getElem?_eq_getElem inside
    have earlier : course.reading (completing course.config.tickInterval span index) <
        Time.bound := by
      refine Nat.lt_of_le_of_lt ?_ within
      exact Nat.add_le_add_left (Nat.mul_le_mul_right _ (completing_le (Nat.le_succ index))) _
    obtain ⟨runs, scene, comes⟩ := ih (Nat.lt_of_succ_lt inside) earlier
    exact comes.takes hosted sound spaced runs found (takes _ _ _ _ _ found comes) within

end Waiting

section Ending

variable {course : Course η σ ω}

/-- A run without a limit ends with the script, if no step before has an error. -/
theorem Follows.finished {fuel total : Nat} {outcome : Option Outcome} {run : Run η σ ω}
    (follows : course.Follows fuel outcome run) (unlimited : course.config.maxTicks = 0)
    (runs : ∀ earlier < total, (course.state earlier).isFinished = false ∧
      ∃ result, course.answer earlier = .ok result)
    (finished : (course.state total).isFinished = true) (enough : total < fuel) :
    outcome = some (.ended ⟨total, true, 0, (course.state total).scene.names⟩) := by
  have halts : course.Halts total := .inl finished
  have passes : course.Passes total := by
    intro earlier before
    obtain ⟨unfinished, result, answered⟩ := runs earlier before
    rw [answered]
    refine ⟨?_, id⟩
    rintro (done | ⟨limited, _⟩)
    · rw [unfinished] at done
      contradiction
    · exact limited unlimited
  have faultless : course.failures total = 0 := by
    apply List.countP_eq_zero.mpr
    intro earlier member
    obtain ⟨_, result, answered⟩ := runs earlier (List.mem_range.mp member)
    rw [answered]
    exact Bool.false_ne_true
  obtain ⟨_, _, ended⟩ := follows
  cases outcome with
  | none => exact absurd (ended.2.of_le enough) halts.not_passes
  | some outcome =>
    obtain ⟨_, ends⟩ := ended
    generalize run.ticks = ticks at ends
    have settled {count : Nat} (beyond : course.Passes count) (stuck : ¬course.Passes (count + 1)) :
        count = total := by
      rcases Nat.lt_trichotomy count total with less | same | more
      · exact absurd (passes.of_le less) stuck
      · exact same
      · exact absurd (beyond.of_le more) halts.not_passes
    cases ends with
    | ended beyond stop =>
      obtain rfl := settled beyond stop.not_passes
      rw [finished, faultless]
    | aborted beyond due failed strict =>
      have fatal : ¬course.Passes _ := Fatal.not_passes (by rw [failed]; exact strict)
      obtain rfl := settled beyond fatal
      exact absurd halts due
    | brokeDown beyond due broke =>
      have fatal : ¬course.Passes _ := Fatal.not_passes (by rw [broke]; trivial)
      obtain rfl := settled beyond fatal
      exact absurd halts due

end Ending

end Runner.Course

namespace Runner

/-- A run of a script of waits and commands that are done when they are first resumed takes one tick
and as many more as the spans of all commands come to, each rounded up to whole intervals by itself,
where no command but the first takes less than one. The clock has to be able to tell the time of the
last tick. -/
theorem run_timetable {host : Host η σ ω} {script : Script} {extra : Registry (Builtin ⊕ η)}
    {world : ω} {config : RunnerConfig} {start : Time} {schedule : Schedule} {span : Nat → Time}
    (filled : 0 < script.size) (spaced : 0 < config.tickIntervalMs)
    (punctual : ∀ count, schedule count = start + count * config.tickInterval)
    (unlimited : config.maxTicks = 0)
    (takes : ∀ count index command completed scene, script.get? index = some command →
      Course.Comes ⟨host.withBuiltins, config, start, .create script extra world⟩ count index
        completed scene →
      Course.Takes ⟨host.withBuiltins, config, start, .create script extra world⟩ count index
        completed command scene (span index)) :
    let interval := config.tickInterval
    let ticks : Nat := 1 + span 0 ⌈/⌉ interval +
      ∑ i ∈ Finset.range (script.size - 1), max 1 (span (i + 1) ⌈/⌉ interval)
    start + (ticks - 1) * interval < Time.bound →
      ∀ fuel, ticks < fuel → ∃ names,
        (run host.withBuiltins config schedule fuel (.create script extra world)).1 =
          some (.ended ⟨ticks, true, 0, names⟩) := by
  intro interval ticks within fuel enough
  let course : Course (Builtin ⊕ η) (Builtin.Task ⊕ σ) ω :=
    ⟨host.withBuiltins, config, start, .create script extra world⟩
  have sound : course.first.Sound := Interpreter.sound_fresh _ _ _
  have spaced_nanos : 0 < course.config.tickInterval := Nat.mul_pos spaced (by decide)
  have opens : course.Comes 0 0 false course.first.scene := ⟨_, _, ⟨0, rfl⟩, rfl⟩
  have runs : course.Runs 0 := ⟨rfl, fun _ before => absurd before (Nat.not_lt_zero _)⟩
  have total : ticks = Course.completing interval span (script.size - 1) + 1 := by
    rw [Course.completing_eq, Nat.add_comm, ← Nat.add_assoc]
  have by_then : course.reading (Course.completing interval span (script.size - 1)) <
      Time.bound := by
    rw [total, Nat.add_sub_cancel] at within
    exact within
  obtain ⟨runs, scene, comes⟩ := Course.completes rfl sound spaced_nanos opens runs takes
    (Nat.sub_one_lt_of_lt filled) by_then
  obtain ⟨answered, finished⟩ := comes.finishes sound runs (Nat.sub_add_cancel filled)
  have follows := course.run_follows spaced punctual sound fuel
  rw [total] at enough ⊢
  exact ⟨_, follows.finished unlimited (runs.with_next answered) finished enough⟩

/-- Waits of 120 and of no milliseconds and a line to print, at twenty ticks a second: three ticks
until the first is over, and one for each of the others. -/
theorem run_timetable_rounding :
    let script : Script := ⟨[.positional "wait" [.lit (.int 120)],
      .positional "wait" [.lit (.int 0)], .positional "print" [.lit (.str "done")]]⟩
    let config : RunnerConfig := { tickIntervalMs := 50 }
    let schedule : Schedule := fun count => count * .ofMillis 50
    ∀ fuel, 6 < fuel → ∃ names,
      (run (Host.none.withBuiltins : Host (Builtin ⊕ Empty) (Builtin.Task ⊕ Empty) Unit) config
        schedule fuel (.create script Table.empty ())).1 = some (.ended ⟨6, true, 0, names⟩) := by
  intro script config schedule
  let span (index : Nat) : Time := if index = 0 then .ofMillis 120 else .ofMillis 0
  have known : Registry.resolve (Registry.builtins.merge (Table.empty : Registry (Builtin ⊕ Empty)))
      "wait" = .ok (.inl .wait) := rfl
  have waits {m : Int64} {ms : Nat} (whole : m.toInt = ms) (short : ms ≤ 576460752303)
      (count index : Nat) (completed : Bool) (scene : Scene Unit) :
      Course.Takes ⟨Host.none.withBuiltins, config, 0, .create script Table.empty ()⟩ count index
        completed (.positional "wait" [.lit (.int m)]) scene (.ofMillis ms) := by
    rw [← Builtin.nanos_short short]
    exact .waiting known rfl (Builtin.asked_natural "wait" .empty whole)
  have six : 1 + span 0 ⌈/⌉ config.tickInterval + ∑ i ∈ Finset.range (script.size - 1),
      max 1 (span (i + 1) ⌈/⌉ config.tickInterval) = 6 := by decide +kernel
  have within : 0 + (6 - 1) * config.tickInterval < Time.bound := by decide
  have punctual (count : Nat) : schedule count = 0 + count * config.tickInterval :=
    (Nat.zero_add _).symm
  have timed := @run_timetable Empty Empty Unit Host.none script Table.empty () config 0 schedule
    span (by decide) (by decide) punctual rfl
  dsimp only at timed
  rw [six] at timed
  refine timed ?_ within
  intro count index command completed scene found _
  match index with
  | 0 =>
    cases found
    exact waits (by decide) (by decide) count 0 completed scene
  | 1 =>
    cases found
    exact waits (by decide) (by decide) count 1 completed scene
  | 2 =>
    cases found
    exact .single rfl rfl
  | _ + 3 => cases found

end Runner
end TickScript
