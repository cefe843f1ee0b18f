import TickScript.Host
import TickScript.Timer
import TickScript.Value.Printer

/-! The command that lasts: `wait` is done at the first resume at which the
given number of milliseconds has passed since it was started. -/
namespace TickScript.Builtin

/-- The error of an amount that is no number of milliseconds. -/
def badAmount (command : String) (amount : Value) : ScriptError :=
  .wrongType command
    ("expected a non-negative number of milliseconds, got " ++ amount.shown)

/-- A finite number that is not below zero; negative zero is not. -/
def millis? (amount : Value) : Option Binary64 :=
  amount.number?.filter fun ms => ms.isFinite && (!ms.negative || ms.isZero)

/-- Milliseconds as nanoseconds: the product is rounded to an integer, a half away from zero, and
what does not fit 64 bits becomes the largest that does. -/
def nanos (ms : Binary64) : Time :=
  min (ms.mul (.ofNat 1000000)).roundedMagnitude (UInt64.size - 1)

/-- The number of milliseconds that a `wait` is asked for. -/
def asked (call : Invocation) : Except ScriptError Binary64 :=
  match call.args with
  | [amount] =>
    match millis? amount with
    | none => .error (badAmount call.name amount)
    | some ms => .ok ms
  | args => .error (.wrongCount call.name "1" args.length)

/-- A timer for a span of time from a reading of the clock on. -/
def countDown (duration now : Time) : Except Fault Timer :=
  match Timer.start? duration now false with
  | some timer => .ok timer
  | none => .error (.breakdown .timeOverflow)

/-- The timer of a `wait` that is started at a reading of the clock. -/
def startWait (call : Invocation) (now : Time) : Except Fault Timer :=
  match asked call with
  | .error error => .error (.script error)
  | .ok ms => countDown (nanos ms) now

theorem asked_argument {call : Invocation} {error : ScriptError}
    (refused : asked call = .error error) :
    ∃ fault message, error = .argument call.name fault message := by
  unfold asked at refused
  split at refused
  · split at refused
    · cases refused
      exact ⟨_, _, rfl⟩
    · contradiction
  · cases refused
    exact ⟨_, _, rfl⟩

theorem countDown_ne_script (duration now : Time) (error : ScriptError) :
    countDown duration now ≠ .error (.script error) := by
  unfold countDown
  cases Timer.start? duration now false <;> simp

/-- A `wait` that is not started refuses its arguments, if this is no breakdown. -/
theorem startWait_argument {call : Invocation} {now : Time} {error : ScriptError}
    (failed : startWait call now = .error (.script error)) :
    ∃ fault message, error = .argument call.name fault message := by
  unfold startWait at failed
  cases given : asked call with
  | error reason =>
    rw [given] at failed
    cases failed
    exact asked_argument given
  | ok ms =>
    rw [given] at failed
    exact absurd failed (countDown_ne_script _ now error)

/-- A countdown starts unless its deadline lies beyond the last time. -/
theorem countDown_ok_iff {duration now : Time} {timer : Timer} :
    countDown duration now = .ok timer ↔
      now + duration < Time.bound ∧ timer = ⟨duration, now + duration, false, false⟩ := by
  unfold countDown Timer.start? Time.add?
  by_cases within : now + duration < Time.bound
  · simp [within, eq_comm]
  · simp [within]

theorem countDown_breakdown_iff {duration now : Time} {cause : Breakdown} :
    countDown duration now = .error (.breakdown cause) ↔
      Time.bound ≤ now + duration ∧ cause = .timeOverflow := by
  unfold countDown Timer.start? Time.add?
  by_cases within : now + duration < Time.bound
  · simp [within, Nat.not_le.mpr within]
  · simp [within, Nat.not_lt.mp within, eq_comm]

theorem startWait_ok_iff {call : Invocation} {now : Time} {timer : Timer} :
    startWait call now = .ok timer ↔ ∃ ms, asked call = .ok ms ∧
      now + nanos ms < Time.bound ∧ timer = ⟨nanos ms, now + nanos ms, false, false⟩ := by
  unfold startWait
  cases asked call with
  | error reason => simp
  | ok ms => simp only [countDown_ok_iff, Except.ok.injEq, exists_eq_left']

/-- The one way in which a `wait` breaks down. -/
theorem startWait_breakdown_iff {call : Invocation} {now : Time} {cause : Breakdown} :
    startWait call now = .error (.breakdown cause) ↔ ∃ ms, asked call = .ok ms ∧
      Time.bound ≤ now + nanos ms ∧ cause = .timeOverflow := by
  unfold startWait
  cases asked call with
  | error reason => simp
  | ok ms => simp only [countDown_breakdown_iff, Except.ok.injEq, exists_eq_left']

theorem nanos_lt (ms : Binary64) : nanos ms < UInt64.size :=
  Nat.lt_of_le_of_lt (Nat.min_le_right _ _) (by decide)

/-- Resumes a wait: done with `true` when its timer fires. -/
def resumeWait (timer : Timer) (now : Time) : Except Fault Resume × Timer :=
  match timer.update? now with
  | some (true, timer) => (.ok (.done (.bool true)), timer)
  | some (false, timer) => (.ok .unfinished, timer)
  | none => (.error (.breakdown .timeOverflow), timer)

/-- A timer that does not repeat fires at the first reading at or after its deadline, once. -/
theorem resumeWait_eq {timer : Timer} (once : timer.repeats = false) (now : Time) :
    resumeWait timer now =
      if timer.fired ∨ now < timer.deadline then (.ok .unfinished, timer)
      else (.ok (.done (.bool true)), { timer with fired := true }) := by
  unfold resumeWait
  by_cases quiet : timer.fired ∨ now < timer.deadline
  · rw [if_pos quiet, Timer.update?_quiet quiet]
  · obtain ⟨unfired, reached⟩ := not_or.mp quiet
    rw [if_neg quiet, Timer.update?_due (Bool.eq_false_iff.mpr unfired) (Nat.not_lt.mp reached),
      once]
    rfl

end TickScript.Builtin
