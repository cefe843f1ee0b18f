import TickScript.Time

/-! Timers that count down against readings of a host's clock. A timer fires
once when its deadline is reached; a repeating one is armed again from the
reading at which it fired. -/
namespace TickScript

structure Timer where
  duration : Time
  deadline : Time
  repeats : Bool
  fired : Bool
  deriving DecidableEq, Repr

namespace Timer

/-- A timer that starts at a reading, if its deadline is a time. -/
def start? (duration now : Time) (repeats : Bool) : Option Timer :=
  (now.add? duration).map fun deadline => ⟨duration, deadline, repeats, false⟩

/-- The time until the deadline, zero once it is reached. -/
def left (timer : Timer) (now : Time) : Time := timer.deadline - now

def isDone (timer : Timer) (now : Time) : Bool := timer.left now == 0

/-- Starts the countdown again at a reading, if the new deadline is a time. -/
def reset? (timer : Timer) (now : Time) : Option Timer :=
  (now.add? timer.duration).map fun deadline => { timer with deadline, fired := false }

/-- Moves the deadline to a reading. -/
def finish (timer : Timer) (now : Time) : Timer := { timer with deadline := now }

/-- Whether the timer fires at a reading, and the timer afterwards; no answer if a repeating timer
cannot be armed again. -/
def update? (timer : Timer) (now : Time) : Option (Bool × Timer) :=
  if timer.fired || !timer.isDone now then some (false, timer)
  else if timer.repeats then (timer.reset? now).map (true, ·)
  else some (true, { timer with fired := true })

theorem isDone_iff {timer : Timer} {now : Time} :
    timer.isDone now = true ↔ timer.deadline ≤ now := by
  rw [isDone, beq_iff_eq]
  exact Nat.sub_eq_zero_iff_le

/-- A timer that has fired or is not due stays as it is. -/
theorem update?_quiet {timer : Timer} {now : Time} (quiet : timer.fired ∨ now < timer.deadline) :
    timer.update? now = some (false, timer) := by
  apply if_pos
  rcases quiet with fired | early
  · simp [fired]
  · have undone : timer.isDone now = false :=
      Bool.eq_false_iff.mpr fun done => Nat.not_le.mpr early (isDone_iff.mp done)
    simp [undone]

theorem update?_due {timer : Timer} {now : Time} (unfired : timer.fired = false)
    (due : timer.deadline ≤ now) :
    timer.update? now = if timer.repeats then (timer.reset? now).map (true, ·)
      else some (true, { timer with fired := true }) := by
  apply if_neg
  simp [unfired, isDone_iff.mpr due]

end Timer
end TickScript
