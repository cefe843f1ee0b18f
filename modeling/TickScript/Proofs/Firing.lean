import TickScript.Timer
import Mathlib.Data.List.Basic

/-! When timers fire. A timer may be updated, reset and finished at any readings of the clock, which
need not grow. What it does from then on depends on its deadline and on whether it is spent: one
that fires once is spent by that, a repeating one never is, and gets its next deadline from the
reading at which it fires. A repeating timer that fires too late to be armed again breaks down
instead and stays as it is. -/
namespace TickScript.Timer

inductive Use
  | update (now : Time)
  | reset (now : Time)
  | finish (now : Time)

/-- The timer after a use. A use that breaks down leaves it as it is. -/
def use (timer : Timer) : Use → Timer
  | .update now => ((timer.update? now).map Prod.snd).getD timer
  | .reset now => (timer.reset? now).getD timer
  | .finish now => timer.finish now

def after (timer : Timer) : List Use → Timer
  | [] => timer
  | use :: rest => (timer.use use).after rest

def updated (timer : Timer) (readings : List Time) : Timer := timer.after (readings.map .update)

def fires? (timer : Timer) (now : Time) : Option Bool := (timer.update? now).map Prod.fst

/-- The readings at which the timer fires, of those at which it is updated one after the other. -/
def firings (timer : Timer) : List Time → List Time
  | [] => []
  | now :: rest =>
    let later := (timer.use (.update now)).firings rest
    if timer.fires? now = some true then now :: later else later

/-- The timer fires at the first reading from its deadline on, at which it is updated, and never
again. -/
def FiresOnce (timer : Timer) (deadline : Time) : Prop :=
  ∀ before now, (timer.updated before).fires? now =
    some (decide (deadline ≤ now ∧ ∀ earlier ∈ before, earlier < deadline))

/-- The timer fires at the readings that are a period or more after the last one at which it has
fired, or after its start. It breaks down where the period after such a reading has no end. -/
structure FiresAgain (timer : Timer) (start period : Time) : Prop where
  answer : ∀ before now,
    let last := (timer.firings before).getLast?.getD start
    (timer.updated before).fires? now =
      if now < last + period then some false
      else if now + period < Time.bound then some true else none
  apart : ∀ readings, (start :: timer.firings readings).Pairwise
    fun earlier later => earlier + period ≤ later
  again : ∀ before, ∃ moment, ∀ now, moment ≤ now → now + period < Time.bound →
    (timer.updated before).fires? now = some true

/-- The timer fires at the first reading from a moment on, at which it is updated, unless it is to
be armed again and cannot be. -/
def FiresNext (timer : Timer) (moment : Time) : Prop :=
  ∀ before now, (∀ earlier ∈ before, earlier < moment) → (timer.updated before).fires? now =
    if now < moment then some false
    else if timer.repeats ∧ Time.bound ≤ now + timer.duration then none else some true

variable {timer : Timer} {now start period : Time}

theorem reset?_eq (timer : Timer) (now : Time) :
    timer.reset? now = start? timer.duration now timer.repeats := rfl

theorem reset?_eq_some {later : Timer} : timer.reset? now = some later ↔
    now + timer.duration < Time.bound ∧
      later = { timer with deadline := now + timer.duration, fired := false } := by
  unfold reset? Time.add?
  by_cases within : now + timer.duration < Time.bound
  · simp [within, eq_comm]
  · simp [within]

/-- All that an update can do: nothing, or fire, after which the timer is spent or armed again. -/
theorem update?_cases {answer : Bool} {later : Timer}
    (updated : timer.update? now = some (answer, later)) :
    (answer = false ∧ later = timer) ∨
      (answer = true ∧ timer.repeats = false ∧ later = { timer with fired := true }) ∨
      (answer = true ∧ timer.repeats = true ∧ timer.reset? now = some later) := by
  by_cases quiet : timer.fired ∨ now < timer.deadline
  · rw [update?_quiet quiet] at updated
    cases updated
    exact .inl ⟨rfl, rfl⟩
  · obtain ⟨unfired, due⟩ := not_or.mp quiet
    rw [update?_due (Bool.eq_false_iff.mpr unfired) (Nat.not_lt.mp due)] at updated
    cases repeats : timer.repeats with
    | false =>
      rw [repeats] at updated
      cases updated
      exact .inr (.inl ⟨rfl, rfl, rfl⟩)
    | true =>
      rw [repeats, if_pos rfl] at updated
      obtain ⟨armed, reset, same⟩ := Option.map_eq_some_iff.mp updated
      cases same
      exact .inr (.inr ⟨rfl, rfl, reset⟩)

theorem fires?_eq (timer : Timer) (now : Time) :
    timer.fires? now =
      if timer.fired ∨ now < timer.deadline then some false
      else if timer.repeats ∧ Time.bound ≤ now + timer.duration then none else some true := by
  by_cases quiet : timer.fired ∨ now < timer.deadline
  · rw [if_pos quiet, fires?, update?_quiet quiet]
    rfl
  · obtain ⟨unfired, due⟩ := not_or.mp quiet
    rw [if_neg quiet, fires?, update?_due (Bool.eq_false_iff.mpr unfired) (Nat.not_lt.mp due)]
    cases timer.repeats with
    | false => simp
    | true =>
      by_cases late : Time.bound ≤ now + timer.duration
      · have beyond : ¬now + timer.duration < Time.bound := Nat.not_lt.mpr late
        simp [late, reset?, Time.add?, beyond]
      · have within : now + timer.duration < Time.bound := Nat.not_le.mp late
        simp [late, reset?, Time.add?, within]

section Uses

/-- No use touches the duration of a timer or makes it another kind of timer, and a repeating timer
is never spent. -/
structure Steady (timer later : Timer) : Prop where
  duration : later.duration = timer.duration
  repeats : later.repeats = timer.repeats
  unspent : timer.repeats = true → timer.fired = false → later.fired = false

theorem Steady.refl (timer : Timer) : timer.Steady timer := ⟨rfl, rfl, fun _ same => same⟩

theorem Steady.trans {middle later : Timer} (first : timer.Steady middle)
    (second : middle.Steady later) : timer.Steady later where
  duration := second.duration.trans first.duration
  repeats := second.repeats.trans first.repeats
  unspent repeats unfired := second.unspent (first.repeats.trans repeats)
    (first.unspent repeats unfired)

theorem reset?_steady {later : Timer} (reset : timer.reset? now = some later) :
    timer.Steady later := by
  obtain ⟨-, rfl⟩ := reset?_eq_some.mp reset
  exact ⟨rfl, rfl, fun _ _ => rfl⟩

theorem update?_steady {answer : Bool} {later : Timer}
    (updated : timer.update? now = some (answer, later)) : timer.Steady later := by
  rcases update?_cases updated with ⟨-, rfl⟩ | ⟨-, once, rfl⟩ | ⟨-, -, reset⟩
  · exact .refl later
  · refine ⟨rfl, rfl, fun again => ?_⟩
    rw [once] at again
    contradiction
  · exact reset?_steady reset

theorem use_steady (timer : Timer) (use : Use) : timer.Steady (timer.use use) := by
  cases use with
  | update now =>
    rw [Timer.use]
    cases updated : timer.update? now with
    | none => exact .refl timer
    | some result => exact update?_steady updated
  | reset now =>
    rw [Timer.use]
    cases reset : timer.reset? now with
    | none => exact .refl timer
    | some later => exact reset?_steady reset
  | finish now => exact ⟨rfl, rfl, fun _ unfired => unfired⟩

theorem after_steady (timer : Timer) (uses : List Use) : timer.Steady (timer.after uses) := by
  induction uses generalizing timer with
  | nil => exact .refl timer
  | cons use rest ih => exact (use_steady timer use).trans (ih _)

end Uses

section Updates

theorem use_quiet (quiet : timer.fired ∨ now < timer.deadline) :
    timer.use (.update now) = timer := by
  rw [use, update?_quiet quiet]
  rfl

@[simp] theorem updated_nil (timer : Timer) : timer.updated [] = timer := rfl

@[simp] theorem updated_cons (timer : Timer) (now : Time) (rest : List Time) :
    timer.updated (now :: rest) = (timer.use (.update now)).updated rest := rfl

theorem updated_quiet {readings : List Time} (early : ∀ now ∈ readings, now < timer.deadline) :
    timer.updated readings = timer := by
  induction readings with
  | nil => rfl
  | cons now rest ih =>
    obtain ⟨first, others⟩ := List.forall_mem_cons.mp early
    rw [updated_cons, use_quiet (.inr first)]
    exact ih others

/-- A timer that does not repeat is spent by the first update at its deadline or after it. -/
theorem updated_once (once : timer.repeats = false) (readings : List Time) :
    timer.updated readings =
      { timer with fired := timer.fired || readings.any fun now => timer.deadline ≤ now } := by
  induction readings generalizing timer with
  | nil => simp
  | cons now rest ih =>
    rw [updated_cons]
    by_cases quiet : timer.fired ∨ now < timer.deadline
    · have unchanged : (timer.fired || decide (timer.deadline ≤ now)) = timer.fired := by
        rcases quiet with fired | early
        · simp [fired]
        · simp [Nat.not_le.mpr early]
      rw [use_quiet quiet, List.any_cons, ← Bool.or_assoc, unchanged]
      exact ih once
    · obtain ⟨unfired, due⟩ := not_or.mp quiet
      have spent : timer.use (.update now) = { timer with fired := true } := by
        rw [use, update?_due (Bool.eq_false_iff.mpr unfired) (Nat.not_lt.mp due), once]
        rfl
      have following := ih (show Timer.repeats { timer with fired := true } = false from once)
      rw [spent, following]
      simp [Nat.not_lt.mp due]

theorem firesOnce (once : timer.repeats = false) (unfired : timer.fired = false) :
    timer.FiresOnce timer.deadline := by
  intro before now
  rw [updated_once once, fires?_eq]
  simp only [once, unfired, Bool.false_or, List.any_eq_true, decide_eq_true_eq, Bool.false_eq_true,
    false_and, if_false]
  by_cases spent : ∃ earlier ∈ before, timer.deadline ≤ earlier
  · have late : ¬∀ earlier ∈ before, earlier < timer.deadline := by
      intro early
      obtain ⟨earlier, member, due⟩ := spent
      exact Nat.not_lt.mpr due (early earlier member)
    simp [spent, late]
  · have early : ∀ earlier ∈ before, earlier < timer.deadline := by
      intro earlier member
      exact Nat.not_le.mp fun due => spent ⟨earlier, member, due⟩
    by_cases due : timer.deadline ≤ now
    · simp only [spent, due, Nat.not_lt.mpr due, or_false, if_false, true_and]
      exact congrArg some (decide_eq_true early).symm
    · simp [spent, due, Nat.not_le.mp due]

def armed (period start : Time) : Timer := ⟨period, start + period, true, false⟩

theorem armed_fires? (period start now : Time) :
    (armed period start).fires? now =
      if now < start + period then some false
      else if now + period < Time.bound then some true else none := by
  rw [fires?_eq]
  by_cases late : Time.bound ≤ now + period
  · simp [armed, late, Nat.not_lt.mpr late]
  · simp [armed, late, Nat.not_le.mp late]

/-- A repeating timer is armed again where it fires. -/
theorem armed_use (period start now : Time) :
    (armed period start).use (.update now) =
      if (armed period start).fires? now = some true then armed period now
      else armed period start := by
  rw [armed_fires?]
  by_cases early : now < start + period
  · rw [use_quiet (.inr early)]
    simp [early]
  · have due : (armed period start).deadline ≤ now := Nat.not_lt.mp early
    rw [use, update?_due rfl due]
    by_cases within : now + period < Time.bound
    · simp [early, within, armed, reset?, Time.add?]
    · simp [early, within, armed, reset?, Time.add?]

theorem armed_firings_cons (period start now : Time) (rest : List Time) :
    (armed period start).firings (now :: rest) =
      if (armed period start).fires? now = some true then now :: (armed period now).firings rest
      else (armed period start).firings rest := by
  rw [firings, armed_use]
  split <;> rfl

/-- The last firing is all that a repeating timer knows of its past. -/
theorem armed_updated (period start : Time) (readings : List Time) :
    (armed period start).updated readings =
      armed period (((armed period start).firings readings).getLast?.getD start) := by
  induction readings generalizing start with
  | nil => rfl
  | cons now rest ih =>
    rw [updated_cons, armed_use, armed_firings_cons]
    by_cases fires : (armed period start).fires? now = some true
    · rw [if_pos fires, if_pos fires, List.getLast?_cons, Option.getD_some]
      exact ih now
    · rw [if_neg fires, if_neg fires]
      exact ih start

/-- By induction on the readings: where the timer fires it is armed again, and all that follows is
a period or more after that. -/
theorem armed_apart (period start : Time) (readings : List Time) :
    (start :: (armed period start).firings readings).Pairwise
      fun earlier later => earlier + period ≤ later := by
  induction readings generalizing start with
  | nil => exact List.pairwise_singleton _ _
  | cons now rest ih =>
    rw [armed_firings_cons]
    by_cases fires : (armed period start).fires? now = some true
    · have due : start + period ≤ now := by
        rw [armed_fires?] at fires
        by_contra early
        rw [if_pos (Nat.not_le.mp early)] at fires
        contradiction
      have following := ih now
      rw [if_pos fires]
      refine List.pairwise_cons.mpr ⟨?_, following⟩
      intro later member
      rcases List.mem_cons.mp member with rfl | member
      · exact due
      · have beyond : now + period ≤ later := (List.pairwise_cons.mp following).1 later member
        exact Nat.le_trans due (Nat.le_trans (Nat.le_add_right _ _) beyond)
    · rw [if_neg fires]
      exact ih start

theorem armed_firesAgain (period start : Time) : (armed period start).FiresAgain start period where
  answer before now := by
    rw [armed_updated]
    exact armed_fires? period _ now
  apart := armed_apart period start
  again before := by
    refine ⟨((armed period start).firings before).getLast?.getD start + period, ?_⟩
    intro now due within
    rw [armed_updated, armed_fires?, if_neg (Nat.not_lt.mpr due), if_pos within]

theorem finish_firesNext (unfired : timer.fired = false) (moment : Time) :
    (timer.finish moment).FiresNext moment := by
  intro before now early
  rw [updated_quiet early, fires?_eq]
  simp [finish, unfired]

end Updates

/-- Right after it has fired, a repeating timer is done only if its period is nothing. -/
theorem isDone_fired {later : Timer} (repeats : timer.repeats = true)
    (fired : timer.update? now = some (true, later)) :
    later.isDone now = true ↔ timer.duration = 0 := by
  rcases update?_cases fired with ⟨unfired, -⟩ | ⟨-, once, -⟩ | ⟨-, -, reset⟩
  · contradiction
  · rw [repeats] at once
    contradiction
  · obtain ⟨-, rfl⟩ := reset?_eq_some.mp reset
    have no_later (a b : Nat) : a + b ≤ a ↔ b = 0 := by omega
    rw [isDone_iff]
    exact no_later now timer.duration

/-- The update at which a timer is spent. -/
theorem spent_by_update (unfired : timer.fired = false) {uses : List Use}
    (spent : (timer.after uses).fired = true) : ∃ before now rest,
      uses = before ++ .update now :: rest ∧ (timer.after before).fires? now = some true := by
  induction uses generalizing timer with
  | nil =>
    rw [after, unfired] at spent
    contradiction
  | cons use rest ih =>
    cases fired : (timer.use use).fired with
    | false =>
      obtain ⟨before, now, others, same, fires⟩ := ih fired spent
      exact ⟨use :: before, now, others, congrArg (use :: ·) same, fires⟩
    | true =>
      refine ⟨[], ?_⟩
      cases use with
      | update now =>
        refine ⟨now, rest, rfl, ?_⟩
        rw [Timer.use] at fired
        rw [after, fires?]
        cases updated : timer.update? now with
        | none =>
          rw [updated] at fired
          exact absurd (unfired.symm.trans fired) Bool.false_ne_true
        | some result =>
          rw [updated] at fired
          rcases update?_cases updated with ⟨-, same⟩ | ⟨fires, -⟩ | ⟨fires, -⟩
          · have unchanged : timer.fired = true := same ▸ fired
            exact absurd (unfired.symm.trans unchanged) Bool.false_ne_true
          · exact congrArg some fires
          · exact congrArg some fires
      | reset now =>
        rw [Timer.use] at fired
        cases reset : timer.reset? now with
        | none =>
          rw [reset] at fired
          exact absurd (unfired.symm.trans fired) Bool.false_ne_true
        | some later =>
          obtain ⟨-, rfl⟩ := reset?_eq_some.mp reset
          rw [reset] at fired
          nomatch fired
      | finish now => exact absurd (unfired.symm.trans fired) Bool.false_ne_true

structure Governed (timer : Timer) (uses : List Use) (duration : Time) (repeats : Bool) : Prop where
  reset : ∀ moment, (timer.after uses).reset? moment = start? duration moment repeats
  finish : (timer.after uses).fired = false →
    ∀ moment, ((timer.after uses).finish moment).FiresNext moment
  /-- Only a timer that does not repeat is ever spent, and only by firing. -/
  spent : (timer.after uses).fired = true → repeats = false ∧ ∃ before now rest,
    uses = before ++ .update now :: rest ∧ (timer.after before).fires? now = some true
  done : repeats = true → ∀ moment next, (timer.after uses).update? moment = some (true, next) →
    (next.isDone moment = true ↔ duration = 0)

/-- A timer that is started fires as its kind says. Whatever has been done with it since: once it is
reset it is a timer that is started at that reading, once it is finished it fires next, if it is not
spent, and a repeating one is never spent. -/
theorem timer_lawful {duration now : Time} (repeats : Bool) (within : now + duration < Time.bound) :
    ∃ timer, start? duration now repeats = some timer ∧
      (repeats = false → timer.FiresOnce (now + duration)) ∧
      (repeats = true → timer.FiresAgain now duration) ∧
      ∀ uses, timer.Governed uses duration repeats := by
  let timer : Timer := ⟨duration, now + duration, repeats, false⟩
  have started : start? duration now repeats = some timer := by
    simp [start?, Time.add?, within, timer]
  refine ⟨timer, started, ?_, ?_, ?_⟩
  · intro once
    exact firesOnce once rfl
  · rintro rfl
    exact armed_firesAgain duration now
  · intro uses
    have steady : timer.Steady (timer.after uses) := after_steady timer uses
    constructor
    case reset =>
      intro moment
      rw [reset?_eq, steady.duration, steady.repeats]
    case finish => exact finish_firesNext
    case spent =>
      intro spent
      refine ⟨?_, spent_by_update rfl spent⟩
      cases repeats with
      | false => rfl
      | true => exact absurd ((steady.unspent rfl rfl).symm.trans spent) Bool.false_ne_true
    case done =>
      intro again moment next fired
      rw [isDone_fired (steady.repeats.trans again) fired, steady.duration]

/-- A repeating timer that is updated too early is not put off. Finished, it fires at once; reset, it
has all its time again. -/
theorem timer_lawful_repeating :
    ∃ timer, start? 100 0 true = some timer ∧
      timer.firings [120, 200] = [120] ∧
      (timer.updated [120, 200]).fires? 220 = some true ∧
      (timer.updated [120, 200]).reset? 50 = some ⟨100, 150, true, false⟩ ∧
      ((timer.updated [120]).finish 40).fires? 40 = some true := by
  obtain ⟨timer, started, -, again, governed⟩ :=
    timer_lawful true (by decide : 0 + 100 < Time.bound)
  have fired : timer.firings [120, 200] = [120] := by
    cases started
    decide +kernel
  have unspent : (timer.updated [120]).fired = false := by
    cases started
    decide +kernel
  refine ⟨timer, started, fired, ?_, (governed [.update 120, .update 200]).reset 50, ?_⟩
  · have answer := (again rfl).answer [120, 200] 220
    rw [fired] at answer
    exact answer
  · have next := (governed [.update 120]).finish unspent 40 [] 40 (List.forall_mem_nil _)
    cases started
    exact next

end TickScript.Timer
