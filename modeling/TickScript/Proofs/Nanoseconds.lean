import TickScript.Builtin.Wait
import TickScript.Proofs.Rounding

/-! How long a `wait` for a whole number of milliseconds lasts. On its way to nanoseconds the number
becomes a double and the product one more, and what does not fit 64 bits is cut off. So the span is
the right one just if the product fits both: short waits are exact, longer ones can be up to 1024
nanoseconds off, and no wait lasts longer than 2^64 - 1 nanoseconds. -/
namespace TickScript.Builtin

open Binary64 (rounded excess)

def answers (timer : Timer) : List Time → List (Except Fault Resume)
  | [] => []
  | now :: readings => (resumeWait timer now).1 :: answers (resumeWait timer now).2 readings

/-- However it is resumed, a timer is done with `true` at the first reading from a moment on, and
at no other. -/
structure FiresAt (timer : Timer) (moment : Time) : Prop where
  early : ∀ readings, (∀ now ∈ readings, now < moment) →
    answers timer readings = readings.map fun _ => .ok .unfinished
  due : ∀ before now after, (∀ earlier ∈ before, earlier < moment) → moment ≤ now →
    answers timer (before ++ now :: after) = before.map (fun _ => .ok .unfinished) ++
      .ok (.done (.bool true)) :: after.map fun _ => .ok .unfinished

/-- A timer that has fired or is resumed too early does not change. -/
theorem answers_quiet {timer : Timer} (once : timer.repeats = false) {readings : List Time}
    (quiet : ∀ now ∈ readings, timer.fired ∨ now < timer.deadline) (rest : List Time) :
    answers timer (readings ++ rest) =
      readings.map (fun _ => .ok .unfinished) ++ answers timer rest := by
  induction readings with
  | nil => rfl
  | cons now readings ih =>
    have ⟨first, others⟩ := List.forall_mem_cons.mp quiet
    rw [List.cons_append, answers, resumeWait_eq once, if_pos first, ih others]
    rfl

theorem answers_unfinished {timer : Timer} (once : timer.repeats = false) {readings : List Time}
    (quiet : ∀ now ∈ readings, timer.fired ∨ now < timer.deadline) :
    answers timer readings = readings.map fun _ => .ok .unfinished := by
  have same := answers_quiet once quiet []
  rwa [List.append_nil, answers, List.append_nil] at same

theorem firesAt_deadline {timer : Timer} (once : timer.repeats = false)
    (unfired : timer.fired = false) : FiresAt timer timer.deadline where
  early readings early := answers_unfinished once fun now given => .inr (early now given)
  due before now after early due := by
    have late : ¬(timer.fired ∨ now < timer.deadline) := by
      rw [unfired]
      exact not_or.mpr ⟨Bool.false_ne_true, Nat.not_lt.mpr due⟩
    have spent : answers { timer with fired := true } after =
        after.map fun _ => .ok .unfinished := by
      refine answers_unfinished ?_ fun _ _ => .inl rfl
      exact once
    rw [answers_quiet once (fun earlier given => .inr (early earlier given)), answers,
      resumeWait_eq once, if_neg late]
    exact congrArg _ (congrArg _ spent)

theorem FiresAt.le {timer : Timer} {first second : Time} (one : FiresAt timer first)
    (other : FiresAt timer second) : second ≤ first := by
  refine Nat.not_lt.mp fun above => ?_
  have done := one.due [] first [] (List.forall_mem_nil _) (Nat.le_refl _)
  have unfinished := other.early [first] (List.forall_mem_singleton.mpr above)
  cases done.symm.trans unfinished

/-- Whenever it is started, a `wait` is done at the first resume at which a span has passed. -/
def Lasts (call : Invocation) (span : Time) : Prop :=
  ∀ now timer, startWait call now = .ok timer → FiresAt timer (now + span)

/-- A `wait` lasts as long as it is asked to, after rounding. -/
theorem lasts_iff {call : Invocation} {ms : Binary64} (asks : asked call = .ok ms) {span : Time} :
    Lasts call span ↔ nanos ms = span := by
  have fires {now : Time} {timer : Timer} (started : startWait call now = .ok timer) :
      FiresAt timer (now + nanos ms) := by
    obtain ⟨_, again, _, rfl⟩ := startWait_ok_iff.mp started
    cases asks.symm.trans again
    exact firesAt_deadline rfl rfl
  constructor
  · intro lasts
    have within : 0 + nanos ms < Time.bound := by
      rw [Nat.zero_add]
      exact Nat.lt_trans (nanos_lt ms) (by decide)
    have started := startWait_ok_iff.mpr ⟨ms, asks, within, rfl⟩
    have one := fires started
    have other := lasts _ _ started
    exact Nat.add_left_cancel (Nat.le_antisymm (other.le one) (one.le other))
  · rintro rfl now timer started
    exact fires started

theorem asked_single (name : String) (amount : Value) (named : Table Value) :
    asked ⟨name, [amount], named⟩ = match millis? amount with
      | none => .error (badAmount name amount)
      | some ms => .ok ms := rfl

/-- No negative integer is rounded to zero, so all of them are refused. -/
theorem asked_negative (name : String) {m : Int64} (named : Table Value) (negative : m.toInt < 0) :
    asked ⟨name, [.int m], named⟩ = .error (badAmount name (.int m)) := by
  have sign : (Binary64.ofInt m.toInt).negative = true := decide_eq_true negative
  have nonzero : (Binary64.ofInt m.toInt).isZero = false := by
    have unit : 1 ≤ m.toInt.natAbs * Binary64.oneUnits :=
      Nat.mul_pos (Int.natAbs_pos.mpr (Int.ne_of_lt negative)) Binary64.oneUnits_pos
    have code : 1 ≤ Binary64.nearestCode (m.toInt.natAbs * Binary64.oneUnits) 1 :=
      Binary64.nearestCode_mono unit
    exact beq_false_of_ne (Nat.ne_of_gt (Nat.le_min.mpr ⟨code, by decide⟩))
  have refused : millis? (.int m) = none := by
    simp [millis?, Value.number?, sign, nonzero]
  rw [asked_single, refused]

variable {m : Int64} {ms : Nat}

theorem natural_lt (whole : m.toInt = ms) : ms < 2 ^ 63 := by
  have upper := m.toInt_lt
  omega

theorem asked_natural (name : String) (named : Table Value) (whole : m.toInt = ms) :
    asked ⟨name, [.int m], named⟩ = .ok (.ofNat ms) := by
  have long := natural_lt whole
  have moderate : ms ≤ 2 ^ 128 := by omega
  have taken : millis? (.int m) = some (.ofNat ms) := by
    have sign : (Binary64.ofNat ms).negative = false := rfl
    simp [millis?, Value.number?, whole, Binary64.ofInt_natCast,
      Binary64.isFinite_ofNat moderate, sign]
  rw [asked_single, taken]

/-- Both the number and its product with a million are rounded. -/
theorem nanos_ofNat (long : ms < 2 ^ 63) :
    nanos (.ofNat ms) = min (rounded (rounded ms * 1000000)) (UInt64.size - 1) := by
  have double := Binary64.rounded_le_double ms
  have million : rounded 1000000 = 1000000 := Binary64.rounded_of_lt (by decide)
  rw [nanos, Binary64.mul_ofNat (by omega) (by decide), million,
    Binary64.roundedMagnitude_ofNat (by omega)]

/-- The number of milliseconds is itself not rounded where the product fits. -/
theorem nanos_within (within : Time.ofMillis ms < UInt64.size) :
    nanos (.ofNat ms) = min (rounded (Time.ofMillis ms)) (UInt64.size - 1) := by
  have short : ms < 2 ^ 53 := by
    unfold Time Time.ofMillis UInt64.size at within
    omega
  rw [nanos_ofNat (by omega), Binary64.rounded_of_lt short, Time.ofMillis]

theorem nanos_beyond (long : ms < 2 ^ 63) (beyond : UInt64.size ≤ Time.ofMillis ms) :
    nanos (.ofNat ms) = UInt64.size - 1 := by
  have factor : 2 ^ 64 ≤ rounded ms * 1000000 := by
    rcases Nat.lt_or_ge ms (2 ^ 53) with short | large
    · rw [Binary64.rounded_of_lt short]
      exact beyond
    · have lower := Binary64.le_rounded (Nat.le_refl 53) large
      omega
  have product := Binary64.le_rounded (by decide) factor
  rw [nanos_ofNat long]
  exact Nat.min_eq_right (Nat.le_trans (by decide) product)

/-- A span below 2^64 nanoseconds is moved by half a step of at most 2048. -/
theorem nanos_near (within : Time.ofMillis ms < UInt64.size) :
    nanos (.ofNat ms) ≤ Time.ofMillis ms + 1024 ∧ Time.ofMillis ms ≤ nanos (.ofNat ms) + 1024 := by
  have digits : excess (Time.ofMillis ms) ≤ 11 :=
    Nat.le_trans (Binary64.excess_mono (Nat.le_sub_one_of_lt within)) (by decide)
  have step : 2 ^ excess (Time.ofMillis ms) ≤ 2 ^ 11 := Nat.pow_le_pow_right (by decide) digits
  have near := Binary64.rounded_near (Time.ofMillis ms)
  rw [nanos_within within]
  unfold Time UInt64.size at *
  omega

theorem nanos_exact_iff :
    nanos (.ofNat ms) = Time.ofMillis ms ↔
      Time.ofMillis ms < UInt64.size ∧ 2 ^ excess (Time.ofMillis ms) ∣ Time.ofMillis ms := by
  rw [← Binary64.rounded_eq_self_iff]
  constructor
  · intro exact
    have within : Time.ofMillis ms < UInt64.size := exact ▸ nanos_lt _
    rw [nanos_within within] at exact
    refine ⟨within, ?_⟩
    unfold Time Time.ofMillis UInt64.size at *
    omega
  · rintro ⟨within, exact⟩
    rw [nanos_within within, exact]
    exact Nat.min_eq_left (Nat.le_sub_one_of_lt within)

/-- A million is a multiple of 2^6, which covers the products of up to 59 binary digits. -/
theorem nanos_short (short : ms ≤ 576460752303) : nanos (.ofNat ms) = Time.ofMillis ms := by
  rw [nanos_exact_iff]
  have product : Time.ofMillis ms ≤ 2 ^ 59 - 1 := by
    unfold Time Time.ofMillis
    omega
  have digits : excess (Time.ofMillis ms) ≤ 6 :=
    Nat.le_trans (Binary64.excess_mono product) (by decide)
  have million : 2 ^ 6 ∣ Time.ofMillis ms := Nat.dvd_mul_left_of_dvd (by decide) ms
  exact ⟨Nat.lt_of_le_of_lt product (by decide),
    Nat.dvd_trans (Nat.pow_dvd_pow 2 digits) million⟩

/-- What becomes of a `wait` for a whole number of milliseconds. -/
structure WaitsWhole (call : Invocation) (ms : Nat) : Prop where
  /-- It is not refused, and breaks down where its deadline would be no time. -/
  accepted : ∀ now, (∃ timer, startWait call now = .ok timer) ∨
    startWait call now = .error (.breakdown .timeOverflow)
  /-- It lasts as long as it should just if the span in nanoseconds fits 64 bits and a double. -/
  on_time : Lasts call (.ofMillis ms) ↔
    Time.ofMillis ms < UInt64.size ∧ 2 ^ excess (Time.ofMillis ms) ∣ Time.ofMillis ms
  short : ms ≤ 576460752303 → Lasts call (.ofMillis ms)
  near : Time.ofMillis ms < UInt64.size → ∃ span, Lasts call span ∧
    span ≤ Time.ofMillis ms + 1024 ∧ Time.ofMillis ms ≤ span + 1024
  cut_off : UInt64.size ≤ Time.ofMillis ms → Lasts call (UInt64.size - 1)

/-- A `wait` for a negative number of milliseconds is refused. For any other whole number it is
taken, and lasts as long as it is asked to if the span is short or its digits are few. -/
theorem whole_wait (name : String) (m : Int64) (named : Table Value) :
    (m.toInt < 0 → ∀ now, startWait ⟨name, [.int m], named⟩ now =
      .error (.script (badAmount name (.int m)))) ∧
    ∀ ms : Nat, m.toInt = ms → WaitsWhole ⟨name, [.int m], named⟩ ms := by
  constructor
  · intro negative now
    rw [startWait, asked_negative name named negative]
  · intro ms whole
    have long := natural_lt whole
    have asks := asked_natural name named whole
    have lasts {span : Time} : Lasts _ span ↔ nanos (.ofNat ms) = span := lasts_iff asks
    refine ⟨fun now => ?_, ?_, fun short => ?_, fun within => ?_, fun beyond => ?_⟩
    · rcases Nat.lt_or_ge (now + nanos (.ofNat ms)) Time.bound with inside | outside
      · exact .inl ⟨_, startWait_ok_iff.mpr ⟨_, asks, inside, rfl⟩⟩
      · exact .inr (startWait_breakdown_iff.mpr ⟨_, asks, outside, rfl⟩)
    · rw [lasts, nanos_exact_iff]
    · exact lasts.mpr (nanos_short short)
    · exact ⟨_, lasts.mpr rfl, nanos_near within⟩
    · exact lasts.mpr (nanos_beyond long beyond)

/-- Half a second is waited for exactly. Of a wait of eighteen years the last 64 nanoseconds are
rounded away, one of six hundred years is cut off, and one of less than nothing is refused. -/
theorem whole_wait_lengths :
    Lasts ⟨"wait", [.int 500], .empty⟩ (.ofMillis 500) ∧
    ¬Lasts ⟨"wait", [.int 576460752305], .empty⟩ (.ofMillis 576460752305) ∧
    Lasts ⟨"wait", [.int 20000000000000], .empty⟩ (UInt64.size - 1) ∧
    startWait ⟨"wait", [.int (-1)], .empty⟩ 7 =
      .error (.script (badAmount "wait" (.int (-1)))) := by
  have half := (whole_wait "wait" 500 .empty).2 500 (by decide)
  have years := (whole_wait "wait" 576460752305 .empty).2 576460752305 (by decide)
  have centuries := (whole_wait "wait" 20000000000000 .empty).2 20000000000000 (by decide)
  refine ⟨half.short (by decide), ?_, centuries.cut_off (by decide),
    (whole_wait "wait" (-1) .empty).1 (by decide) 7⟩
  rw [years.on_time]
  decide +kernel

/-- A `wait` of twenty billion seconds is done more than a billion seconds early. -/
theorem long_wait_early :
    ∃ timer, startWait ⟨"wait", [.int 20000000000000], .empty⟩ 0 = .ok timer ∧
      answers timer [18446744074000000000] = [.ok (.done (.bool true))] ∧
      (18446744074000000000 : Time) < 0 + Time.ofMillis 20000000000000 := by
  have whole : (20000000000000 : Int64).toInt = (20000000000000 : Nat) := by decide
  have asks := asked_natural "wait" .empty whole
  have length : nanos (.ofNat 20000000000000) = 18446744073709551615 :=
    nanos_beyond (by decide) (by decide)
  have within : 0 + nanos (.ofNat 20000000000000) < Time.bound := by
    rw [length]
    decide
  have started := startWait_ok_iff.mpr ⟨_, asks, within, rfl⟩
  have fires := (lasts_iff asks).mpr length 0 _ started
  exact ⟨_, started, fires.due [] _ [] (List.forall_mem_nil _) (by decide), by decide⟩

end TickScript.Builtin
