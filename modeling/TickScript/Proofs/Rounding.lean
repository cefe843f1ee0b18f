import TickScript.Binary64.Arithmetic
import Mathlib.Algebra.Group.Nat.Defs
import Mathlib.Tactic.SplitIfs

/-! Integers as doubles. Rounding keeps the order of integers, though not that two of them are
different, and its results are numbers. An integer that is not huge becomes the double of its first
53 binary digits, and a product of two of them is exact until it is rounded. -/
namespace TickScript.Binary64

theorem roundHalfEven_eq (n d : Nat) :
    roundHalfEven n d =
      if 2 * (n % d) < d ∨ 2 * (n % d) = d ∧ n / d % 2 = 0 then n / d else n / d + 1 := rfl

theorem floor_le_roundHalfEven (n d : Nat) : n / d ≤ roundHalfEven n d := by
  rw [roundHalfEven_eq]
  split_ifs <;> omega

theorem roundHalfEven_le_succ (n d : Nat) : roundHalfEven n d ≤ n / d + 1 := by
  rw [roundHalfEven_eq]
  split_ifs <;> omega

theorem roundHalfEven_mono {m n : Nat} (le : m ≤ n) (d : Nat) :
    roundHalfEven m d ≤ roundHalfEven n d := by
  rcases Nat.lt_or_eq_of_le (Nat.div_le_div_right (c := d) le) with less | same
  · calc roundHalfEven m d ≤ m / d + 1 := roundHalfEven_le_succ m d
      _ ≤ n / d := less
      _ ≤ roundHalfEven n d := floor_le_roundHalfEven n d
  · -- The floors are the same, so the rests are in the order of the numerators.
    have rests : m % d ≤ n % d := by
      have upper := Nat.div_add_mod m d
      have lower := Nat.div_add_mod n d
      rw [same] at upper
      omega
    rw [roundHalfEven_eq, roundHalfEven_eq, same]
    split_ifs <;> omega

theorem roundHalfEven_mul_right (n d : Nat) {k : Nat} (positive : 0 < k) :
    roundHalfEven (n * k) (d * k) = roundHalfEven n d := by
  have below : 2 * (n % d * k) < d * k ↔ 2 * (n % d) < d := by
    rw [← Nat.mul_assoc, Nat.mul_lt_mul_right positive]
  have half : 2 * (n % d * k) = d * k ↔ 2 * (n % d) = d := by
    rw [← Nat.mul_assoc, Nat.mul_left_inj (Nat.ne_of_gt positive)]
  simp only [roundHalfEven_eq, Nat.mul_div_mul_right _ _ positive, Nat.mul_mod_mul_right, below,
    half]

/-- What divides is not rounded. -/
theorem roundHalfEven_of_dvd {n d : Nat} (positive : 0 < d) (divides : d ∣ n) :
    roundHalfEven n d = n / d := by
  rw [roundHalfEven_eq, Nat.mod_eq_zero_of_dvd divides]
  exact if_pos (.inl positive)

/-- Rounding moves a quotient by no more than a half. -/
theorem roundHalfEven_near (n : Nat) {d : Nat} (positive : 0 < d) :
    2 * n ≤ 2 * (roundHalfEven n d * d) + d ∧ 2 * (roundHalfEven n d * d) ≤ 2 * n + d := by
  have parts := Nat.div_add_mod n d
  have rest := Nat.mod_lt n positive
  rw [Nat.mul_comm d] at parts
  rw [roundHalfEven_eq]
  split_ifs
  · omega
  · rw [Nat.add_mul, Nat.one_mul]
    omega

def excess (n : Nat) : Nat := n.log2 - 52

theorem nearestCode_one (n : Nat) :
    nearestCode n 1 = roundHalfEven n (2 ^ excess n) + excess n * fractionCount := by
  rw [nearestCode, Nat.div_one, Nat.one_shiftLeft, excess]

/-- A fraction is rounded to at most 53 binary digits, or to the next power of two. -/
theorem roundHalfEven_excess_le (n : Nat) :
    roundHalfEven n (2 ^ excess n) ≤ 2 * fractionCount := by
  have digits : n < 2 ^ 53 * 2 ^ excess n := by
    rw [← Nat.pow_add]
    refine Nat.lt_of_lt_of_le Nat.lt_log2_self (Nat.pow_le_pow_right (by decide) ?_)
    unfold excess
    omega
  have floor : n / 2 ^ excess n < 2 ^ 53 := Nat.div_lt_of_lt_mul (by rwa [Nat.mul_comm])
  have rounded := roundHalfEven_le_succ n (2 ^ excess n)
  unfold fractionCount
  omega

theorem le_roundHalfEven_excess {n : Nat} (large : 0 < excess n) :
    fractionCount ≤ roundHalfEven n (2 ^ excess n) := by
  have digits : 2 ^ 52 * 2 ^ excess n ≤ n := by
    rw [← Nat.pow_add]
    have log : 52 + excess n = n.log2 := by
      unfold excess at large ⊢
      omega
    rw [log]
    refine Nat.log2_self_le ?_
    rintro rfl
    simp [excess] at large
  have floor : 2 ^ 52 ≤ n / 2 ^ excess n := (Nat.le_div_iff_mul_le (Nat.two_pow_pos _)).mpr digits
  exact Nat.le_trans floor (floor_le_roundHalfEven n _)

theorem excess_mono {m n : Nat} (le : m ≤ n) : excess m ≤ excess n := by
  rcases Nat.eq_zero_or_pos m with rfl | positive
  · exact Nat.zero_le _
  · have log : m.log2 ≤ n.log2 :=
      (Nat.le_log2 (by omega)).mpr (Nat.le_trans (Nat.log2_self_le (by omega)) le)
    exact Nat.sub_le_sub_right log 52

theorem excess_eq_zero {n : Nat} (small : n < 2 ^ 53) : excess n = 0 := by
  unfold excess
  rcases Nat.eq_zero_or_pos n with rfl | positive
  · rfl
  · exact Nat.sub_eq_zero_of_le
      (Nat.le_of_lt_succ ((Nat.log2_lt (Nat.ne_of_gt positive)).mpr small))

theorem excess_mul_pow {n : Nat} (positive : 0 < n) (k : Nat) :
    excess (n * 2 ^ k) = n.log2 + k - 52 := by
  have log : (n * 2 ^ k).log2 = n.log2 + k := by
    have nonzero : n ≠ 0 := Nat.ne_of_gt positive
    have power : 0 < 2 ^ k := Nat.two_pow_pos k
    rw [Nat.log2_eq_iff (Nat.ne_of_gt (Nat.mul_pos positive power))]
    constructor
    · rw [Nat.pow_add]
      exact Nat.mul_le_mul_right _ (Nat.log2_self_le nonzero)
    · rw [Nat.add_right_comm, Nat.pow_add]
      exact Nat.mul_lt_mul_of_pos_right Nat.lt_log2_self power
  rw [excess, log]

theorem nearestCode_mono {m n : Nat} (le : m ≤ n) : nearestCode m 1 ≤ nearestCode n 1 := by
  rw [nearestCode_one, nearestCode_one]
  rcases Nat.lt_or_eq_of_le (excess_mono le) with less | same
  · have upper := roundHalfEven_excess_le m
    have lower := le_roundHalfEven_excess (Nat.zero_lt_of_lt less)
    calc
      _ ≤ 2 * fractionCount + excess m * fractionCount := Nat.add_le_add_right upper _
      _ = fractionCount + (excess m + 1) * fractionCount := by rw [Nat.add_mul]; omega
      _ ≤ fractionCount + excess n * fractionCount :=
        Nat.add_le_add_left (Nat.mul_le_mul_right _ less) _
      _ ≤ _ := Nat.add_le_add_right lower _
  · rw [same]
    exact Nat.add_le_add_right (roundHalfEven_mono le _) _

theorem isNaN_ofInt (n : Int) : (ofInt n).isNaN = false := by
  exact decide_eq_false (Nat.not_lt.mpr (Nat.min_le_right ..))

/-- The code of an integer, without its sign. -/
theorem key_ofInt (n : Int) :
    (ofInt n).key = (if n < 0 then -1 else 1) *
      (min (nearestCode (n.natAbs * oneUnits) 1) infinityCode : Nat) := by
  unfold ofInt nearest ofCode key
  by_cases negative : n < 0 <;> simp [negative]

theorem key_ofInt_mono {m n : Int} (le : m ≤ n) : (ofInt m).key ≤ (ofInt n).key := by
  have codes {a b : Nat} (le : a ≤ b) :
      min (nearestCode (a * oneUnits) 1) infinityCode ≤
        min (nearestCode (b * oneUnits) 1) infinityCode := by
    have := nearestCode_mono (Nat.mul_le_mul_right oneUnits le)
    omega
  rw [key_ofInt, key_ofInt]
  split_ifs with low high high
  · have := codes (show n.natAbs ≤ m.natAbs by omega)
    omega
  · omega
  · omega
  · have := codes (show m.natAbs ≤ n.natAbs by omega)
    omega

/-- An integer rounded to at most 53 binary digits. -/
def rounded (n : Nat) : Nat := roundHalfEven n (2 ^ excess n) * 2 ^ excess n

theorem codeUnits_fraction {fraction : Nat} (upper : fraction ≤ 2 * fractionCount) {shift : Nat}
    (lower : 0 < shift → fractionCount ≤ fraction) :
    codeUnits (fraction + shift * fractionCount) = fraction * 2 ^ shift := by
  have positive : 0 < fractionCount := by decide
  unfold codeUnits
  by_cases small : fraction + shift * fractionCount < fractionCount
  · have unshifted : shift = 0 := by
      rcases Nat.eq_zero_or_pos shift with zero | shifted
      · exact zero
      · have := lower shifted
        omega
    rw [if_pos small, unshifted, Nat.zero_mul, Nat.pow_zero, Nat.mul_one, Nat.add_zero]
  · have large : fractionCount ≤ fraction := by
      rcases Nat.eq_zero_or_pos shift with rfl | shifted
      · omega
      · exact lower shifted
    obtain ⟨rest, rfl⟩ := Nat.exists_eq_add_of_le large
    rw [if_neg small, Nat.shiftLeft_eq]
    rcases Nat.lt_or_ge rest fractionCount with inside | outside
    · have code : fractionCount + rest + shift * fractionCount =
          rest + (shift + 1) * fractionCount := by
        rw [Nat.add_mul]
        omega
      rw [code, Nat.add_mul_mod_self_right, Nat.mod_eq_of_lt inside,
        Nat.add_mul_div_right _ _ positive, Nat.div_eq_of_lt inside, Nat.zero_add,
        Nat.add_sub_cancel]
    · -- The fraction has been rounded up to the next power of two.
      have full : rest = fractionCount := by omega
      have code : fractionCount + fractionCount + shift * fractionCount =
          (shift + 2) * fractionCount := by
        rw [Nat.add_mul]
        omega
      rw [full, code, Nat.mul_mod_left, Nat.mul_div_cancel _ positive, Nat.add_zero,
        ← Nat.two_mul, Nat.mul_right_comm, Nat.mul_comm, ← Nat.pow_succ']
      rfl

theorem codeUnits_nearestCode (n : Nat) : codeUnits (nearestCode n 1) = rounded n := by
  rw [nearestCode_one, rounded]
  exact codeUnits_fraction (roundHalfEven_excess_le n) le_roundHalfEven_excess

theorem rounded_eq_self_iff {n : Nat} : rounded n = n ↔ 2 ^ excess n ∣ n := by
  have positive : 0 < 2 ^ excess n := Nat.two_pow_pos _
  constructor
  · intro same
    exact ⟨_, same.symm.trans (Nat.mul_comm _ _)⟩
  · intro divides
    rw [rounded, roundHalfEven_of_dvd positive divides, Nat.div_mul_cancel divides]

theorem nearestCode_mul_right (n : Nat) {d : Nat} (positive : 0 < d) :
    nearestCode (n * d) d = nearestCode n 1 := by
  rw [nearestCode_one, nearestCode, Nat.mul_div_cancel _ positive, Nat.shiftLeft_eq,
    Nat.mul_comm d, roundHalfEven_mul_right _ _ positive, excess]

theorem rounded_of_lt {n : Nat} (small : n < 2 ^ 53) : rounded n = n := by
  rw [rounded_eq_self_iff, excess_eq_zero small]
  exact Nat.one_dvd n

/-- Powers of two do not show in the digits. -/
theorem rounded_mul_pow (n k : Nat) : rounded (n * 2 ^ k) = rounded n * 2 ^ k := by
  rcases Nat.lt_or_ge n (2 ^ 53) with small | large
  · rw [rounded_of_lt small, rounded_eq_self_iff]
    rcases Nat.eq_zero_or_pos n with rfl | positive
    · rw [Nat.zero_mul]
      exact Nat.dvd_zero _
    · have digits : n.log2 < 53 := (Nat.log2_lt (Nat.ne_of_gt positive)).mpr small
      rw [excess_mul_pow positive]
      exact Nat.dvd_mul_left_of_dvd (Nat.pow_dvd_pow 2 (by omega)) n
  · have positive : 0 < n := Nat.lt_of_lt_of_le (Nat.two_pow_pos 53) large
    have digits : 53 ≤ n.log2 := (Nat.le_log2 (Nat.ne_of_gt positive)).mpr large
    have shift : excess (n * 2 ^ k) = excess n + k := by
      rw [excess_mul_pow positive]
      unfold excess
      omega
    rw [rounded, shift, Nat.pow_add, roundHalfEven_mul_right _ _ (Nat.two_pow_pos k),
      ← Nat.mul_assoc, ← rounded]

/-- Rounding moves an integer by no more than half the last of its 53 digits. -/
theorem rounded_near (n : Nat) :
    2 * n ≤ 2 * rounded n + 2 ^ excess n ∧ 2 * rounded n ≤ 2 * n + 2 ^ excess n :=
  roundHalfEven_near n (Nat.two_pow_pos _)

theorem rounded_le_double (n : Nat) : rounded n ≤ 2 * n := by
  rcases Nat.lt_or_ge n (2 ^ 53) with small | large
  · rw [rounded_of_lt small]
    omega
  · have step : 2 ^ excess n ≤ n := by
      refine Nat.le_trans (Nat.pow_le_pow_right (by decide) (Nat.sub_le _ _)) ?_
      exact Nat.log2_self_le (by omega)
    have near := (rounded_near n).2
    omega

/-- A power of two of at least 53 digits is not passed by rounding. -/
theorem le_rounded {n k : Nat} (long : 53 ≤ k) (le : 2 ^ k ≤ n) : 2 ^ k ≤ rounded n := by
  have digits : k ≤ n.log2 := (Nat.le_log2 (by have := Nat.two_pow_pos k; omega)).mpr le
  have shift : k ≤ 52 + excess n := by
    unfold excess
    omega
  calc 2 ^ k ≤ 2 ^ (52 + excess n) := Nat.pow_le_pow_right (by decide) shift
    _ = fractionCount * 2 ^ excess n := by rw [Nat.pow_add]; rfl
    _ ≤ rounded n := Nat.mul_le_mul_right _ (le_roundHalfEven_excess (by omega))

theorem oneUnits_pos : 0 < oneUnits := by decide +kernel

theorem rounded_mul_oneUnits (n : Nat) : rounded (n * oneUnits) = rounded n * oneUnits := by
  simp only [oneUnits, Nat.one_shiftLeft, rounded_mul_pow]

theorem ofInt_natCast (n : Nat) : ofInt n = ofNat n := by
  have positive : decide ((n : Int) < 0) = false := decide_eq_false (by omega)
  rw [ofInt, positive]
  rfl

theorem code_ofNat {n : Nat} (moderate : n ≤ 2 ^ 128) :
    ((ofNat n).code : Nat) = nearestCode (n * oneUnits) 1 ∧
      nearestCode (n * oneUnits) 1 < infinityCode := by
  have finite : nearestCode (n * oneUnits) 1 < infinityCode :=
    Nat.lt_of_le_of_lt (nearestCode_mono (Nat.mul_le_mul_right _ moderate)) (by decide +kernel)
  exact ⟨Nat.min_eq_left (Nat.le_of_lt finite), finite⟩

theorem isFinite_ofNat {n : Nat} (moderate : n ≤ 2 ^ 128) : (ofNat n).isFinite = true := by
  have ⟨code, finite⟩ := code_ofNat moderate
  exact decide_eq_true (code ▸ finite)

/-- An integer that is not huge is a double of its first 53 binary digits. -/
theorem magnitude_ofNat {n : Nat} (moderate : n ≤ 2 ^ 128) :
    (ofNat n).magnitude = rounded n * oneUnits := by
  rw [magnitude, (code_ofNat moderate).1, codeUnits_nearestCode, rounded_mul_oneUnits]

theorem roundedMagnitude_ofNat {n : Nat} (moderate : n ≤ 2 ^ 128) :
    (ofNat n).roundedMagnitude = rounded n := by
  have positive : 0 < 2 * oneUnits := Nat.mul_pos (by decide) oneUnits_pos
  rw [roundedMagnitude, magnitude_ofNat moderate, Nat.mul_left_comm, Nat.add_comm,
    Nat.add_mul_div_right _ _ positive, Nat.div_eq_of_lt (by omega), Nat.zero_add]

/-- Products of integers are exact before they are rounded. -/
theorem mul_ofNat {a b : Nat} (left : a ≤ 2 ^ 128) (right : b ≤ 2 ^ 128) :
    (ofNat a).mul (ofNat b) = ofNat (rounded a * rounded b) := by
  have number {n : Nat} (moderate : n ≤ 2 ^ 128) :
      (ofNat n).isNaN = false ∧ (ofNat n).isInfinite = false := by
    have ⟨code, finite⟩ := code_ofNat moderate
    rw [← code] at finite
    constructor
    · exact decide_eq_false (by omega)
    · exact beq_false_of_ne (Nat.ne_of_lt finite)
  unfold mul
  rw [(number left).1, (number left).2, (number right).1, (number right).2,
    magnitude_ofNat left, magnitude_ofNat right]
  have product : rounded a * oneUnits * (rounded b * oneUnits) =
      rounded a * rounded b * oneUnits * oneUnits := by
    rw [Nat.mul_mul_mul_comm, Nat.mul_assoc _ oneUnits]
  simp only [Bool.or_self, Bool.false_eq_true, if_false, nearest, product,
    nearestCode_mul_right _ oneUnits_pos]
  rfl

end TickScript.Binary64
