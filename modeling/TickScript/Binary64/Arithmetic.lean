import TickScript.Binary64

/-! Arithmetic on binary64 numbers. Every operation is done exactly on units
and rounded once, to the nearest number and to an even code between two equally
near ones. -/
namespace TickScript.Binary64

/-- A quotient rounded to the nearest integer, to the even one of two equally near. -/
def roundHalfEven (numerator denominator : Nat) : Nat :=
  let floor := numerator / denominator
  let rest := numerator % denominator
  if 2 * rest < denominator ∨ (2 * rest = denominator ∧ floor % 2 = 0) then floor else floor + 1

/-- The code nearest to a magnitude of `numerator / denominator` units. From 2^53 units on, only
every 2^s-th unit has a code, where s is the excess of the magnitude over 53 binary digits. -/
def nearestCode (numerator denominator : Nat) : Nat :=
  let excess := (numerator / denominator).log2 - 52
  roundHalfEven numerator (denominator <<< excess) + excess * fractionCount

/-- The number nearest to `numerator / denominator` units of the given sign. -/
def nearest (negative : Bool) (numerator denominator : Nat) : Binary64 :=
  ofCode negative (nearestCode numerator denominator)

def ofInt (n : Int) : Binary64 := nearest (n < 0) (n.natAbs * oneUnits) 1

def ofNat (n : Nat) : Binary64 := nearest false (n * oneUnits) 1

/-- A sum of zero is positive unless both terms are negative. -/
def add (x y : Binary64) : Binary64 :=
  if x.isNaN || y.isNaN then nan
  else if x.isInfinite then if y.isInfinite && x.negative != y.negative then nan else x
  else if y.isInfinite then y
  else
    let sum := x.units + y.units
    if sum = 0 then zero (x.negative && y.negative) else nearest (sum < 0) sum.natAbs 1

def sub (x y : Binary64) : Binary64 :=
  if x.isNaN || y.isNaN then nan else x.add y.neg

def mul (x y : Binary64) : Binary64 :=
  let negative := x.negative != y.negative
  if x.isNaN || y.isNaN then nan
  else if x.isInfinite || y.isInfinite then
    if x.isZero || y.isZero then nan else infinity negative
  else nearest negative (x.magnitude * y.magnitude) oneUnits

def div (x y : Binary64) : Binary64 :=
  let negative := x.negative != y.negative
  if x.isNaN || y.isNaN then nan
  else if x.isInfinite then if y.isInfinite then nan else infinity negative
  else if y.isInfinite then zero negative
  else if y.isZero then if x.isZero then nan else infinity negative
  else nearest negative (x.magnitude * oneUnits) y.magnitude

/-- A finite magnitude rounded to the nearest integer, upwards between two equally near. -/
def roundedMagnitude (x : Binary64) : Nat := (2 * x.magnitude + oneUnits) / (2 * oneUnits)

/-- The number nearest to `digits * 10 ^ exponent`. Exponents for which every number of that many
digits is out of range are answered without computing the power. -/
def ofDecimal (negative : Bool) (digits : Nat) (exponent : Int) : Binary64 :=
  if digits = 0 then zero negative
  else if 400 < exponent then infinity negative
  else if exponent + digits.log2 < -400 then zero negative
  else if 0 ≤ exponent then nearest negative (digits * Nat.pow 10 exponent.toNat * oneUnits) 1
  else nearest negative (digits * oneUnits) (Nat.pow 10 (-exponent).toNat)

/-- The nearest natural number below 2^64, a half upwards; zero for negative numbers and
not-a-number. -/
def toWord (x : Binary64) : Nat :=
  if x.isNaN || x.negative then 0
  else min x.roundedMagnitude (UInt64.size - 1)

end TickScript.Binary64
