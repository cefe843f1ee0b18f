import TickScript.Binary64

/-! The decimal with the fewest digits that reads back as a given binary64
number, the nearest one of those. All comparisons are between integers: twice a
magnitude in units, multiplied by a power of ten where the grid is a fraction. -/
namespace TickScript

/-- A positive decimal `digits * 10 ^ exponent`. -/
structure Decimal where
  digits : Nat
  exponent : Int
  deriving DecidableEq, Repr

/-- Which of two equally near decimals is taken. -/
inductive Tie
  | up | even
  deriving DecidableEq, Repr

namespace Decimal

/-- A grid of decimals laid over a code: integers proportional to the grid's step, to the code's
magnitude and to the ends of the interval of reals that round to the code. -/
structure Grid where
  step : Nat
  value : Nat
  low : Nat
  high : Nat

/-- The grid of multiples of `10 ^ exponent` around a positive finite code. -/
def Grid.around (code : Nat) (exponent : Int) : Grid where
  step := 2 * Binary64.oneUnits * Nat.pow 10 exponent.toNat
  value := 2 * Binary64.codeUnits code * Nat.pow 10 (-exponent).toNat
  low := (Binary64.codeUnits (code - 1) + Binary64.codeUnits code) * Nat.pow 10 (-exponent).toNat
  high := (Binary64.codeUnits code + Binary64.codeUnits (code + 1)) * Nat.pow 10 (-exponent).toNat

/-- A grid point reads back as the code: the ends of the interval belong to it if the code is
even. -/
def Grid.readsBack (grid : Grid) (code point : Nat) : Bool :=
  let place := point * grid.step
  if code % 2 = 0 then grid.low ≤ place && place ≤ grid.high
  else grid.low < place && place < grid.high

/-- The grid point nearest to the value among its two neighbours that read back, if one does. -/
def Grid.select? (grid : Grid) (code : Nat) (tie : Tie) : Option Nat :=
  let below := grid.value / grid.step
  match 0 < below && grid.readsBack code below, grid.readsBack code (below + 1) with
  | false, false => none
  | true, false => some below
  | false, true => some (below + 1)
  | true, true =>
    match compare (2 * grid.value) ((2 * below + 1) * grid.step), tie with
    | .lt, _ => some below
    | .gt, _ => some (below + 1)
    | .eq, .up => some (below + 1)
    | .eq, .even => some (if below % 2 = 0 then below else below + 1)

/-- The first grid with a point that reads back, from a coarse grid to ever finer ones. -/
def firstGrid (code : Nat) (tie : Tie) : Nat → Int → Decimal
  | 0, exponent => ⟨Binary64.codeUnits code, exponent⟩
  | steps + 1, exponent =>
    match (Grid.around code exponent).select? code tie with
    | some point => ⟨point, exponent⟩
    | none => firstGrid code tie steps (exponent - 1)

/-- Takes the zeros at the end of the digits into the exponent. -/
def stripZeros : Nat → Decimal → Decimal
  | 0, d => d
  | steps + 1, d =>
    if d.digits % 10 = 0 then stripZeros steps ⟨d.digits / 10, d.exponent + 1⟩ else d

/-- An exponent at or above that of the leading digit; `1233 / 4096` is a little over the logarithm
of two to the base ten. -/
def leadingExponentBound (code : Nat) : Int :=
  let binary : Int := (Binary64.codeUnits code).log2 + 1 - 1074
  (binary * 1233) / 4096 + 1

/-- The shortest decimal that reads back as a positive finite code. Seventeen digits always do. -/
def shortest (code : Nat) (tie : Tie) : Decimal :=
  stripZeros 20 (firstGrid code tie 24 (leadingExponentBound code))

end Decimal
end TickScript
