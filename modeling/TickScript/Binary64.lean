/-! IEEE binary64 numbers as exact data. A number is a sign and a code, the
exponent field and the fraction read as one integer; codes grow with the
magnitude, so the order of numbers is the order of signed codes. The magnitude
of a finite number is a whole number of units of 2^-1074, which lets all
arithmetic be done on integers. -/
namespace TickScript

/-- The number of codes, 2^63. -/
abbrev Binary64.codeCount : Nat := 9223372036854775808

/-- A double: its sign and the remaining 63 bits as one integer. -/
structure Binary64 where
  negative : Bool
  code : Fin Binary64.codeCount
  deriving DecidableEq, Repr

namespace Binary64

/-- The number of fractions within one exponent, 2^52. -/
def fractionCount : Nat := 4503599627370496

/-- The code of infinity. Smaller codes are finite, larger ones are not numbers. -/
def infinityCode : Nat := 2047 * fractionCount

/-- The number of units in one: a unit is 2^-1074. -/
def oneUnits : Nat := 1 <<< 1074

/-- The number with a sign and a code, infinity for codes beyond the finite ones. -/
def ofCode (negative : Bool) (code : Nat) : Binary64 :=
  ⟨negative, ⟨min code infinityCode, Nat.lt_of_le_of_lt (Nat.min_le_right ..) (by decide)⟩⟩

def zero (negative : Bool) : Binary64 := ofCode negative 0

def infinity (negative : Bool) : Binary64 := ofCode negative infinityCode

/-- The quiet not-a-number that arithmetic produces. -/
def nan : Binary64 := ⟨false, ⟨infinityCode + fractionCount / 2, by decide⟩⟩

instance : Inhabited Binary64 := ⟨zero false⟩

def isNaN (x : Binary64) : Bool := infinityCode < x.code

def isFinite (x : Binary64) : Bool := x.code < infinityCode

def isInfinite (x : Binary64) : Bool := x.code.val == infinityCode

def isZero (x : Binary64) : Bool := x.code.val == 0

def neg (x : Binary64) : Binary64 := ⟨!x.negative, x.code⟩

/-- The magnitude of a finite code in units. -/
def codeUnits (code : Nat) : Nat :=
  if code < fractionCount then code
  else (fractionCount + code % fractionCount) <<< (code / fractionCount - 1)

/-- The magnitude of a finite number in units. -/
def magnitude (x : Binary64) : Nat := codeUnits x.code

/-- A finite number in units, with its sign. -/
def units (x : Binary64) : Int := if x.negative then -x.magnitude else x.magnitude

/-- The signed code, which orders all numbers but not-a-number; both zeros have the same. -/
def key (x : Binary64) : Int := if x.negative then -x.code.val else x.code.val

/-- The order of two numbers; not-a-number is in no order with anything. -/
def order (x y : Binary64) : Option Ordering :=
  if x.isNaN || y.isNaN then none else some (compare x.key y.key)

/-- Numeric equality: both zeros are equal, not-a-number equals nothing. -/
def same (x y : Binary64) : Bool := x.order y == some .eq

def toBits (x : Binary64) : Nat := (if x.negative then codeCount else 0) + x.code

def ofBits (bits : Nat) : Binary64 :=
  ⟨bits / codeCount % 2 == 1, ⟨bits % codeCount, Nat.mod_lt _ (by decide)⟩⟩

end Binary64
end TickScript
