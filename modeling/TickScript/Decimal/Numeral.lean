import TickScript.Decimal.Shortest

/-! The text of binary64 numbers: a style says where positional notation ends,
how whole numbers and exponents are written, and what stands for the values
that are no numbers. -/
namespace TickScript

/-- The decisions of one written form of numbers. -/
structure NumeralStyle where
  tie : Tie
  /-- Whether a leading digit of this decimal exponent is written positionally. -/
  positional : Int → Bool
  /-- What follows the digits of a whole number. -/
  wholeEnding : String
  /-- The text of not-a-number and of positive infinity; `-` goes in front of a negative one. -/
  notANumber : String
  infinite : String

namespace NumeralStyle

def zeros (count : Nat) : List Char := List.replicate count '0'

/-- Digits with the point set by the exponent. -/
def positionalText (style : NumeralStyle) (d : Decimal) : String :=
  let digits := Nat.toDigits 10 d.digits
  if 0 ≤ d.exponent then String.ofList (digits ++ zeros d.exponent.toNat) ++ style.wholeEnding
  else
    let places := (-d.exponent).toNat
    if places < digits.length then
      let whole := digits.length - places
      String.ofList (digits.take whole ++ '.' :: digits.drop whole)
    else String.ofList ('0' :: '.' :: zeros (places - digits.length) ++ digits)

/-- One digit before the point and a signed exponent. -/
def exponentText (d : Decimal) : String :=
  let digits := Nat.toDigits 10 d.digits
  let leading := d.exponent + digits.length - 1
  let mantissa := match digits with
    | [] => []
    | [digit] => [digit]
    | digit :: rest => digit :: '.' :: rest
  let sign := if leading < 0 then "e-" else "e+"
  String.ofList mantissa ++ sign ++ Nat.repr leading.natAbs

/-- The text of a magnitude other than not-a-number. -/
def magnitudeText (style : NumeralStyle) (x : Binary64) : String :=
  if x.isInfinite then style.infinite
  else if x.isZero then "0" ++ style.wholeEnding
  else
    let d := Decimal.shortest x.code style.tie
    let leading := d.exponent + (Nat.toDigits 10 d.digits).length - 1
    if style.positional leading then style.positionalText d else exponentText d

def render (style : NumeralStyle) (x : Binary64) : String :=
  if x.isNaN then style.notANumber
  else if x.negative then "-" ++ style.magnitudeText x
  else style.magnitudeText x

end NumeralStyle
end TickScript
