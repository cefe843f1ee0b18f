import TickScript.Binary64.Arithmetic

/-! Numbers read from text: integers within a range, and decimal numbers with an
optional fraction and exponent, rounded once to the nearest binary64 number. -/
namespace TickScript.Literal

/-- The value of a sequence of decimal digits. -/
def digitsValue (digits : List Char) : Nat :=
  digits.foldl (fun value c => value * 10 + (c.toNat - '0'.toNat)) 0

/-- An optional sign, and whether it is a minus. -/
def sign : List Char → Bool × List Char
  | '-' :: rest => (true, rest)
  | '+' :: rest => (false, rest)
  | text => (false, text)

/-- A signed integer: digits only after an optional sign. -/
def int? (text : List Char) : Option Int :=
  let (negative, digits) := sign text
  if digits.isEmpty || digits.any (fun c => !c.isDigit) then none
  else some (if negative then -(digitsValue digits : Int) else digitsValue digits)

/-- Whether an integer fits 64 bits with a sign. -/
def isInt64 (n : Int) : Bool := -9223372036854775808 ≤ n && n < 9223372036854775808

/-- A natural number below 2^64; a plus sign may stand before it. -/
def word? (text : List Char) : Option Nat :=
  let digits := match text with
    | '+' :: rest => rest
    | other => other
  if digits.isEmpty || digits.any (fun c => !c.isDigit) then none
  else if digitsValue digits < UInt64.size then some (digitsValue digits) else none

/-- The exponent after its mark: an optional sign and at least one digit, and nothing after it. -/
def exponent? (text : List Char) : Option Int := int? text

/-- Unsigned decimal digits with an optional point and exponent, as digits and a power of ten. At
least one digit has to stand before or after the point. -/
def decimal? (text : List Char) : Option (Nat × Int) :=
  let whole := text.takeWhile Char.isDigit
  let rest := text.dropWhile Char.isDigit
  let (fraction, rest) := match rest with
    | '.' :: rest => (rest.takeWhile Char.isDigit, rest.dropWhile Char.isDigit)
    | rest => ([], rest)
  if whole.isEmpty && fraction.isEmpty then none
  else
    let digits := digitsValue (whole ++ fraction)
    match rest with
    | [] => some (digits, -fraction.length)
    | mark :: rest =>
      if mark = 'e' ∨ mark = 'E' then
        (exponent? rest).map fun exponent => (digits, exponent - fraction.length)
      else none

/-- Words for values that are no finite numbers, in any case of letters. -/
def special? (negative : Bool) (text : List Char) : Option Binary64 :=
  let word := String.ofList (text.map Char.toLower)
  if word = "inf" ∨ word = "infinity" then some (.infinity negative)
  else if word = "nan" then some { Binary64.nan with negative := negative }
  else none

/-- A decimal number or a word for infinity or not-a-number, after an optional sign. -/
def binary64? (text : List Char) : Option Binary64 :=
  let (negative, magnitude) := sign text
  match decimal? magnitude with
  | some (digits, exponent) => some (.ofDecimal negative digits exponent)
  | none => special? negative magnitude

/-! ### Decimal digits -/

theorem isDigit_toDigits {n : Nat} {c : Char} (member : c ∈ Nat.toDigits 10 n) :
    c.isDigit = true :=
  Nat.isDigit_of_mem_toDigits (by decide) (by decide) member

theorem digitsValue_toDigits (n : Nat) : digitsValue (Nat.toDigits 10 n) = n := by
  have same (digits : List Char) : digitsValue digits = Nat.ofDigitChars 10 digits 0 := by
    unfold digitsValue Nat.ofDigitChars
    congr
    funext value c
    rw [Nat.mul_comm]
  rw [same, Nat.ofDigitChars_ten_toDigits]

/-- Only zero has a zero in front. -/
theorem toDigits_front {n : Nat} (positive : n ≠ 0) (rest : List Char) :
    Nat.toDigits 10 n ≠ '0' :: rest := by
  induction n using Nat.strongRecOn generalizing rest with
  | ind n ih =>
    rw [Nat.toDigits_eq_if (by decide)]
    split
    case isTrue low =>
      have digit : ∀ d < 10, Nat.digitChar d = '0' → d = 0 := by decide
      exact fun same => positive (digit n low (List.cons.inj same).1)
    case isFalse high =>
      have front := ih (n / 10) (by omega) (by omega)
      cases digits : Nat.toDigits 10 (n / 10) with
      | nil => exact absurd digits Nat.toDigits_ne_nil
      | cons c others =>
        rw [digits] at front
        intro same
        cases (List.cons.inj same).1
        exact front others rfl

theorem toList_toString (n : Int) :
    (∃ m : Nat, n = m ∧ (toString n).toList = Nat.toDigits 10 m) ∨
      ∃ m : Nat, n = -m ∧ (toString n).toList = '-' :: Nat.toDigits 10 m := by
  cases n with
  | ofNat m => exact .inl ⟨m, rfl, Nat.toList_repr⟩
  | negSucc m =>
    refine .inr ⟨m + 1, rfl, ?_⟩
    show ("-" ++ Nat.repr (m + 1)).toList = _
    rw [String.toList_append, Nat.toList_repr]
    rfl

theorem toDigits_cons (n : Nat) :
    ∃ c rest, Nat.toDigits 10 n = c :: rest ∧ ∀ d ∈ c :: rest, d.isDigit = true := by
  obtain ⟨c, rest, same⟩ := List.exists_cons_of_ne_nil (Nat.toDigits_ne_nil (n := n) (b := 10))
  exact ⟨c, rest, same, same ▸ fun _ => isDigit_toDigits⟩

theorem sign_digit {c : Char} (digit : c.isDigit = true) (rest : List Char) :
    sign (c :: rest) = (false, c :: rest) := by
  unfold sign
  split
  case h_1 same =>
    cases same
    exact absurd digit (by decide)
  case h_2 same =>
    cases same
    exact absurd digit (by decide)
  case h_3 => rfl

/-- The numeral of an integer is read as the integer. -/
theorem int?_toString (n : Int) : int? (toString n).toList = some n := by
  have read (m : Nat) : ((Nat.toDigits 10 m).isEmpty ||
      (Nat.toDigits 10 m).any fun c => !c.isDigit) = false := by
    rw [List.isEmpty_eq_false_iff.mpr Nat.toDigits_ne_nil, Bool.false_or]
    exact List.any_eq_false.mpr fun c member => by simp [isDigit_toDigits member]
  obtain ⟨m, rfl, text⟩ | ⟨m, rfl, text⟩ := toList_toString n
  · obtain ⟨c, rest, same, all⟩ := toDigits_cons m
    rw [text, int?, same, sign_digit (all c List.mem_cons_self), ← same]
    simp only [read, digitsValue_toDigits]
    rfl
  · rw [text, int?, sign]
    simp only [read, digitsValue_toDigits]
    rfl

end TickScript.Literal
