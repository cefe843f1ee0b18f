import TickScript.Json
import TickScript.Decimal.Literal

/-! Reading JSON text. Objects keep their fields as written, repeated keys
included. Lists and objects may be nested 127 deep. -/
namespace TickScript.Json

/-- White space between the tokens of a document. -/
def isSpace (c : Char) : Bool := c == ' ' || c == '\t' || c == '\n' || c == '\r'

def skipSpace (text : List Char) : List Char := text.dropWhile isSpace

def word? (word : List Char) (text : List Char) : Option (List Char) :=
  if word.isPrefixOf text then some (text.drop word.length) else none

/-! ### Numbers -/

/-- Takes digits into a 64-bit significand and stops before the digit that would not fit. -/
def significand (acc : Nat) : List Char → Nat × List Char
  | [] => (acc, [])
  | c :: rest =>
    let next := acc * 10 + (c.toNat - '0'.toNat)
    if next < UInt64.size then significand next rest else (acc, c :: rest)

/-- Scales a significand by a power of ten in binary64 arithmetic, by at most 10^308 at a time.
Leaving the finite range is an error. -/
def scale? (steps : Nat) (x : Binary64) (exponent : Int) : Option Binary64 :=
  if exponent.natAbs ≤ 308 then
    if 0 ≤ exponent then
      let scaled := x.mul (.ofDecimal false 1 exponent)
      if scaled.isInfinite then none else some scaled
    else some (x.div (.ofDecimal false 1 (-exponent)))
  else if x.isZero then some x
  else if 0 ≤ exponent then none
  else match steps with
    | 0 => some (.zero false)
    | steps + 1 => scale? steps (x.div (.ofDecimal false 1 308)) (exponent + 308)

/-- The parts of a spelling: the digits before and after the point, and the exponent. -/
structure Numeral where
  negative : Bool
  whole : List Char
  fraction : Option (List Char)
  exponent : Option Int

/-- The number of a spelling. Digits that do not fit the significand are dropped. -/
def Numeral.toNumber? (numeral : Numeral) : Option Json :=
  let (kept, dropped) := significand 0 numeral.whole
  match numeral.fraction, numeral.exponent, dropped with
  | none, none, [] =>
    if !numeral.negative then some (.int kept)
    else if 0 < kept ∧ kept ≤ 9223372036854775808 then some (.int (-kept))
    else some (.float (Binary64.ofNat kept).neg)
  | _, _, _ =>
    let places := numeral.fraction.getD []
    let (kept, unread) := significand kept places
    let taken : Int := places.length - unread.length
    let power := dropped.length - taken + numeral.exponent.getD 0
    (scale? 8 (.ofNat kept) power).map fun x => .float (if numeral.negative then x.neg else x)

/-- The digits before the point: no zero in front of others. -/
def wholeDigits? (text : List Char) : Option (List Char × List Char) :=
  match text.takeWhile Char.isDigit, text.dropWhile Char.isDigit with
  | [], _ => none
  | '0' :: _ :: _, _ => none
  | digits, rest => some (digits, rest)

/-- A point and at least one digit, or nothing. -/
def fraction? : List Char → Option (Option (List Char) × List Char)
  | '.' :: text =>
    match text.takeWhile Char.isDigit, text.dropWhile Char.isDigit with
    | [], _ => none
    | digits, rest => some (some digits, rest)
  | text => some (none, text)

/-- An exponent mark, an optional sign and at least one digit, or nothing. -/
def exponent? : List Char → Option (Option Int × List Char)
  | [] => some (none, [])
  | c :: text =>
    if c = 'e' ∨ c = 'E' then
      let (negative, text) := Literal.sign text
      match text.takeWhile Char.isDigit, text.dropWhile Char.isDigit with
      | [], _ => none
      | digits, rest =>
        let size : Int := Literal.digitsValue digits
        some (some (if negative then -size else size), rest)
    else some (none, c :: text)

def numeral? (text : List Char) : Option (Numeral × List Char) := do
  let (negative, text) := match text with
    | '-' :: rest => (true, rest)
    | other => (false, other)
  let (whole, text) ← wholeDigits? text
  let (fraction, text) ← fraction? text
  let (exponent, text) ← exponent? text
  some ({ negative, whole, fraction, exponent }, text)

def readNumber? (text : List Char) : Option (Json × List Char) := do
  let (numeral, text) ← numeral? text
  let number ← numeral.toNumber?
  some (number, text)

/-! ### Strings -/

def hexValue? (c : Char) : Option Nat :=
  if c.isDigit then some (c.toNat - '0'.toNat)
  else if 'a' ≤ c ∧ c ≤ 'f' then some (c.toNat - 'a'.toNat + 10)
  else if 'A' ≤ c ∧ c ≤ 'F' then some (c.toNat - 'A'.toNat + 10)
  else none

def unit? : List Char → Option (Nat × List Char)
  | a :: b :: c :: d :: rest => do
    let a ← hexValue? a
    let b ← hexValue? b
    let c ← hexValue? c
    let d ← hexValue? d
    some (((a * 16 + b) * 16 + c) * 16 + d, rest)
  | _ => none

/-- The character of a `\u` escape. The two halves of a pair have to stand together. -/
def escapedUnit? (text : List Char) : Option (Char × List Char) := do
  let (high, text) ← unit? text
  if 0xd800 ≤ high ∧ high < 0xdc00 then
    match text with
    | '\\' :: 'u' :: text =>
      let (low, text) ← unit? text
      if 0xdc00 ≤ low ∧ low < 0xe000 then
        some (Char.ofNat (0x10000 + (high - 0xd800) * 0x400 + (low - 0xdc00)), text)
      else none
    | _ => none
  else if 0xdc00 ≤ high ∧ high < 0xe000 then none
  else some (Char.ofNat high, text)

def escaped? : List Char → Option (Char × List Char)
  | '"' :: rest => some ('"', rest)
  | '\\' :: rest => some ('\\', rest)
  | '/' :: rest => some ('/', rest)
  | 'b' :: rest => some ('\x08', rest)
  | 'f' :: rest => some ('\x0c', rest)
  | 'n' :: rest => some ('\n', rest)
  | 'r' :: rest => some ('\r', rest)
  | 't' :: rest => some ('\t', rest)
  | 'u' :: rest => escapedUnit? rest
  | _ => none

/-- The rest of a string after its opening quote; every step takes at least one character. -/
def readString? : Nat → List Char → List Char → Option (String × List Char)
  | 0, _, _ => none
  | _ + 1, _, [] => none
  | steps + 1, acc, c :: rest =>
    if c = '"' then some (String.ofList acc.reverse, rest)
    else if c = '\\' then
      match escaped? rest with
      | some (escaped, rest) => readString? steps (escaped :: acc) rest
      | none => none
    else if c.toNat < 0x20 then none
    else readString? steps (c :: acc) rest

def string? (text : List Char) : Option (String × List Char) :=
  readString? (text.length + 1) [] text

/-! ### Documents -/

mutual

/-- One document at the front of a text. The steps bound the characters taken, the depth the lists
and objects that may still be opened. -/
def readValue? : Nat → Nat → List Char → Option (Json × List Char)
  | 0, _, _ => none
  | steps + 1, depth, text =>
    match skipSpace text with
    | [] => none
    | '"' :: rest => (string? rest).map fun (s, rest) => (.str s, rest)
    | '[' :: rest =>
      match depth with
      | 0 => none
      | depth + 1 =>
        match skipSpace rest with
        | ']' :: rest => some (.list [], rest)
        | rest => (readItems? steps depth rest).map fun (items, rest) => (.list items, rest)
    | '\x7b' :: rest =>
      match depth with
      | 0 => none
      | depth + 1 =>
        match skipSpace rest with
        | '\x7d' :: rest => some (.object [], rest)
        | rest => (readFields? steps depth rest).map fun (fields, rest) => (.object fields, rest)
    | 'n' :: rest => (word? ['u', 'l', 'l'] rest).map (.null, ·)
    | 't' :: rest => (word? ['r', 'u', 'e'] rest).map (.bool true, ·)
    | 'f' :: rest => (word? ['a', 'l', 's', 'e'] rest).map (.bool false, ·)
    | text => readNumber? text

/-- The items of a list up to its closing bracket. -/
def readItems? : Nat → Nat → List Char → Option (List Json × List Char)
  | 0, _, _ => none
  | steps + 1, depth, text => do
    let (item, text) ← readValue? steps depth text
    match skipSpace text with
    | ',' :: text =>
      let (items, text) ← readItems? steps depth text
      some (item :: items, text)
    | ']' :: text => some ([item], text)
    | _ => none

/-- The fields of an object up to its closing brace. -/
def readFields? : Nat → Nat → List Char → Option (List (String × Json) × List Char)
  | 0, _, _ => none
  | steps + 1, depth, text =>
    match skipSpace text with
    | '"' :: text => do
      let (key, text) ← string? text
      match skipSpace text with
      | ':' :: text =>
        let (value, text) ← readValue? steps depth text
        match skipSpace text with
        | ',' :: text =>
          let (fields, text) ← readFields? steps depth text
          some ((key, value) :: fields, text)
        | '\x7d' :: text => some ([(key, value)], text)
        | _ => none
      | _ => none
    | _ => none

end

/-- How deep lists and objects may be nested. -/
def maxDepth : Nat := 127

/-- The document at the front of a text, and what stands after it. -/
def readFront? (text : List Char) : Option (Json × List Char) :=
  readValue? (2 * text.length + 2) maxDepth text

/-- The document that makes up a whole text. -/
def read? (text : String) : Option Json := do
  let (document, rest) ← readFront? text.toList
  if (skipSpace rest).isEmpty then some document else none

end TickScript.Json
