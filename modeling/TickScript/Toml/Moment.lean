import TickScript.Toml
import TickScript.Decimal.Literal

/-! Dates and times in TOML documents, and their normal spelling. -/
namespace TickScript.Toml

def digits? (count : Nat) (text : List Char) : Option (Nat × List Char) :=
  let front := text.take count
  if front.length = count && front.all Char.isDigit then
    some (Literal.digitsValue front, text.drop count)
  else none

def char? (c : Char) : List Char → Option (List Char)
  | [] => none
  | d :: rest => if c = d then some rest else none

def padded (width n : Nat) : List Char :=
  let digits := Nat.toDigits 10 n
  List.replicate (width - digits.length) '0' ++ digits

def isLeap (year : Nat) : Bool := year % 4 == 0 && (year % 100 != 0 || year % 400 == 0)

def daysIn (year month : Nat) : Nat :=
  if month = 2 then if isLeap year then 29 else 28
  else if month = 4 ∨ month = 6 ∨ month = 9 ∨ month = 11 then 30 else 31

/-- A date, in its normal spelling. -/
def date? (text : List Char) : Option (List Char × List Char) := do
  let (year, text) ← digits? 4 text
  let text ← char? '-' text
  let (month, text) ← digits? 2 text
  let text ← char? '-' text
  let (day, text) ← digits? 2 text
  if 1 ≤ month ∧ month ≤ 12 ∧ 1 ≤ day ∧ day ≤ daysIn year month then
    some (padded 4 year ++ '-' :: padded 2 month ++ '-' :: padded 2 day, text)
  else none

/-- The fraction of a second: at least one digit, of which nine count. -/
def fraction? : List Char → Option (List Char × List Char)
  | '.' :: text =>
    let digits := text.takeWhile Char.isDigit
    if digits.isEmpty then none
    else
      let kept := ((digits.take 9).reverse.dropWhile (· == '0')).reverse
      some (if kept.isEmpty then [] else '.' :: kept, text.dropWhile Char.isDigit)
  | text => some ([], text)

/-- A time of day, up to the given hour, in its normal spelling. -/
def clock? (maxHour : Nat) (text : List Char) : Option (List Char × List Char) := do
  let (hour, text) ← digits? 2 text
  let text ← char? ':' text
  let (minute, text) ← digits? 2 text
  let text ← char? ':' text
  let (second, text) ← digits? 2 text
  let (fraction, text) ← fraction? text
  if hour ≤ maxHour ∧ minute ≤ 59 ∧ second ≤ 60 then
    some (padded 2 hour ++ ':' :: padded 2 minute ++ ':' :: padded 2 second ++ fraction, text)
  else none

/-- A distance from universal time in minutes, in its normal spelling. -/
def offset (west : Bool) (minutes : Nat) : List Char :=
  (if west && minutes != 0 then '-' else '+') ::
    padded 2 (minutes / 60) ++ ':' :: padded 2 (minutes % 60)

/-- The distance from universal time, or none. Not every number of hours and minutes is allowed. -/
def offset? (allowed : Nat → Nat → Bool) (text : List Char) : Option (List Char × List Char) :=
  match text with
  | [] => some ([], [])
  | c :: rest =>
    if c = 'Z' ∨ c = 'z' then some (['Z'], rest)
    else if c = '+' ∨ c = '-' then do
      let (hours, rest) ← digits? 2 rest
      let rest ← char? ':' rest
      let (minutes, rest) ← digits? 2 rest
      if allowed hours minutes then some (offset (c == '-') (hours * 60 + minutes), rest) else none
    else some ([], text)

/-- Hours and minutes as a clock shows them. -/
def isClockOffset (hours minutes : Nat) : Bool := hours ≤ 23 && minutes ≤ 59

/-- Any hours and minutes up to a day. -/
def isDayOffset (hours minutes : Nat) : Bool := hours * 60 + minutes ≤ 1440

/-- A date, a time, or a date and a time with a mark or a blank between them. -/
def moment? (text : List Char) : Option (Toml × List Char) :=
  match date? text with
  | none => (clock? 23 text).map fun (clock, rest) => (.moment (String.ofList clock), rest)
  | some (date, rest) =>
    let day := some (Toml.moment (String.ofList date), rest)
    match rest with
    | mark :: after =>
      if mark = 'T' ∨ mark = 't' ∨ mark = ' ' then
        match clock? 23 after with
        | some (clock, after) =>
          (offset? isClockOffset after).map fun (offset, after) =>
            (.moment (String.ofList (date ++ 'T' :: clock ++ offset)), after)
        | none => if mark = ' ' then day else none
      else day
    | [] => day

/-- The time of day and the offset after a date. -/
def daytime? : List Char → Option (List Char × List Char)
  | mark :: text => do
    if mark = 'T' ∨ mark = 't' ∨ mark = ' ' then
      let (clock, text) ← clock? 24 text
      let (offset, text) ← offset? isDayOffset text
      some ('T' :: clock ++ offset, text)
    else some ([], mark :: text)
  | [] => some ([], [])

/-- The moment that makes up a whole text, in its normal spelling. The limits are wider here: a day
may have an hour 24, and an offset any hours and minutes up to a day. -/
def momentOf? (text : String) : Option String := do
  let text := text.toList
  let (spelling, rest) ←
    if text[2]? = some ':' then clock? 24 text
    else do
      let (date, text) ← date? text
      let (daytime, text) ← daytime? text
      some (date ++ daytime, text)
  if rest.isEmpty then some (String.ofList spelling) else none

end TickScript.Toml
