import TickScript.Toml.Moment
import TickScript.Json.Reader
import TickScript.Text.Blank

/-! Reading TOML text. -/
namespace TickScript.Toml

def isBlank (c : Char) : Bool := c == ' ' || c == '\t'

def skipBlanks (text : List Char) : List Char := text.dropWhile isBlank

/-- Characters that may stand in comments and strings as they are. -/
def isPlain (c : Char) : Bool := c == '\t' || (0x20 ≤ c.toNat && c.toNat != 0x7f)

def newline? : List Char → Option (List Char)
  | '\n' :: rest => some rest
  | '\r' :: '\n' :: rest => some rest
  | _ => none

/-- Passes over a comment, if there is one. -/
def skipComment : List Char → List Char
  | '#' :: rest => rest.dropWhile isPlain
  | text => text

/-- Passes over blanks and a comment up to the end of the line or of the text. -/
def lineEnd? (text : List Char) : Option (List Char) :=
  match skipComment (skipBlanks text) with
  | [] => some []
  | rest => newline? rest

def skipLines : Nat → List Char → List Char
  | 0, text => text
  | steps + 1, text =>
    let text := skipComment (skipBlanks text)
    match newline? text with
    | some rest => skipLines steps rest
    | none => text

/-! ### Strings -/

/-- Exactly `count` hexadecimal digits that stand for a character. -/
def unicode? (count : Nat) (text : List Char) : Option (Char × List Char) := do
  let digits ← (text.take count).mapM Json.hexValue?
  let n := digits.foldl (fun n d => n * 16 + d) 0
  if digits.length = count ∧ (n < 0xd800 ∨ (0xe000 ≤ n ∧ n < 0x110000)) then
    some (Char.ofNat n, text.drop count)
  else none

/-- The character of an escape after its backslash. -/
def escape? : List Char → Option (Char × List Char)
  | '"' :: rest => some ('"', rest)
  | '\\' :: rest => some ('\\', rest)
  | 'b' :: rest => some ('\x08', rest)
  | 't' :: rest => some ('\t', rest)
  | 'n' :: rest => some ('\n', rest)
  | 'f' :: rest => some ('\x0c', rest)
  | 'r' :: rest => some ('\r', rest)
  | 'u' :: rest => unicode? 4 rest
  | 'U' :: rest => unicode? 8 rest
  | _ => none

/-- The rest of a string in double quotes after the first. -/
def basic? : Nat → List Char → List Char → Option (String × List Char)
  | 0, _, _ => none
  | _ + 1, _, [] => none
  | steps + 1, acc, c :: rest =>
    if c = '"' then some (String.ofList acc.reverse, rest)
    else if c = '\\' then
      match escape? rest with
      | some (escaped, rest) => basic? steps (escaped :: acc) rest
      | none => none
    else if isPlain c then basic? steps (c :: acc) rest
    else none

/-- The rest of a string in single quotes after the first. -/
def literal? (text : List Char) : Option (String × List Char) :=
  let content := text.takeWhile fun c => isPlain c && c != '\''
  match text.drop content.length with
  | '\'' :: rest => some (String.ofList content, rest)
  | _ => none

def quotes (quote : Char) (text : List Char) : Nat := (text.takeWhile (· == quote)).length

def skipSpace : Nat → List Char → List Char
  | 0, text => text
  | steps + 1, text =>
    let text := skipBlanks text
    match newline? text with
    | some rest => skipSpace steps rest
    | none => text

/-- Passes over a line end and all blanks and line ends after it, as a backslash at the end of a
line asks for. -/
def skipBreak? (text : List Char) : Option (List Char) :=
  (newline? (skipBlanks text)).map fun rest => skipSpace (rest.length + 1) rest

/-- The rest of a string of several lines after its opening quotes. Three quotes end it; up to two
more in front of them belong to the string. -/
def multiline? (quote : Char) (escapes : Bool) : Nat → List Char → List Char →
    Option (String × List Char)
  | 0, _, _ => none
  | _ + 1, _, [] => none
  | steps + 1, acc, c :: rest =>
    if c = quote then
      let count := quotes quote (c :: rest)
      if count < 3 then multiline? quote escapes steps (c :: acc) rest
      else
        let kept := min (count - 3) 2
        some (String.ofList (List.replicate kept quote ++ acc).reverse,
          (c :: rest).drop (kept + 3))
    else if escapes && c == '\\' then
      match escape? rest with
      | some (escaped, rest) => multiline? quote escapes steps (escaped :: acc) rest
      | none =>
        match skipBreak? rest with
        | some rest => multiline? quote escapes steps acc rest
        | none => none
    else
      match newline? (c :: rest) with
      | some rest => multiline? quote escapes steps ('\n' :: acc) rest
      | none => if isPlain c then multiline? quote escapes steps (c :: acc) rest else none

/-- A line end right after the opening quotes is not part of the string. -/
def multilineBody? (quote : Char) (escapes : Bool) (text : List Char) :
    Option (String × List Char) :=
  let text := (newline? text).getD text
  multiline? quote escapes (text.length + 1) [] text

def string? : List Char → Option (String × List Char)
  | '"' :: '"' :: '"' :: rest => multilineBody? '"' true rest
  | '\'' :: '\'' :: '\'' :: rest => multilineBody? '\'' false rest
  | '"' :: rest => basic? (rest.length + 1) [] rest
  | '\'' :: rest => literal? rest
  | _ => none

/-! ### Keys -/

def isKeyChar (c : Char) : Bool := c.isAlphanum || c == '_' || c == '-'

/-- One part of a key: bare or in quotes on one line. -/
def keyPart? : List Char → Option (String × List Char)
  | '"' :: rest => basic? (rest.length + 1) [] rest
  | '\'' :: rest => literal? rest
  | text =>
    let bare := text.takeWhile isKeyChar
    if bare.isEmpty then none else some (String.ofList bare, text.drop bare.length)

/-- The parts of a key with dots between them and blanks around them. -/
def key? : Nat → List Char → Option (List String × List Char)
  | 0, _ => none
  | steps + 1, text => do
    let (part, text) ← keyPart? (skipBlanks text)
    match skipBlanks text with
    | '.' :: text =>
      let (parts, text) ← key? steps text
      some (part :: parts, text)
    | text => some ([part], text)

/-- The number of parts that no key has. -/
def maxParts : Nat := 80

def keyPath? (text : List Char) : Option (List String × List Char) := do
  let (path, text) ← key? (text.length + 1) text
  if path.length < maxParts then some (path, text) else none

/-! ### Numbers -/

/-- Digits of a class with single underscores between them, at least one. -/
def grouped? (isDigit : Char → Bool) : List Char → Option (List Char × List Char)
  | [] => none
  | c :: rest =>
    if isDigit c then
      match rest with
      | '_' :: after =>
        match grouped? isDigit after with
        | some (digits, rest) => some (c :: digits, rest)
        | none => none
      | rest =>
        match grouped? isDigit rest with
        | some (digits, rest) => some (c :: digits, rest)
        | none => some ([c], rest)
    else none

/-- Decimal digits without a zero in front of others. -/
def whole? : List Char → Option (List Char × List Char)
  | '0' :: rest => some (['0'], rest)
  | text => grouped? Char.isDigit text

/-- An integer that fits 64 bits with a sign. -/
def fitted? (n : Int) : Option Toml :=
  if Literal.isInt64 n then some (.int n) else none

/-- An integer to the base of its mark. -/
def based? (base : Nat) (isDigit : Char → Bool) (text : List Char) : Option (Toml × List Char) := do
  let (digits, rest) ← grouped? isDigit text
  let value := digits.foldl (fun n c => n * base + (Json.hexValue? c).getD 0) 0
  let number ← fitted? value
  some (number, rest)

/-- The exponent of a float: digits after an optional sign, or nothing if there is no mark. -/
def power? : List Char → Option (Option Int × List Char)
  | [] => some (none, [])
  | c :: text =>
    if c = 'e' ∨ c = 'E' then do
      let (negative, text) := Literal.sign text
      let (digits, rest) ← grouped? Char.isDigit text
      let size : Int := Literal.digitsValue digits
      some (some (if negative then -size else size), rest)
    else some (none, c :: text)

/-- A decimal integer or float after its sign. -/
def decimal? (negative : Bool) (text : List Char) : Option (Toml × List Char) := do
  let (whole, text) ← whole? text
  let (fraction, text) ← match text with
    | '.' :: after => (grouped? Char.isDigit after).map fun (digits, rest) => (some digits, rest)
    | text => some (none, text)
  let (power, text) ← power? text
  match fraction, power with
  | none, none =>
    let size : Int := Literal.digitsValue whole
    let number ← fitted? (if negative then -size else size)
    some (number, text)
  | _, _ =>
    let places := fraction.getD []
    let x := Binary64.ofDecimal negative (Literal.digitsValue (whole ++ places))
      (power.getD 0 - places.length)
    if x.isInfinite && !x.negative then none else some (.float x, text)

/-- A number without sign, point or exponent in another base, or a number with an optional sign. -/
def number? (text : List Char) : Option (Toml × List Char) :=
  match text with
  | '0' :: 'x' :: rest => based? 16 (fun c => (Json.hexValue? c).isSome) rest
  | '0' :: 'o' :: rest => based? 8 (fun c => '0' ≤ c && c ≤ '7') rest
  | '0' :: 'b' :: rest => based? 2 (fun c => c == '0' || c == '1') rest
  | text =>
    let (negative, text) := Literal.sign text
    match text with
    | 'i' :: 'n' :: 'f' :: rest => some (.float (.infinity negative), rest)
    | 'n' :: 'a' :: 'n' :: rest => some (.float { Binary64.nan with negative }, rest)
    | text => decimal? negative text

/-! ### Values -/

/-- How deep lists and tables within values may be nested. -/
def maxDepth : Nat := 79

/-- A value that is neither a list nor a table. -/
def scalar? (text : List Char) : Option (Toml × List Char) :=
  match text with
  | [] => none
  | 't' :: rest => (Json.word? ['r', 'u', 'e'] rest).map (.bool true, ·)
  | 'f' :: rest => (Json.word? ['a', 'l', 's', 'e'] rest).map (.bool false, ·)
  | c :: _ =>
    if c = '"' ∨ c = '\'' then (string? text).map fun (s, rest) => (.str s, rest)
    else match moment? text with
      | some found => some found
      | none => number? text

mutual

/-- A value at the front of a text. -/
def value? : Nat → Nat → List Char → Option (Toml × List Char)
  | 0, _, _ => none
  | steps + 1, depth, text =>
    match text, depth with
    | '[' :: rest, depth + 1 =>
      (items? steps depth (skipLines steps rest)).map fun (items, rest) => (.array items, rest)
    | '\x7b' :: rest, depth + 1 =>
      match skipBlanks rest with
      | '\x7d' :: rest => some (.table [], rest)
      | rest =>
        match fields? steps depth (.opened, []) rest with
        | some ((_, fields), rest) => some (.table (Node.toFields fields), rest)
        | none => none
    | '[' :: _, 0 => none
    | '\x7b' :: _, 0 => none
    | text, _ => scalar? text

/-- The items of a list up to its closing bracket; a comma may stand before it. -/
def items? : Nat → Nat → List Char → Option (List Toml × List Char)
  | 0, _, _ => none
  | steps + 1, depth, text =>
    match text with
    | ']' :: rest => some ([], rest)
    | text => do
      let (item, rest) ← value? steps depth text
      match skipLines steps rest with
      | ',' :: rest =>
        let (others, rest) ← items? steps depth (skipLines steps rest)
        some (item :: others, rest)
      | ']' :: rest => some ([item], rest)
      | _ => none

/-- The fields of a table within a value, on one line. -/
def fields? : Nat → Nat → Draft → List Char → Option (Draft × List Char)
  | 0, _, _, _ => none
  | steps + 1, depth, draft, text => do
    let (path, text) ← keyPath? text
    match text with
    | '=' :: text =>
      let (value, text) ← value? steps depth (skipBlanks text)
      let draft ← setPath path value draft
      match skipBlanks text with
      | ',' :: text => fields? steps depth draft text
      | '\x7d' :: text => some (draft, text)
      | _ => none
    | _ => none

end

/-! ### Documents -/

/-- The lines of a document below the header read last. -/
def lines? : Nat → List String → Draft → List Char → Option Draft
  | 0, _, _, _ => none
  | steps + 1, header, draft, text =>
    match skipLines (text.length + 1) text with
    | [] => some draft
    | '[' :: '[' :: text => do
      let (path, text) ← keyPath? text
      match text with
      | ']' :: ']' :: text =>
        let text ← lineEnd? text
        let draft ← openHeader true path draft
        lines? steps path draft text
      | _ => none
    | '[' :: text => do
      let (path, text) ← keyPath? text
      match text with
      | ']' :: text =>
        let text ← lineEnd? text
        let draft ← openHeader false path draft
        lines? steps path draft text
      | _ => none
    | text => do
      let (path, text) ← keyPath? text
      match text with
      | '=' :: text =>
        let (value, text) ← value? (2 * text.length + 2) maxDepth (skipBlanks text)
        let text ← lineEnd? text
        let draft ← setUnder header path value draft
        lines? steps header draft text
      | _ => none

/-- The fields of a document; a mark of the byte order may stand before them. -/
def read? (text : String) : Option (List (String × Toml)) :=
  let text := Text.withoutMark text.toList
  (lines? (text.length + 1) [] (.opened, []) text).map fun (_, fields) => Node.toFields fields

end TickScript.Toml
