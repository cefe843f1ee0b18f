import TickScript.Breakdown
import TickScript.Json.Printer

/-! Writing text as TOML strings, in the form that needs the fewest escapes. -/
namespace TickScript.Toml

/-- Control characters that only an escape can stand for. -/
def needsCode (c : Char) : Bool :=
  (c.toNat ≤ 0x1f && c != '\t' && c != '\n') || c == '\x7f'

/-- The length of the longest run of a character, one of them just before the text counted as
`run`. -/
def longestRun (quote : Char) (run : Nat) : List Char → Nat
  | [] => run
  | c :: rest =>
    if c = quote then longestRun quote (run + 1) rest else max run (longestRun quote 0 rest)

/-- The forms of strings: with escapes in double quotes or as they are in single quotes, on one line
or in triple quotes on several. -/
structure StringForm where
  quote : Char
  triple : Bool
  deriving DecidableEq, Repr

namespace StringForm

def escapes (form : StringForm) : Bool := form.quote == '"'

/-- Whether the form can hold a text as it is. -/
def fits (form : StringForm) (text : List Char) : Bool :=
  !text.any needsCode && !(form.escapes && text.contains '\\') &&
    longestRun form.quote 0 text ≤ (if form.triple then 2 else 0) &&
    (form.triple || !text.contains '\n')

/-- The forms in order of preference. -/
def all : List StringForm := [⟨'"', false⟩, ⟨'\'', false⟩, ⟨'"', true⟩, ⟨'\'', true⟩]

/-- The first form that can hold a text as it is, or else one with escapes. -/
def choose (text : List Char) : StringForm :=
  (all.find? fun form => form.fits text).getD ⟨'"', text.contains '\n'⟩

/-- The escape of a character that cannot stand as it is in double quotes. -/
def escape? (form : StringForm) (c : Char) : Option (List Char) :=
  match c with
  | '\x08' => some ['\\', 'b']
  | '\t' => some ['\\', 't']
  | '\n' => if form.triple then none else some ['\\', 'n']
  | '\x0c' => some ['\\', 'f']
  | '\r' => some ['\\', 'r']
  | '\\' => some ['\\', '\\']
  | c =>
    if needsCode c then some (['\\', 'u'] ++ (Json.hexDigits 4 c.toNat).map Char.toUpper) else none

/-- The characters of a text between double quotes. `run` quotes stand just before it; in triple
quotes every third one in a row is escaped, elsewhere every one. -/
def body (form : StringForm) (run : Nat) : List Char → List Char
  | [] => []
  | c :: rest =>
    if c = '"' then
      if form.triple ∧ run < 2 then c :: body form (run + 1) rest
      else '\\' :: c :: body form 0 rest
    else (form.escape? c).getD [c] ++ body form 0 rest

def write (form : StringForm) (text : List Char) : List Char :=
  let delimiter := List.replicate (if form.triple then 3 else 1) form.quote
  let firstBreak := if form.triple ∧ text.contains '\n' then ['\n'] else []
  delimiter ++ firstBreak ++ (if form.escapes then form.body 0 text else text) ++ delimiter

end StringForm

/-- More quotes of a kind than this in a row cannot be counted. -/
def maxRun : Nat := 255

def quoted (text : String) : Except Breakdown String :=
  let chars := text.toList
  if longestRun '\'' 0 chars ≤ maxRun ∧ longestRun '"' 0 chars ≤ maxRun then
    .ok (String.ofList ((StringForm.choose chars).write chars))
  else .error .quotesOverflow

end TickScript.Toml
