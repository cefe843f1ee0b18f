import TickScript.Json
import TickScript.Decimal.Numeral

/-! Compact JSON text: no blanks, the shortest digits of every number, and only
those characters escaped that have to be. -/
namespace TickScript.Json

/-- Numbers in JSON text are positional from 1e-5 up to below 1e16, whole ones with one zero after
the point, and nothing stands for values that are no finite numbers. -/
def numerals : NumeralStyle where
  tie := .even
  positional leading := -5 ≤ leading && leading < 16
  wholeEnding := ".0"
  notANumber := "null"
  infinite := "null"

def floatText (x : Binary64) : String := if x.isFinite then numerals.render x else "null"

def hexDigits (width n : Nat) : List Char :=
  let digits := Nat.toDigits 16 n
  List.replicate (width - digits.length) '0' ++ digits

def escapeChar (c : Char) : List Char :=
  if c = '"' then ['\\', '"']
  else if c = '\\' then ['\\', '\\']
  else if c = '\x08' then ['\\', 'b']
  else if c = '\t' then ['\\', 't']
  else if c = '\n' then ['\\', 'n']
  else if c = '\x0c' then ['\\', 'f']
  else if c = '\r' then ['\\', 'r']
  else if c.toNat < 0x20 then '\\' :: 'u' :: hexDigits 4 c.toNat
  else [c]

def stringText (s : String) : String :=
  String.ofList ('"' :: s.toList.flatMap escapeChar ++ ['"'])

mutual

def render : Json → String
  | .null => "null"
  | .bool true => "true"
  | .bool false => "false"
  | .int n => toString n
  | .float x => floatText x
  | .str s => stringText s
  | .list items => "[" ++ ",".intercalate (renderItems items) ++ "]"
  | .object fields => "\x7b" ++ ",".intercalate (renderFields fields) ++ "\x7d"

def renderItems : List Json → List String
  | [] => []
  | item :: rest => item.render :: renderItems rest

def renderFields : List (String × Json) → List String
  | [] => []
  | (key, value) :: rest => (stringText key ++ ":" ++ value.render) :: renderFields rest

end

end TickScript.Json
