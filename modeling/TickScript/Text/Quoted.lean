import TickScript.Text.Unprintable

/-! Text in double quotes as messages show it: quotes, backslashes and
characters that would not be seen are written as escapes. -/
namespace TickScript.Text

def escapeChar (c : Char) : List Char :=
  if c = '"' then ['\\', '"']
  else if c = '\\' then ['\\', '\\']
  else if c = '\n' then ['\\', 'n']
  else if c = '\r' then ['\\', 'r']
  else if c = '\t' then ['\\', 't']
  else if c = '\x00' then ['\\', '0']
  else if isUnprintable c then
    ['\\', 'u', '\x7b'] ++ Nat.toDigits 16 c.toNat ++ ['\x7d']
  else [c]

/-- The text between double quotes, with escapes. -/
def quoted (text : String) : String :=
  String.ofList ('"' :: text.toList.flatMap escapeChar ++ ['"'])

def escapePathChar (c : Char) : List Char := if c = '\'' then ['\\', c] else escapeChar c

/-- A path or a variable between double quotes, where single quotes are escaped as well. -/
def quotedPath (path : String) : String :=
  String.ofList ('"' :: path.toList.flatMap escapePathChar ++ ['"'])

def quotedList (texts : List String) : String :=
  "[" ++ ", ".intercalate (texts.map quoted) ++ "]"

end TickScript.Text
