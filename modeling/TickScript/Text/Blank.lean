/-! White space, as the character property of that name lists it, and text
without white space or a mark of the byte order at its ends. -/
namespace TickScript.Text

/-- The characters with the white space property. -/
def isBlank (c : Char) : Bool :=
  let n := c.toNat
  (0x9 ≤ n && n ≤ 0xd) || n == 0x20 || n == 0x85 || n == 0xa0 || n == 0x1680 ||
    (0x2000 ≤ n && n ≤ 0x200a) || n == 0x2028 || n == 0x2029 || n == 0x202f || n == 0x205f ||
    n == 0x3000

def trimStart (text : List Char) : List Char := text.dropWhile isBlank

def trimEnd (text : List Char) : List Char := (text.reverse.dropWhile isBlank).reverse

/-- The text without blanks at its start and end. -/
def trim (text : List Char) : List Char := trimEnd (trimStart text)

/-- The text without a mark of the byte order in front. -/
def withoutMark : List Char → List Char
  | '\ufeff' :: rest => rest
  | text => text

end TickScript.Text
