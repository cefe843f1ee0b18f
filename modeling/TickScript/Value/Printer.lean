import TickScript.Value
import TickScript.Json.Printer

/-! The texts of values: as messages show them, and as JSON. -/
namespace TickScript.Value

/-- Numbers in messages are always positional, whole ones without a point. -/
def numerals : NumeralStyle where
  tie := .up
  positional _ := true
  wholeEnding := ""
  notANumber := "NaN"
  infinite := "inf"

mutual

/-- The text of a value in messages and printed lines. -/
def shown : Value → String
  | .null => "null"
  | .bool true => "true"
  | .bool false => "false"
  | .int n => toString n.toInt
  | .float x => numerals.render x
  | .str s => s
  | .list items => "[" ++ ", ".intercalate (shownItems items) ++ "]"

def shownItems : List Value → List String
  | [] => []
  | item :: rest => item.shown :: shownItems rest

end

mutual

/-- The value as a JSON document; floats that are no finite numbers become null. -/
def toJson : Value → Json
  | .null => .null
  | .bool b => .bool b
  | .int n => .int n.toInt
  | .float x => if x.isFinite then .float x else .null
  | .str s => .str s
  | .list items => .list (toJsonItems items)

def toJsonItems : List Value → List Json
  | [] => []
  | item :: rest => item.toJson :: toJsonItems rest

end

end TickScript.Value
