import TickScript.Config.Record
import TickScript.Text.Lower
import TickScript.Toml.Moment
import TickScript.Value.Printer

/-! Settings as they come from files and variables, before it is known what they
are settings of. Read as a configuration they are taken in the best sense: a text
may stand for a number, a number for a flag, and so on. -/
namespace TickScript.Config

inductive Raw
  | nothing
  | bool (b : Bool)
  | int (n : Int)
  | float (x : Binary64)
  | str (s : String)
  | list (items : List Raw)
  | table (fields : List (String × Raw))
  deriving Inhabited

namespace Raw

/-- The fields of a table; nothing else has any. -/
def fields : Raw → List (String × Raw)
  | .table fields => fields
  | _ => []

/-- The field of a name, whatever the case of its letters. -/
def field? (target : Raw) (name : String) : Option Raw := target.fields.lookup (Text.lower name)

/-- Writes a field. Names are written in lower case; what is no table becomes one. -/
def write (target : Raw) (name : String) (value : Raw) : Raw :=
  .table (Table.write (Text.lower name) value target.fields)

/-- The items of a list; nothing else has any. -/
def items : Raw → List Raw
  | .list items => items
  | _ => []

/-- A number below 2^64. Floats are rounded, and words for yes and no are one and zero. -/
def word? : Raw → Option Nat
  | .bool b => some b.toNat
  | .int n => if 0 ≤ n then some n.toNat else none
  | .float x => some x.toWord
  | .str s =>
    let word := Text.lower s
    if word ∈ ["true", "on", "yes"] then some 1
    else if word ∈ ["false", "off", "no"] then some 0
    else Literal.word? s.toList
  | _ => none

/-- A flag: a number is one if it is not zero. -/
def flag? : Raw → Option Bool
  | .bool b => some b
  | .int n => some (n != 0)
  | .float x => some (!x.isZero)
  | .str s =>
    let word := Text.lower s
    if word ∈ ["1", "true", "on", "yes"] then some true
    else if word ∈ ["0", "false", "off", "no"] then some false
    else none
  | _ => none

def text? : Raw → Option String
  | .bool b => some (if b then "true" else "false")
  | .int n => some (toString n)
  | .float x => some (Value.numerals.render x)
  | .str s => some s
  | _ => none

/-- A record is a table, or a list of its parts in order. -/
def parts? : Raw → Option (Nat → String → Option Raw)
  | .table fields => some fun _ name => fields.lookup name
  | .list items => some fun place _ => items[place]?
  | _ => none

def reading : Reading Raw := { parts?, word?, flag?, text? }

/-- A table whose first field has this name stands for the moment that the field's text spells. -/
def momentName : String := "$__toml_private_datetime"

mutual

def ofToml? : Toml → Option Raw
  | .str s => some (.str s)
  | .int n => some (.int n)
  | .float x => some (.float x)
  | .bool b => some (.bool b)
  | .moment text => some (.str text)
  | .array items => (ofItems? items).map .list
  | .table ((name, value) :: fields) =>
    if name = momentName then (value.text?.bind Toml.momentOf?).map .str
    else match ofToml? value, ofFields? fields with
      | some setting, some settings => some (.table ((name, setting) :: settings))
      | _, _ => none
  | .table [] => some (.table [])

def ofItems? : List Toml → Option (List Raw)
  | [] => some []
  | item :: rest =>
    match ofToml? item, ofItems? rest with
    | some setting, some settings => some (setting :: settings)
    | _, _ => none

def ofFields? : List (String × Toml) → Option (List (String × Raw))
  | [] => some []
  | (name, value) :: rest =>
    match ofToml? value, ofFields? rest with
    | some setting, some settings => some ((name, setting) :: settings)
    | _, _ => none

end

/-- The settings in a document, which cannot be a moment. -/
def ofDocument? (fields : List (String × Toml)) : Option (List (String × Raw)) :=
  if (fields.head?.any fun field => field.1 == momentName) then none else ofFields? fields

mutual

/-- Writes a value under a name. The fields of a table are written one by one into what is there. -/
def put (name : String) : Raw → Raw → Raw
  | .table incoming, target =>
    target.write name (putAll incoming ((target.field? name).getD (.table [])))
  | value, target => target.write name value

def putAll : List (String × Raw) → Raw → Raw
  | [], target => target
  | (name, value) :: rest, target => putAll rest (put name value target)

end

end Raw
end TickScript.Config
