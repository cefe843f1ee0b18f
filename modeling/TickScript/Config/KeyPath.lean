import TickScript.Config.Raw

/-! Names of settings within settings: `runner.max_ticks`, `hosts[0].name`. -/
namespace TickScript.Config

/-- One step down into a table or a list; negative places count from the end of a list. -/
inductive KeyStep
  | field (name : String)
  | place (index : Int)
  deriving DecidableEq, Repr

abbrev KeyPath := List KeyStep

namespace KeyPath

def isNameChar (c : Char) : Bool := c.isAlphanum || c == '_' || c == '-' || c == ' '

def isSpace (c : Char) : Bool := c == ' ' || c == '\t'

/-- The index between brackets, with blanks around it. -/
def index? (text : List Char) : Option Int :=
  let text := (text.dropWhile isSpace).reverse.dropWhile isSpace |>.reverse
  match Literal.int? text with
  | some index => if Literal.isInt64 index && text.head? != some '+' then some index else none
  | none => none

def steps? : Nat → List Char → Option KeyPath
  | _, [] => some []
  | 0, _ => none
  | bound + 1, '.' :: rest =>
    let name := rest.takeWhile isNameChar
    if name.isEmpty then none
    else (steps? bound (rest.drop name.length)).map (.field (String.ofList name) :: ·)
  | bound + 1, '[' :: rest =>
    let inside := rest.takeWhile (· != ']')
    match index? inside, rest.drop inside.length with
    | some index, ']' :: rest => (steps? bound rest).map (.place index :: ·)
    | _, _ => none
  | _, _ => none

/-- A name, then names after dots and indices in brackets. -/
def read? (text : List Char) : Option KeyPath := steps? (text.length + 1) ('.' :: text)

/-- The path that a text names; a text that is no path is the name of a field itself. -/
def ofString (text : String) : KeyPath := (read? text.toList).getD [.field text]

end KeyPath

namespace Raw

/-- No list has as many items. -/
def listBound : Nat := 144115188075855872

/-- The place in a list of some length that an index means. A list grows up to a place beyond its
end, but nothing stands before its start. -/
def place (index : Int) (length : Nat) : Except Breakdown Nat :=
  if 0 ≤ index then
    if index + 1 < listBound then .ok index.toNat else .error .listTooLong
  else if -index ≤ length then .ok (length - index.natAbs)
  else .error .placeUnderflow

/-- Writes a value at the end of a path. What is on the way and is no table or list becomes one. -/
def set (value : Raw) : KeyPath → Raw → Except Breakdown Raw
  | [], _ => .ok value
  | [.field name], target => .ok (put name value target)
  | .field name :: path, target => do
    let inner ← set value path ((target.field? name).getD .nothing)
    .ok (target.write name inner)
  | .place index :: path, target => do
    let place ← place index target.items.length
    let missing := place + 1 - target.items.length
    let items := target.items ++ List.replicate missing .nothing
    let inner ← set value path ((items[place]?).getD .nothing)
    .ok (.list (items.set place inner))

/-- Writes settings by the texts of their paths, one after the other. -/
def setAll (settings : List (String × Raw)) (target : Raw) : Except Breakdown Raw :=
  settings.foldlM (fun target setting => set setting.2 (KeyPath.ofString setting.1) target) target

end Raw
end TickScript.Config
