import TickScript.Breakdown

/-! Environment variables in the order in which they were set. -/
namespace TickScript.Config

structure Environment where
  entries : List (String × String)
  deriving Inhabited

namespace Environment

/-- What follows a text at the front of another. -/
def after? : List Char → List Char → Option (List Char)
  | [], text => some text
  | c :: front, d :: text => if c = d then after? front text else none
  | _, [] => none

/-- The value of a variable. An entry is one text with an equals sign after the name, and the name
is looked for at its front, equals signs of its own included. -/
def get? (environment : Environment) (name : String) : Option String :=
  if name.isEmpty then none
  else environment.entries.findSome? fun (key, value) =>
    (after? (name ++ "=").toList (key ++ "=" ++ value).toList).map String.ofList

def contains (environment : Environment) (name : String) : Bool := (environment.get? name).isSome

/-- Sets a variable that is not set yet. -/
def add (environment : Environment) (name value : String) : Except Breakdown Environment :=
  if environment.contains name then .ok environment
  else if value.toList.contains '\x00' then .error (.nulInVariable name value)
  else .ok ⟨environment.entries ++ [(name, value)]⟩

end Environment
end TickScript.Config
