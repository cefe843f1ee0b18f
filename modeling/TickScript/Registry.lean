import TickScript.Table
import TickScript.Fault

/-! The handlers of command names. A name has the handler that was written last. -/
namespace TickScript

/-- The handler of every command name that has one. -/
abbrev Registry (η : Type) := Table η

namespace Registry

variable {η : Type}

/-- Registers a handler under a name and gives back the one it displaces. -/
def register (registry : Registry η) (name : String) (handler : η) : Option η × Registry η :=
  (registry.get? name, registry.insert name handler)

/-- The handler of a name; a name without one is an error. -/
def resolve (registry : Registry η) (name : String) : Except ScriptError η :=
  match registry.get? name with
  | some handler => .ok handler
  | none => .error (.resolution name)

def describe (registry : Registry η) : String :=
  "CommandRegistry \x7b commands: " ++ Text.quotedList registry.names ++ " \x7d"

end Registry
end TickScript
