import TickScript.Event
import TickScript.Json.Printer
import TickScript.Text.Lower

/-! The lines of a log, and which events it shows. -/
namespace TickScript.Event

/-- The importance of a level; the least important events have the lowest. -/
def Level.importance : Level → Nat
  | trace => 0
  | debug => 1
  | info => 2
  | warn => 3

/-- The importance from which on a log of some level shows events. A word that names no level shows
as much as `info`. -/
def shownFrom (level : String) : Nat :=
  match Text.lower level with
  | "trace" => 0
  | "debug" => 1
  | "warn" => 3
  | "error" => 4
  | "off" => 5
  | _ => 2

def isShown (level : String) (event : Event) : Bool := shownFrom level ≤ event.level.importance

/-- An event in one line: its level, its message and its fields. -/
def line (event : Event) : String :=
  " ".intercalate (event.level.name :: event.message ::
    event.fields.map fun (name, value) => name ++ "=" ++ value.render)

end TickScript.Event
