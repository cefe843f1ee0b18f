import TickScript.Table
import TickScript.Fault
import TickScript.Value
import TickScript.Decimal.Literal
import TickScript.Text.Blank

/-! The values bound to names while a script runs, and what a name in the place
of an argument stands for. -/
namespace TickScript

/-- The last value bound to each name. -/
abbrev Namespace := Table Value

namespace Namespace

/-- The names bound before a script starts. -/
def initial : Namespace := Table.ofList [("true", .bool true), ("false", .bool false)]

def unbound (name needed : String) : ScriptError :=
  .evaluation name ("variable '" ++ needed ++ "' is not bound")

/-- The value of text that is no bound name: an integer or a float if it is written as one, blanks
around it aside, else the text itself. -/
def literal (text : String) : Value :=
  let bare := Text.trim text.toList
  match (Literal.int? bare).bind fitInt64? with
  | some n => .int n
  | none =>
    match Literal.binary64? bare with
    | some x => .float x
    | none => .str text

/-- The value of a name: after a dollar sign a name has to be bound, elsewhere a name that is not
bound stands for itself. -/
def resolve (names : Namespace) (name : String) : Except ScriptError Value :=
  match name.toList with
  | '$' :: rest =>
    let needed := String.ofList rest
    match names.get? needed with
    | some value => .ok value
    | none => .error (unbound name needed)
  | _ => .ok ((names.get? name).getD (literal name))

end Namespace
end TickScript
