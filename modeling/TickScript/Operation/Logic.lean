import TickScript.Host
import TickScript.Value.Order

/-! Equality, choice and order of two values. -/
namespace TickScript

namespace Invocation

/-- The two arguments of a command that takes two. -/
def pair (call : Invocation) : Except ScriptError (Value × Value) :=
  match call.args with
  | [x, y] => .ok (x, y)
  | args => .error (.wrongCount call.name "2" args.length)

end Invocation

namespace Operation

def equal (call : Invocation) : Except ScriptError Value := do
  let (x, y) ← call.pair
  .ok (.bool (x.same y))

def unequal (call : Invocation) : Except ScriptError Value := do
  let (x, y) ← call.pair
  .ok (.bool (!x.same y))

/-- The first value if it holds, else the second. -/
def either (call : Invocation) : Except ScriptError Value := do
  let (x, y) ← call.pair
  .ok (if x.holds then x else y)

/-- The second value if the first holds, else the first. -/
def both (call : Invocation) : Except ScriptError Value := do
  let (x, y) ← call.pair
  .ok (if x.holds then y else x)

/-- The error of two values that have no order. -/
def incomparable (command : String) (x y : Value) : ScriptError :=
  .wrongType command ("cannot compare " ++ x.kind.name ++ " with " ++ y.kind.name)

/-- Whether the order of the two arguments is an accepted one. -/
def ordered (accept : Ordering → Bool) (call : Invocation) : Except ScriptError Value := do
  let (x, y) ← call.pair
  match x.order y with
  | some order => .ok (.bool (accept order))
  | none => .error (incomparable call.name x y)

end Operation
end TickScript
