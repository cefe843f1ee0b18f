import TickScript.Operation.Logic

/-! Sums, differences and extremes of values. Integers stay integers as long as
no float takes part, and leaving their range is an error. -/
namespace TickScript.Operation

def notNumbers (command : String) (x y : Value) : ScriptError :=
  .wrongType command ("expected numbers, got " ++ x.kind.name ++ " and " ++ y.kind.name)

def overflow (command : String) : ScriptError := .wrongType command "integer overflow"

/-- An integer result, if it is in range. -/
def fitted (command : String) (n : Int) : Except ScriptError Value :=
  match fitInt64? n with
  | some n => .ok (.int n)
  | none => .error (overflow command)

def addTo (command : String) : Value → Value → Except ScriptError Value
  | .int m, .int n => fitted command (m.toInt + n.toInt)
  | x, y =>
    match x.number?, y.number? with
    | some a, some b => .ok (.float (a.add b))
    | _, _ => .error (notNumbers command x y)

def addItems (command : String) : Value → List Value → Except ScriptError Value
  | total, [] => .ok total
  | total, item :: rest => do
    let total ← addTo command total item
    addItems command total rest

/-- The arguments with lists replaced by their items. -/
def flattened : List Value → List Value
  | [] => []
  | .list items :: rest => items ++ flattened rest
  | value :: rest => value :: flattened rest

/-- The sum of all arguments and of the items of lists among them, from left to right. -/
def total (call : Invocation) : Except ScriptError Value :=
  addItems call.name (.int 0) (flattened call.args)

def difference (call : Invocation) : Except ScriptError Value := do
  match ← call.pair with
  | (.int m, .int n) => fitted call.name (m.toInt - n.toInt)
  | (x, y) =>
    match x.number?, y.number? with
    | some a, some b => .ok (.float (a.sub b))
    | _, _ => .error (notNumbers call.name x y)

/-- The best of a value and others, where a better one stands to the best so far in the wanted
order. -/
def extremeFrom (command : String) (wanted : Ordering) :
    Value → List Value → Except ScriptError Value
  | best, [] => .ok best
  | best, candidate :: rest =>
    match candidate.order best with
    | none => .error (incomparable command candidate best)
    | some order => extremeFrom command wanted (if order = wanted then candidate else best) rest

/-- The values to choose from: the items of a list that is the only argument, else the arguments. -/
def candidates : List Value → List Value
  | [.list items] => items
  | args => args

def extreme (wanted : Ordering) (call : Invocation) : Except ScriptError Value :=
  match candidates call.args with
  | [] => .error (.wrongCount call.name "at least 1" 0)
  | first :: rest => extremeFrom call.name wanted first rest

end TickScript.Operation
