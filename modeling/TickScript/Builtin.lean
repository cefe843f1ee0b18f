import TickScript.Registry

/-! The commands that every interpreter knows: functions of their arguments, and
`wait`, which lasts. -/
namespace TickScript

/-- The built-in commands that are functions of their arguments. -/
inductive Operation
  | eq | neq | or | and | gt | ge | lt | le
  | max | min | sum | diff
  | print
  deriving DecidableEq, Repr

namespace Operation

def name : Operation → String
  | eq => "eq"
  | neq => "neq"
  | or => "or"
  | and => "and"
  | gt => ">"
  | ge => ">="
  | lt => "<"
  | le => "<="
  | max => "max"
  | min => "min"
  | sum => "sum"
  | diff => "diff"
  | print => "print"

def all : List Operation := [eq, neq, or, and, gt, ge, lt, le, max, min, sum, diff, print]

def ofName? (name : String) : Option Operation := all.find? fun op => op.name == name

end Operation

inductive Builtin
  | operation (op : Operation)
  | wait
  deriving DecidableEq, Repr

namespace Builtin

def name : Builtin → String
  | operation op => op.name
  | wait => "wait"

def all : List Builtin := Operation.all.map operation ++ [wait]

def ofName? (name : String) : Option Builtin := all.find? fun builtin => builtin.name == name

end Builtin

namespace Registry

variable {η : Type}

/-- Writes the built-in commands under their names, over whatever is registered there. -/
def reset (registry : Registry (Builtin ⊕ η)) : Registry (Builtin ⊕ η) :=
  registry.insertAll (Builtin.all.map fun builtin => (builtin.name, .inl builtin))

def builtins : Registry (Builtin ⊕ η) := reset Table.empty

end Registry
end TickScript
