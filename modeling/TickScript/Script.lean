import TickScript.Value

/-! Scripts: commands in order, with expressions for their arguments. An
expression may be a command in turn, nested to any depth. -/
namespace TickScript

mutual

/-- A command to be carried out. The keyword form adds named arguments, a guard without which the
command is skipped, and a name that receives the command's value. -/
inductive Command
  | positional (name : String) (args : List Expr)
  | keyword (name : String) (args : List Expr) (named : List (String × Expr))
      (guard : Option Expr) (binding : Option String)

/-- What an argument is computed from: a literal, a name or a nested command. -/
inductive Expr
  | lit (value : Value)
  | name (name : String)
  | call (command : Command)

end

instance : Inhabited Command := ⟨.positional "" []⟩

instance : Inhabited Expr := ⟨.lit .null⟩

namespace Command

def name : Command → String
  | .positional name _ => name
  | .keyword name .. => name

def args : Command → List Expr
  | .positional _ args => args
  | .keyword _ args .. => args

def named : Command → List (String × Expr)
  | .positional .. => []
  | .keyword _ _ named .. => named

def guard : Command → Option Expr
  | .positional .. => none
  | .keyword _ _ _ guard _ => guard

def binding : Command → Option String
  | .positional .. => none
  | .keyword _ _ _ _ binding => binding

end Command

/-- The commands of a script, in order and without comments. -/
structure Script where
  commands : List Command
  deriving Inhabited

namespace Script

def size (script : Script) : Nat := script.commands.length

def isEmpty (script : Script) : Bool := script.commands.isEmpty

def get? (script : Script) (index : Nat) : Option Command := script.commands[index]?

end Script
end TickScript
