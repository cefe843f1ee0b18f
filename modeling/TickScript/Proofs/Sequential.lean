import TickScript.Interpreter

/-! The plain meaning of a script whose commands are functions of their invocation:
each command in turn has its guard and its arguments evaluated, is applied, and has
its value bound. There are neither steps nor suspensions here. -/
namespace TickScript

/-- What a sequential run has come to: the bound names and the calls so far. -/
structure Trail (η : Type) where
  names : Namespace
  calls : List (η × Invocation) := []

def Trail.record {η : Type} (trail : Trail η) (handler : η) (invocation : Invocation)
    (binding : Option String) (value : Value) : Trail η where
  names := binding.elim trail.names (fun name => trail.names.insert name value)
  calls := trail.calls ++ [(handler, invocation)]

namespace Sequential

variable {η : Type}

/-- A sequential run stops at the first error. -/
abbrev Run (η α : Type) := StateT (Trail η) (Except ScriptError) α

variable (functions : η → Invocation → Except ScriptError Value) (registry : Registry η)

def apply (invocation : Invocation) (binding : Option String) : Run η Value := fun trail =>
  match registry.resolve invocation.name with
  | .error error => .error error
  | .ok handler =>
    match functions handler invocation with
    | .error error => .error error
    | .ok value => .ok (value, trail.record handler invocation binding value)

mutual

/-- The value of an expression. A nested command is carried out on the spot, and one that is skipped
is null. -/
def value : Expr → Run η Value
  | .lit value => pure value
  | .name name => fun trail => (trail.names.resolve name).map (·, trail)
  | .call command => do
    match ← invocation? command with
    | none => return .null
    | some invocation => apply functions registry invocation command.binding

/-- The evaluated arguments of a command, unless its guard does not hold. -/
def invocation? : Command → Run η (Option Invocation)
  | .positional name args => do
    let values ← values args
    return some { name := name, args := values }
  | .keyword name args named guard _ => do
    if ← holds guard then
      let values ← values args
      let entries ← entries named
      return some { name := name, args := values, named := Table.ofList entries }
    else return none

def holds : Option Expr → Run η Bool
  | none => return true
  | some guard => do
    let value ← value guard
    return value.holds

def values : List Expr → Run η (List Value)
  | [] => return []
  | expr :: rest => do
    let value ← value expr
    let values ← values rest
    return value :: values

def entries : List (String × Expr) → Run η (List (String × Value))
  | [] => return []
  | (name, expr) :: rest => do
    let value ← value expr
    let entries ← entries rest
    return (name, value) :: entries

end

def perform (command : Command) : Run η (Option Value) := do
  match ← invocation? functions registry command with
  | none => return none
  | some invocation => return some (← apply functions registry invocation command.binding)

/-- Carries commands out in order and counts those that are not skipped. -/
def run : List Command → Run η Nat
  | [] => return 0
  | command :: rest => do
    let result ← perform functions registry command
    let completed ← run rest
    return if result.isSome then completed + 1 else completed

section Inversion

variable {α β : Type}

theorem bind_ok {first : Run η α} {then_ : α → Run η β} {trail last : Trail η} {result : β}
    (ran : (first >>= then_) trail = .ok (result, last)) :
    ∃ value middle, first trail = .ok (value, middle) ∧
      then_ value middle = .ok (result, last) := by
  change (first trail >>= fun pair => then_ pair.1 pair.2) = _ at ran
  cases begun : first trail with
  | error error =>
    rw [begun] at ran
    contradiction
  | ok pair =>
    rw [begun] at ran
    exact ⟨pair.1, pair.2, rfl, ran⟩

theorem pure_ok {value result : α} {trail last : Trail η}
    (ran : (pure value : Run η α) trail = .ok (result, last)) : result = value ∧ last = trail := by
  cases ran
  exact ⟨rfl, rfl⟩

end Inversion

end Sequential
end TickScript
