import TickScript.Script

/-! The command names a script uses, nested commands included, in the order in
which a walk through the script meets them: a command before what is nested in
it, and there first the arguments, then the named arguments, then the guard. -/
namespace TickScript

mutual

/-- The names of a command and of all commands nested in it, with repetitions. -/
def Command.walk : Command → List String
  | .positional name args => name :: Expr.walkAll args
  | .keyword name args named guard _ =>
    name :: (Expr.walkAll args ++ Expr.walkNamed named ++ Expr.walkGuard guard)

def Expr.walk : Expr → List String
  | .lit _ => []
  | .name _ => []
  | .call command => command.walk

def Expr.walkAll : List Expr → List String
  | [] => []
  | expr :: rest => expr.walk ++ Expr.walkAll rest

def Expr.walkNamed : List (String × Expr) → List String
  | [] => []
  | (_, expr) :: rest => expr.walk ++ Expr.walkNamed rest

def Expr.walkGuard : Option Expr → List String
  | none => []
  | some expr => expr.walk

end

namespace Script

/-- Adds the names that are not there yet, in order. -/
def addNames (known : List String) (names : List String) : List String :=
  names.foldl (fun known name => if known.contains name then known else known ++ [name]) known

/-- Every command name of the script once, at the place of its first occurrence. -/
def commandNames (script : Script) : List String :=
  script.commands.foldl (fun known command => addNames known command.walk) []

/-- The command names of the script that are not among the known ones. -/
def unknownCommands (script : Script) (isKnown : String → Bool) : List String :=
  script.commandNames.filter fun name => !isKnown name

theorem mem_addNames {known names : List String} {name : String} :
    name ∈ addNames known names ↔ name ∈ known ∨ name ∈ names := by
  induction names generalizing known with
  | nil => simp [addNames]
  | cons first rest ih =>
    simp only [addNames, List.foldl_cons] at ih ⊢
    rw [ih, List.mem_cons, ← or_assoc]
    refine or_congr_left ?_
    by_cases there : first ∈ known
    · have known_first : name = first → name ∈ known := fun same => same ▸ there
      simpa only [List.contains_iff_mem.mpr there, if_true] using
        (or_iff_left_of_imp known_first).symm
    · simp [there]

/-- A name is listed just if a command of the script, or one nested in it, has it. -/
theorem mem_commandNames {script : Script} {name : String} :
    name ∈ script.commandNames ↔ ∃ command ∈ script.commands, name ∈ command.walk := by
  have listed (commands : List Command) (known : List String) :
      name ∈ commands.foldl (fun known command => addNames known command.walk) known ↔
        name ∈ known ∨ ∃ command ∈ commands, name ∈ command.walk := by
    induction commands generalizing known with
    | nil => simp
    | cons command rest ih =>
      rw [List.foldl_cons, ih, mem_addNames, or_assoc]
      simp
  unfold commandNames
  rw [listed]
  simp only [List.not_mem_nil, false_or]

theorem mem_unknownCommands {script : Script} {isKnown : String → Bool} {name : String} :
    name ∈ script.unknownCommands isKnown ↔
      (∃ command ∈ script.commands, name ∈ command.walk) ∧ isKnown name = false := by
  simp [unknownCommands, mem_commandNames]

end Script
end TickScript
