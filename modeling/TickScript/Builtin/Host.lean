import TickScript.Interpreter
import TickScript.Builtin
import TickScript.Operation.Arithmetic
import TickScript.Builtin.Wait

/-! The host of the built-in commands. An operation is called when it is resumed,
on every resume; `print` also notes its line. -/
namespace TickScript

namespace Operation

/-- The printed line: the arguments with one blank between them. -/
def line (call : Invocation) : String := " ".intercalate (call.args.map Value.shown)

/-- The named arguments of a printed line, if it has any. -/
def extras (call : Invocation) : Option String :=
  if call.named.isEmpty then none
  else some (" ".intercalate (call.named.entries.map fun entry => entry.1 ++ "=" ++ entry.2.shown))

def call : Operation → Invocation → Except ScriptError Value
  | eq => equal
  | neq => unequal
  | or => either
  | and => both
  | gt => ordered (· == .gt)
  | ge => ordered (· != .lt)
  | lt => ordered (· == .lt)
  | le => ordered (· != .gt)
  | max => extreme .gt
  | min => extreme .lt
  | sum => total
  | diff => difference
  | print => fun _ => .ok .null

def events : Operation → Invocation → List Event
  | print, invocation => [.printed (line invocation) (extras invocation)]
  | _, _ => []

end Operation

namespace Builtin

inductive Task
  | calling (op : Operation) (invocation : Invocation)
  | waiting (timer : Timer)

/-- The host of the built-in commands; they leave the world alone. -/
def host {ω : Type} : Host Builtin Task ω where
  start
    | .operation op, invocation, _, world => ⟨.ok (.calling op invocation), world, []⟩
    | .wait, invocation, context, world =>
      ⟨(startWait invocation context.now).map .waiting, world, []⟩
  resume
    | .calling op invocation, _, world =>
      let outcome := match op.call invocation with
        | .ok value => .ok (.done value)
        | .error error => .error (.script error)
      ⟨outcome, .calling op invocation, world, op.events invocation⟩
    | .waiting timer, context, world =>
      let (outcome, timer) := resumeWait timer context.now
      ⟨outcome, .waiting timer, world, []⟩

theorem waiting_ok_iff {σ : Type} {call : Invocation} {now : Time} {task : Task ⊕ σ} :
    ((startWait call now).map Task.waiting).map Sum.inl = .ok task ↔
      ∃ timer, startWait call now = .ok timer ∧ task = .inl (.waiting timer) := by
  cases startWait call now <;> simp [Except.map, eq_comm]

theorem waiting_error_iff {σ : Type} {call : Invocation} {now : Time} {fault : Fault} :
    ((startWait call now).map Task.waiting).map Sum.inl = (.error fault : Except Fault (Task ⊕ σ)) ↔
      startWait call now = .error fault := by
  cases startWait call now <;> simp [Except.map]

end Builtin

def Host.withBuiltins {η σ ω : Type} (host : Host η σ ω) :
    Host (Builtin ⊕ η) (Builtin.Task ⊕ σ) ω :=
  Builtin.host.either host

namespace Interpreter

variable {η σ ω : Type}

/-- An interpreter with the built-in commands and others, which go before built-in ones of the same
name. -/
def create (script : Script) (extra : Registry (Builtin ⊕ η)) (world : ω) :
    Interpreter (Builtin ⊕ η) σ ω :=
  fresh script (Registry.builtins.merge extra) world

/-- Registers the built-in commands again and keeps the other ones. -/
def resetCommands (interp : Interpreter (Builtin ⊕ η) σ ω) : Interpreter (Builtin ⊕ η) σ ω :=
  { interp with registry := interp.registry.reset }

end Interpreter
end TickScript
