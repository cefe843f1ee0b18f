import TickScript.Event
import TickScript.Namespace
import TickScript.Time

/-! What a host supplies: handlers that start commands, and the commands they
have started. A handler keeps nothing for itself; what a command needs between
two resumes is its suspension, and what outlives commands is the host's world. -/
namespace TickScript

/-- The evaluated arguments of a command. -/
structure Invocation where
  name : String
  args : List Value
  named : Table Value := .empty
  deriving Inhabited

/-- What handlers and suspensions see of the script they run in. -/
structure Context where
  now : Time
  names : Namespace

/-- The answer of a handler: the started command, or why it is not started. -/
structure Started (σ ω : Type) where
  outcome : Except Fault σ
  world : ω
  events : List Event := []

/-- The answer of a resumed command, with the suspension that is left of it. -/
structure Resumed (σ ω : Type) where
  outcome : Except Fault Resume
  suspension : σ
  world : ω
  events : List Event := []

/-- The handlers, suspensions and worlds of a host, with their behaviour. -/
structure Host (η σ ω : Type) where
  start : η → Invocation → Context → ω → Started σ ω
  resume : σ → Context → ω → Resumed σ ω

namespace Host

variable {η θ σ τ ω : Type}

/-- The host of commands that are functions of their invocation. They are called on every resume
and nothing happens before the first. -/
def immediate (call : η → Invocation → Except ScriptError Value) :
    Host η (η × Invocation) ω where
  start handler invocation _ world := ⟨.ok (handler, invocation), world, []⟩
  resume suspension _ world :=
    let outcome := match call suspension.1 suspension.2 with
      | .ok value => .ok (.done value)
      | .error error => .error (.script error)
    ⟨outcome, suspension, world, []⟩

def none : Host Empty Empty ω where
  start handler := nomatch handler
  resume suspension := nomatch suspension

/-- Two hosts that share a world. -/
def either (first : Host η σ ω) (second : Host θ τ ω) : Host (η ⊕ θ) (σ ⊕ τ) ω where
  start
    | .inl handler, invocation, context, world =>
      let started := first.start handler invocation context world
      ⟨started.outcome.map .inl, started.world, started.events⟩
    | .inr handler, invocation, context, world =>
      let started := second.start handler invocation context world
      ⟨started.outcome.map .inr, started.world, started.events⟩
  resume
    | .inl suspension, context, world =>
      let resumed := first.resume suspension context world
      ⟨resumed.outcome, .inl resumed.suspension, resumed.world, resumed.events⟩
    | .inr suspension, context, world =>
      let resumed := second.resume suspension context world
      ⟨resumed.outcome, .inr resumed.suspension, resumed.world, resumed.events⟩

end Host
end TickScript
