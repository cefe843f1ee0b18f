import TickScript.Event

/-! A stack of states of which only the top one is active. A state is told when
it is entered, when it is left and when it is updated; a state that is replaced
is not told. The stack may be bounded. -/
namespace TickScript

/-- What states do when they are entered, left and updated, and what becomes of events. -/
structure Hooks (S ω : Type) where
  enter : S → ω → S × ω
  exit : S → ω → S × ω
  update : S → ω → S × ω
  note : Event → ω → ω

/-- A stack of states, the top one first. A bound of zero is none. -/
structure StateStack (S : Type) where
  maxDepth : Nat
  states : List S := []

namespace StateStack

variable {S ω : Type}

/-- A push on a full stack; the state is given back. -/
structure CapacityError (S : Type) where
  maxDepth : Nat
  state : S

/-- A replacement on an empty stack; the state is given back. -/
structure EmptyError (S : Type) where
  state : S

def CapacityError.message (error : CapacityError S) : String :=
  "state stack is full (max depth " ++ toString error.maxDepth ++ ")"

def CapacityError.describe (error : CapacityError S) : String :=
  "CapacityError \x7b max_depth: " ++ toString error.maxDepth ++ ", .. \x7d"

def EmptyError.message (_ : EmptyError S) : String :=
  "cannot replace the top of an empty state stack"

def EmptyError.describe (_ : EmptyError S) : String := "EmptyStackError \x7b .. \x7d"

def depth (stack : StateStack S) : Nat := stack.states.length

def isEmpty (stack : StateStack S) : Bool := stack.states.isEmpty

def isFull (stack : StateStack S) : Bool := stack.maxDepth != 0 && stack.maxDepth ≤ stack.depth

def top? (stack : StateStack S) : Option S := stack.states.head?

/-- The states from the bottom to the top. -/
def toList (stack : StateStack S) : List S := stack.states.reverse

/-- Enters a state on top of the stack. -/
def push (hooks : Hooks S ω) (stack : StateStack S) (state : S) (world : ω) :
    Except (CapacityError S) Unit × StateStack S × ω :=
  if stack.isFull then
    (.error ⟨stack.maxDepth, state⟩, stack, hooks.note (.pushRejected stack.maxDepth) world)
  else
    let (state, world) := hooks.enter state world
    let stack := { stack with states := state :: stack.states }
    (.ok (), stack, hooks.note (.statePushed stack.depth) world)

/-- Leaves the top state and gives it back. -/
def pop (hooks : Hooks S ω) (stack : StateStack S) (world : ω) : Option S × StateStack S × ω :=
  match stack.states with
  | [] => (none, stack, world)
  | top :: below =>
    let (top, world) := hooks.exit top world
    (some top, { stack with states := below }, hooks.note (.statePopped below.length) world)

/-- Enters a state in the place of the top one, which is given back without being left. -/
def replace (hooks : Hooks S ω) (stack : StateStack S) (state : S) (world : ω) :
    Except (EmptyError S) S × StateStack S × ω :=
  match stack.states with
  | [] => (.error ⟨state⟩, stack, world)
  | top :: below =>
    let (state, world) := hooks.enter state world
    (.ok top, { stack with states := state :: below },
      hooks.note (.stateReplaced stack.depth) world)

/-- Updates the top state; false if there is none. -/
def update (hooks : Hooks S ω) (stack : StateStack S) (world : ω) : Bool × StateStack S × ω :=
  match stack.states with
  | [] => (false, stack, world)
  | top :: below =>
    let (top, world) := hooks.update top world
    (true, { stack with states := top :: below }, world)

/-- Changes the top state from outside; false if there is none. -/
def modifyTop (stack : StateStack S) (change : S → S) : Bool × StateStack S :=
  match stack.states with
  | [] => (false, stack)
  | top :: below => (true, { stack with states := change top :: below })

/-- Leaves states from the top down, and notes how many remain each time. -/
def exitAll (hooks : Hooks S ω) : List S → ω → ω
  | [], world => world
  | top :: below, world =>
    exitAll hooks below (hooks.note (.statePopped below.length) (hooks.exit top world).2)

/-- Leaves every state, from the top to the bottom. A stack that is given up is cleared. -/
def clear (hooks : Hooks S ω) (stack : StateStack S) (world : ω) : StateStack S × ω :=
  ({ stack with states := [] }, exitAll hooks stack.states world)

/-- The stack with its states, from the bottom to the top, for developers. -/
def describe (stack : StateStack S) (state : S → String) : String :=
  "StateStack \x7b max_depth: " ++ toString stack.maxDepth ++
    ", states: [" ++ ", ".intercalate (stack.toList.map state) ++ "] \x7d"

end StateStack
end TickScript
