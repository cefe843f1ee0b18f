import TickScript.StateStack

/-! What the owner of a state stack does with it, in any order. Every use has a number, which
goes with the state that it offers, and the hooks are made to note the numbers of the states
they are called for. Nothing depends on the numbers. -/
namespace TickScript

namespace StateStack

variable {S ω : Type}

inductive Use (S ω : Type)
  | push (state : S)
  | pop
  | replace (state : S)
  | update
  | look
  /-- The owner changes the top state by its own hand. -/
  | modifyTop (change : S → S)
  | clear
  /-- The owner changes what it shares with the hooks. -/
  | disturb (change : ω → ω)

inductive Answer (S : Type)
  | pushed (outcome : Except (CapacityError S) Unit)
  | popped (top : Option S)
  | replaced (outcome : Except (EmptyError S) S)
  | updated (done : Bool)
  | seen (top : Option S)
  | modified (done : Bool)
  | cleared
  | disturbed

def perform (hooks : Hooks S ω) (stack : StateStack S) (world : ω) :
    Use S ω → Answer S × StateStack S × ω
  | .push state =>
    let pushed := stack.push hooks state world
    (.pushed pushed.1, pushed.2)
  | .pop =>
    let popped := stack.pop hooks world
    (.popped popped.1, popped.2)
  | .replace state =>
    let replaced := stack.replace hooks state world
    (.replaced replaced.1, replaced.2)
  | .update =>
    let updated := stack.update hooks world
    (.updated updated.1, updated.2)
  | .look => (.seen stack.top?, stack, world)
  | .modifyTop change =>
    let modified := stack.modifyTop change
    (.modified modified.1, modified.2, world)
  | .clear => (.cleared, stack.clear hooks world)
  | .disturb change => (.disturbed, stack, change world)

def session (hooks : Hooks S ω) : List (Use S ω) → StateStack S → ω →
    List (Answer S × StateStack S × ω)
  | [], _, _ => []
  | use :: rest, stack, world =>
    let result := stack.perform hooks world use
    result :: session hooks rest result.2.1 result.2.2

/-- A hook that is called, or a state that is given back by a replacement, which calls none for it.
States are known by their numbers. -/
inductive Mark
  | entered (id : Nat)
  | exited (id : Nat)
  | updated (id : Nat)
  | released (id : Nat)
  deriving DecidableEq

namespace Mark

def id : Mark → Nat
  | entered id | exited id | updated id | released id => id

def isCall : Mark → Bool
  | entered _ | exited _ | updated _ => true
  | released _ => false

end Mark

end StateStack

open StateStack (Use Mark)

variable {S ω : Type}

/-- The hooks for states with numbers. They keep a log of their calls in their world. -/
def Hooks.numbered (hooks : Hooks S ω) : Hooks (Nat × S) (ω × List Mark) where
  enter state world :=
    let entered := hooks.enter state.2 world.1
    ((state.1, entered.1), (entered.2, world.2 ++ [.entered state.1]))
  exit state world :=
    let exited := hooks.exit state.2 world.1
    ((state.1, exited.1), (exited.2, world.2 ++ [.exited state.1]))
  update state world :=
    let updated := hooks.update state.2 world.1
    ((state.1, updated.1), (updated.2, world.2 ++ [.updated state.1]))
  note event world := (hooks.note event world.1, world.2)

namespace StateStack

/-- A use that gives a number to the state it offers. A state keeps its number when it changes. -/
def Use.numbered (id : Nat) : Use S ω → Use (Nat × S) (ω × List Mark)
  | .push state => .push (id, state)
  | .pop => .pop
  | .replace state => .replace (id, state)
  | .update => .update
  | .look => .look
  | .modifyTop change => .modifyTop fun state => (state.1, change state.2)
  | .clear => .clear
  | .disturb change => .disturb fun world => (change world.1, world.2)

/-- One use of a stack of states with numbers, and what comes of it. -/
structure Turn (S ω : Type) where
  id : Nat
  use : Use S ω
  before : StateStack (Nat × S)
  world : ω
  answer : Answer (Nat × S)
  after : StateStack (Nat × S)
  later : ω
  /-- The hooks it calls, in order. -/
  calls : List Mark

def turn (hooks : Hooks S ω) (id : Nat) (use : Use S ω) (stack : StateStack (Nat × S))
    (world : ω) : Turn S ω :=
  let result := stack.perform hooks.numbered (world, []) (use.numbered id)
  ⟨id, use, stack, world, result.1, result.2.1, result.2.2.1, result.2.2.2⟩

/-- The turns of one use after the other, which are numbered from `id` on. -/
def turns (hooks : Hooks S ω) : Nat → List (Use S ω) → StateStack (Nat × S) → ω → List (Turn S ω)
  | _, [], _, _ => []
  | id, use :: rest, stack, world =>
    let turn := turn hooks id use stack world
    turn :: turns hooks (id + 1) rest turn.after turn.later

def remaining (hooks : Hooks S ω) :
    Nat → List (Use S ω) → StateStack (Nat × S) → ω → StateStack (Nat × S)
  | _, [], stack, _ => stack
  | id, use :: rest, stack, world =>
    let turn := turn hooks id use stack world
    remaining hooks (id + 1) rest turn.after turn.later

/-- The whole life of a stack, which ends when it is given up: then it is cleared. -/
def lifetime (hooks : Hooks S ω) (maxDepth : Nat) (uses : List (Use S ω)) (world : ω) :
    List (Turn S ω) :=
  turns hooks 0 (uses ++ [.clear]) ⟨maxDepth, []⟩ world

def ids (stack : StateStack (Nat × S)) : List Nat := stack.states.map Prod.fst

section Unnumbered

def unnumbered (stack : StateStack (Nat × S)) : StateStack S :=
  ⟨stack.maxDepth, stack.states.map Prod.snd⟩

def Answer.unnumbered : Answer (Nat × S) → Answer S
  | .pushed (.ok done) => .pushed (.ok done)
  | .pushed (.error error) => .pushed (.error ⟨error.maxDepth, error.state.2⟩)
  | .popped top => .popped (top.map Prod.snd)
  | .replaced (.ok old) => .replaced (.ok old.2)
  | .replaced (.error error) => .replaced (.error ⟨error.state.2⟩)
  | .updated done => .updated done
  | .seen top => .seen (top.map Prod.snd)
  | .modified done => .modified done
  | .cleared => .cleared
  | .disturbed => .disturbed

def Turn.unnumbered (turn : Turn S ω) : Answer S × StateStack S × ω :=
  (turn.answer.unnumbered, turn.after.unnumbered, turn.later)

end Unnumbered

def Turn.Idle (turn : Turn S ω) : Prop := turn.after = turn.before ∧ turn.calls = []

/-- What a use makes of a list of states, the top one first, of which a certain number fits. -/
def Turn.Lawful (hooks : Hooks S ω) (turn : Turn S ω) : Prop :=
  turn.after.maxDepth = turn.before.maxDepth ∧
  match turn.use, turn.before.states with
  | .push state, states =>
    if turn.before.maxDepth = 0 ∨ states.length < turn.before.maxDepth then
      turn.answer = .pushed (.ok ()) ∧
        turn.after.states = (turn.id, (hooks.enter state turn.world).1) :: states ∧
        turn.calls = [.entered turn.id]
    else
      turn.answer = .pushed (.error ⟨turn.before.maxDepth, (turn.id, state)⟩) ∧ turn.Idle
  | .pop, [] => turn.answer = .popped none ∧ turn.Idle
  | .pop, top :: below =>
    turn.answer = .popped (some (top.1, (hooks.exit top.2 turn.world).1)) ∧
      turn.after.states = below ∧ turn.calls = [.exited top.1]
  | .replace state, [] => turn.answer = .replaced (.error ⟨(turn.id, state)⟩) ∧ turn.Idle
  | .replace state, top :: below =>
    turn.answer = .replaced (.ok top) ∧
      turn.after.states = (turn.id, (hooks.enter state turn.world).1) :: below ∧
      turn.calls = [.entered turn.id]
  | .update, [] => turn.answer = .updated false ∧ turn.Idle
  | .update, top :: below =>
    turn.answer = .updated true ∧
      turn.after.states = (top.1, (hooks.update top.2 turn.world).1) :: below ∧
      turn.calls = [.updated top.1]
  | .look, states => turn.answer = .seen states.head? ∧ turn.Idle
  | .modifyTop _, [] => turn.answer = .modified false ∧ turn.Idle
  | .modifyTop change, top :: below =>
    turn.answer = .modified true ∧ turn.after.states = (top.1, change top.2) :: below ∧
      turn.calls = []
  | .clear, states =>
    turn.answer = .cleared ∧ turn.after.states = [] ∧
      turn.calls = states.map fun state => .exited state.1
  | .disturb _, _ => turn.answer = .disturbed ∧ turn.Idle

variable (hooks : Hooks S ω)

theorem exitAll_numbered (states : List (Nat × S)) (world : ω) (log : List Mark) :
    exitAll hooks.numbered states (world, log) =
      (exitAll hooks (states.map Prod.snd) world, log ++ states.map fun state => .exited state.1) := by
  induction states generalizing world log with
  | nil => simp only [exitAll, List.map_nil, List.append_nil]
  | cons top below ih =>
    simp only [exitAll, Hooks.numbered, List.map_cons, List.length_map] at ih ⊢
    rw [ih, List.append_assoc, List.singleton_append]

theorem isFull_iff (stack : StateStack S) :
    stack.isFull = true ↔ ¬(stack.maxDepth = 0 ∨ stack.states.length < stack.maxDepth) := by
  rw [isFull, Bool.and_eq_true, bne_iff_ne, decide_eq_true_iff, not_or, Nat.not_lt]
  exact Iff.rfl

/-- What a turn does is said here once; all else about turns follows from it. -/
theorem turn_lawful (id : Nat) (use : Use S ω) (stack : StateStack (Nat × S)) (world : ω) :
    (turn hooks id use stack world).Lawful hooks := by
  obtain ⟨maxDepth, states⟩ := stack
  cases use with
  | push state =>
    by_cases room : maxDepth = 0 ∨ states.length < maxDepth
    · have free : (⟨maxDepth, states⟩ : StateStack (Nat × S)).isFull = false :=
        eq_false_of_ne_true fun full => (isFull_iff _).mp full room
      simp only [Turn.Lawful, turn, perform, Use.numbered, push, free, Bool.false_eq_true, if_false,
        if_pos room, true_and]
      exact ⟨rfl, rfl⟩
    · have full : (⟨maxDepth, states⟩ : StateStack (Nat × S)).isFull = true :=
        (isFull_iff _).mpr room
      simp only [Turn.Lawful, turn, perform, Use.numbered, push, full, if_true, if_neg room,
        true_and]
      exact ⟨rfl, rfl⟩
  | pop | replace | update | modifyTop =>
    cases states with
    | nil => exact ⟨rfl, rfl, rfl, rfl⟩
    | cons top below => exact ⟨rfl, rfl, rfl, rfl⟩
  | look => exact ⟨rfl, rfl, rfl, rfl⟩
  | clear =>
    refine ⟨rfl, rfl, rfl, ?_⟩
    simp only [turn, perform, Use.numbered, clear, exitAll_numbered, List.nil_append]
  | disturb change => exact ⟨rfl, rfl, rfl, rfl⟩

theorem turn_unnumbered (id : Nat) (use : Use S ω) (stack : StateStack (Nat × S)) (world : ω) :
    (turn hooks id use stack world).unnumbered = stack.unnumbered.perform hooks world use := by
  obtain ⟨maxDepth, states⟩ := stack
  cases use with
  | push state =>
    have same : (⟨maxDepth, states⟩ : StateStack (Nat × S)).isFull =
        (StateStack.unnumbered ⟨maxDepth, states⟩).isFull := by
      rw [Bool.eq_iff_iff, isFull_iff, isFull_iff]
      simp only [unnumbered, List.length_map]
    simp only [Turn.unnumbered, turn, perform, Use.numbered, push, ← same]
    cases (⟨maxDepth, states⟩ : StateStack (Nat × S)).isFull with
    | true => rfl
    | false => simp [Answer.unnumbered, unnumbered, Hooks.numbered, depth]
  | pop | replace =>
    cases states with
    | nil => rfl
    | cons top below =>
      simp [Turn.unnumbered, turn, perform, Use.numbered, pop, replace, Answer.unnumbered,
        unnumbered, Hooks.numbered, depth]
  | update | modifyTop =>
    cases states with
    | nil => rfl
    | cons top below => rfl
  | look => cases states <;> rfl
  | clear =>
    simp only [Turn.unnumbered, turn, perform, Use.numbered, clear, exitAll_numbered]
    rfl
  | disturb change => rfl

section Keep

variable {hooks} {P : List (Turn S ω) → StateStack (Nat × S) → Prop}
  (kept : ∀ earlier stack use world, P earlier stack →
    let next := turn hooks earlier.length use stack world
    P (earlier ++ [next]) next.after)

include kept

theorem turns_keep_from (uses : List (Use S ω)) {earlier : List (Turn S ω)}
    {stack : StateStack (Nat × S)} (world : ω) (initial : P earlier stack) :
    P (earlier ++ turns hooks earlier.length uses stack world)
      (remaining hooks earlier.length uses stack world) := by
  induction uses generalizing earlier stack world with
  | nil => simpa only [turns, remaining, List.append_nil] using initial
  | cons use rest ih =>
    have later := ih (turn hooks earlier.length use stack world).later (kept _ _ use world initial)
    simpa only [turns, remaining, List.length_append, List.length_singleton, List.append_assoc,
      List.singleton_append] using later

theorem turns_moment_from (uses : List (Use S ω)) {earlier : List (Turn S ω)}
    {stack : StateStack (Nat × S)} {world : ω} (initial : P earlier stack)
    {taken : List (Turn S ω)} {now : Turn S ω} {rest : List (Turn S ω)}
    (parts : turns hooks earlier.length uses stack world = taken ++ now :: rest) :
    P (earlier ++ taken) now.before ∧ P (earlier ++ taken ++ [now]) now.after := by
  induction uses generalizing earlier stack world taken with
  | nil => simp [turns] at parts
  | cons use others ih =>
    have extended := kept earlier stack use world initial
    cases taken with
    | nil =>
      obtain ⟨rfl, -⟩ := List.cons.inj parts
      rw [List.append_nil]
      exact ⟨initial, extended⟩
    | cons first taken =>
      obtain ⟨rfl, following⟩ := List.cons.inj parts
      let next := turn hooks earlier.length use stack world
      have split : turns hooks (earlier ++ [next]).length others next.after next.later =
          taken ++ now :: rest := by
        rw [List.length_append]
        exact following
      have later := ih extended split
      simpa only [List.append_assoc, List.singleton_append] using later

variable {stack : StateStack (Nat × S)} (initial : P [] stack)

include initial

/-- What every turn keeps about the turns so far and the stack they leave, holds in the end. -/
theorem turns_keep (uses : List (Use S ω)) (world : ω) :
    P (turns hooks 0 uses stack world) (remaining hooks 0 uses stack world) :=
  turns_keep_from kept uses world initial

/-- And it holds before and after each turn. -/
theorem turns_moment {uses : List (Use S ω)} {world : ω} {taken : List (Turn S ω)}
    {now : Turn S ω} {rest : List (Turn S ω)}
    (parts : turns hooks 0 uses stack world = taken ++ now :: rest) :
    P taken now.before ∧ P (taken ++ [now]) now.after :=
  turns_moment_from kept uses initial parts

end Keep

/-- Turns with numbers are the same turns as without. -/
theorem turns_unnumbered (uses : List (Use S ω)) (id : Nat) (stack : StateStack (Nat × S))
    (world : ω) :
    (turns hooks id uses stack world).map Turn.unnumbered =
      session hooks uses stack.unnumbered world := by
  induction uses generalizing id stack world with
  | nil => rfl
  | cons use rest ih =>
    have first := turn_unnumbered hooks id use stack world
    simp only [turns, session, List.map_cons, ih, ← first]
    rfl

end StateStack
end TickScript
