import TickScript.Proofs.Ownership
import Mathlib.Data.List.Perm.Basic

/-! A state stack as a list of bounded length. Every use obeys the laws of such a list, and no
state is lost or doubled: what has been offered is on the stack, or has been handed back, or
has been destroyed by a clearing. -/
namespace TickScript.StateStack

variable {S ω : Type}

namespace Turn

def offered (turn : Turn S ω) : List Nat :=
  match turn.use with
  | .push _ | .replace _ => [turn.id]
  | _ => []

/-- The states that the owner has back: popped, replaced or rejected ones. -/
def handedBack (turn : Turn S ω) : List Nat :=
  match turn.answer with
  | .pushed (.error error) => [error.state.1]
  | .popped top => top.toList.map Prod.fst
  | .replaced (.ok old) => [old.1]
  | .replaced (.error error) => [error.state.1]
  | _ => []

def destroyed (turn : Turn S ω) : List Nat :=
  match turn.use with
  | .clear => turn.before.ids
  | _ => []

theorem Lawful.conserves {hooks : Hooks S ω} {turn : Turn S ω} (lawful : turn.Lawful hooks)
    (id : Nat) :
    turn.offered.count id + turn.before.ids.count id =
      turn.after.ids.count id + turn.handedBack.count id + turn.destroyed.count id := by
  obtain ⟨_, lawful⟩ := lawful
  simp only [offered, handedBack, destroyed, ids]
  cases use : turn.use with
  | push state =>
    simp only [use] at lawful
    split at lawful
    · obtain ⟨answer, after, _⟩ := lawful
      simp only [answer, after, List.map_cons, List.count_cons, List.count_nil]
      omega
    · obtain ⟨answer, same, _⟩ := lawful
      simp only [answer, same, List.count_nil]
      omega
  | pop =>
    cases states : turn.before.states with
    | nil =>
      simp only [use, states] at lawful
      obtain ⟨answer, same, _⟩ := lawful
      simp [answer, same, states]
    | cons top below =>
      simp only [use, states] at lawful
      obtain ⟨answer, after, _⟩ := lawful
      simp only [answer, after, List.map_cons, List.count_cons, List.count_nil, Option.toList_some,
        List.map_nil]
      omega
  | replace state =>
    cases states : turn.before.states with
    | nil =>
      simp only [use, states] at lawful
      obtain ⟨answer, same, _⟩ := lawful
      simp [answer, same, states]
    | cons top below =>
      simp only [use, states] at lawful
      obtain ⟨answer, after, _⟩ := lawful
      simp only [answer, after, List.map_cons, List.count_cons, List.count_nil]
      omega
  | update | modifyTop =>
    cases states : turn.before.states with
    | nil =>
      simp only [use, states] at lawful
      obtain ⟨answer, same, _⟩ := lawful
      simp [answer, same, states]
    | cons top below =>
      simp only [use, states] at lawful
      obtain ⟨answer, after, _⟩ := lawful
      simp [answer, after]
  | clear =>
    simp only [use] at lawful
    obtain ⟨answer, after, _⟩ := lawful
    simp [answer, after]
  | look | disturb =>
    simp only [use] at lawful
    obtain ⟨answer, same, _⟩ := lawful
    simp [answer, same]

theorem Lawful.depth_le {hooks : Hooks S ω} {turn : Turn S ω} (lawful : turn.Lawful hooks)
    (limited : turn.before.maxDepth ≠ 0) (bounded : turn.before.depth ≤ turn.before.maxDepth) :
    turn.after.depth ≤ turn.before.maxDepth := by
  obtain ⟨_, lawful⟩ := lawful
  simp only [depth] at bounded ⊢
  cases use : turn.use with
  | push state =>
    simp only [use] at lawful
    split at lawful
    case isTrue room =>
      obtain ⟨_, after, _⟩ := lawful
      rw [after, List.length_cons]
      exact room.resolve_left limited
    case isFalse =>
      obtain ⟨_, same, _⟩ := lawful
      rwa [same]
  | pop =>
    cases states : turn.before.states with
    | nil =>
      simp only [use, states] at lawful
      obtain ⟨_, same, _⟩ := lawful
      rwa [same]
    | cons top below =>
      simp only [use, states] at lawful
      obtain ⟨_, after, _⟩ := lawful
      rw [states, List.length_cons] at bounded
      rw [after]
      omega
  | replace | update | modifyTop =>
    cases states : turn.before.states with
    | nil =>
      simp only [use, states] at lawful
      obtain ⟨_, same, _⟩ := lawful
      rwa [same]
    | cons top below =>
      simp only [use, states] at lawful
      obtain ⟨_, after, _⟩ := lawful
      rw [states, List.length_cons] at bounded
      rwa [after, List.length_cons]
  | clear =>
    simp only [use] at lawful
    obtain ⟨_, after, _⟩ := lawful
    rw [after]
    exact Nat.zero_le _
  | look | disturb =>
    simp only [use] at lawful
    obtain ⟨_, same, _⟩ := lawful
    rwa [same]

end Turn

structure Balanced (hooks : Hooks S ω) (maxDepth : Nat) (turns : List (Turn S ω))
    (stack : StateStack (Nat × S)) : Prop where
  limit : stack.maxDepth = maxDepth
  bounded : maxDepth ≠ 0 → stack.depth ≤ maxDepth
  lawful : ∀ turn ∈ turns, turn.Lawful hooks
  conserved : ∀ id, (turns.flatMap Turn.offered).count id =
    stack.ids.count id + (turns.flatMap Turn.handedBack).count id +
      (turns.flatMap Turn.destroyed).count id

theorem Balanced.turn {hooks : Hooks S ω} {maxDepth : Nat} (earlier : List (Turn S ω))
    (stack : StateStack (Nat × S)) (use : Use S ω) (world : ω)
    (balanced : Balanced hooks maxDepth earlier stack) :
    let next := turn hooks earlier.length use stack world
    Balanced hooks maxDepth (earlier ++ [next]) next.after := by
  intro next
  obtain ⟨limit, bounded, lawful, conserved⟩ := balanced
  have obeys : next.Lawful hooks := turn_lawful hooks earlier.length use stack world
  constructor
  case limit => exact obeys.1.trans limit
  case bounded =>
    intro limited
    subst limit
    exact obeys.depth_le limited (bounded limited)
  case lawful => exact List.forall_mem_append.mpr ⟨lawful, by simpa using obeys⟩
  case conserved =>
    intro id
    have before := conserved id
    have change : _ + stack.ids.count id = _ := obeys.conserves id
    simp only [List.flatMap_append, List.flatMap_singleton, List.count_append]
    omega

/-- Whatever an owner does with a stack, it behaves as a list of at most `maxDepth` states, of any
number if that is zero, and the states that were offered are those on the stack, those handed back
and those destroyed. States are known by their numbers, with which the session is the same as
without. -/
theorem session_conserves (hooks : Hooks S ω) (maxDepth : Nat) (uses : List (Use S ω)) (world : ω) :
    let stack : StateStack (Nat × S) := ⟨maxDepth, []⟩
    let session := turns hooks 0 uses stack world
    session.map Turn.unnumbered = StateStack.session hooks uses ⟨maxDepth, []⟩ world ∧
      (∀ turn ∈ session, turn.Lawful hooks ∧ turn.before.maxDepth = maxDepth ∧
        (maxDepth ≠ 0 → turn.before.depth ≤ maxDepth ∧ turn.after.depth ≤ maxDepth)) ∧
      (session.flatMap Turn.offered).Perm
        ((remaining hooks 0 uses stack world).ids ++ session.flatMap Turn.handedBack ++
          session.flatMap Turn.destroyed) := by
  intro stack session
  have initial : Balanced hooks maxDepth [] stack :=
    ⟨rfl, fun _ => Nat.zero_le _, nofun, fun _ => rfl⟩
  have balanced : Balanced hooks maxDepth session (remaining hooks 0 uses stack world) :=
    turns_keep Balanced.turn initial uses world
  refine ⟨turns_unnumbered hooks uses 0 stack world, ?_, ?_⟩
  · intro turn member
    obtain ⟨taken, rest, parts⟩ := List.append_of_mem member
    obtain ⟨before, after⟩ := turns_moment Balanced.turn initial parts
    exact ⟨balanced.lawful turn member, before.limit,
      fun limited => ⟨before.bounded limited, after.bounded limited⟩⟩
  · rw [List.perm_iff_count]
    intro id
    simp only [List.count_append]
    exact balanced.conserved id

end TickScript.StateStack
