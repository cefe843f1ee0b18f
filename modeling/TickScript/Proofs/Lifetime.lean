import TickScript.Proofs.Ownership
import Mathlib.Data.List.Nodup

/-! The hooks that are called for a state while it is on a stack. It is entered first and once,
and it is left once at its end, unless it is replaced. States are left in the reverse of the
order in which they were entered. -/
namespace TickScript.StateStack

variable {S ω : Type}

def Answer.accepts : Answer S → Bool
  | .pushed (.ok _) | .replaced (.ok _) => true
  | _ => false

def Answer.rejects : Answer S → Bool
  | .pushed (.error _) | .replaced (.error _) => true
  | _ => false

theorem Answer.not_accepts {answer : Answer S} (rejects : answer.rejects = true) :
    answer.accepts = false := by
  cases answer with
  | pushed outcome | replaced outcome =>
    cases outcome with
    | ok done => nomatch rejects
    | error error => rfl
  | popped | updated | seen | modified | cleared | disturbed => nomatch rejects

/-- Whether no state has come onto the stack and none has gone from it. -/
def Answer.still : Answer S → Bool
  | .pushed (.ok _) | .popped (some _) | .replaced (.ok _) | .cleared => false
  | _ => true

namespace Turn

def removed (turn : Turn S ω) : List Nat :=
  match turn.answer with
  | .popped top => top.toList.map Prod.fst
  | .cleared => turn.before.ids
  | _ => []

/-- The state that another one takes the place of. -/
def released (turn : Turn S ω) : List Nat :=
  match turn.answer with
  | .replaced (.ok old) => [old.1]
  | _ => []

def marks (turn : Turn S ω) : List Mark := turn.calls ++ turn.released.map .released

end Turn

def Mark.entered? : Mark → Option Nat
  | .entered id => some id
  | _ => none

/-- The states that have been entered, and neither left nor released since, in the order of their
entries. -/
def standing (marks : List Mark) : List Nat :=
  (marks.filterMap Mark.entered?).filter fun id => .exited id ∉ marks ∧ .released id ∉ marks

theorem standing_gone {marks : List Mark} {mark : Mark} {id : Nat}
    (gone : mark = .exited id ∨ mark = .released id) :
    standing (marks ++ [mark]) = (standing marks).filter (· ≠ id) := by
  have quiet : mark.entered? = none := by rcases gone with rfl | rfl <;> rfl
  simp only [standing, List.filterMap_append, List.filterMap_cons, quiet, List.filterMap_nil,
    List.append_nil, List.filter_filter]
  apply List.filter_congr
  intro other _
  rcases gone with rfl | rfl <;> grind

/-- What a mark makes of the numbers on a stack, the top one first. Of a stack of which a state is
released, the top one is what comes in its place. -/
inductive Shift (earlier : List Mark) : List Nat → Mark → List Nat → Prop
  | entered {ids : List Nat} {id : Nat} (fresh : ∀ mark ∈ earlier, mark.id < id) :
      Shift earlier ids (.entered id) (id :: ids)
  | exited {ids : List Nat} {id : Nat} : Shift earlier (id :: ids) (.exited id) ids
  | updated {ids : List Nat} {id : Nat} : Shift earlier (id :: ids) (.updated id) (id :: ids)
  | released {ids : List Nat} {top id : Nat} :
      Shift earlier (top :: id :: ids) (.released id) (top :: ids)

inductive Stacked : List Mark → List Nat → Prop
  | nothing : Stacked [] []
  | mark {marks : List Mark} {mark : Mark} {ids later : List Nat} (stacked : Stacked marks ids)
      (shift : Shift marks ids mark later) : Stacked (marks ++ [mark]) later

namespace Stacked

variable {marks : List Mark} {ids : List Nat}

theorem split (stacked : Stacked marks ids) {earlier : List Mark} {mark : Mark}
    {later : List Mark} (same : marks = earlier ++ mark :: later) :
    ∃ before after, Stacked earlier before ∧ Shift earlier before mark after := by
  induction stacked generalizing later with
  | nothing => simp at same
  | @mark marks last ids after stacked shift ih =>
    rcases List.eq_nil_or_concat later with rfl | ⟨others, other, rfl⟩
    · obtain ⟨rfl, last_same⟩ := List.append_inj' same rfl
      cases last_same
      exact ⟨ids, after, stacked, shift⟩
    · rw [List.concat_eq_append, ← List.cons_append, ← List.append_assoc] at same
      exact ih (List.append_inj' same rfl).1

/-- What has been entered is on the stack, or has been left, or has been released. -/
theorem count_entered (stacked : Stacked marks ids) (id : Nat) :
    marks.count (.entered id) =
      ids.count id + marks.count (.exited id) + marks.count (.released id) := by
  induction stacked with
  | nothing => rfl
  | mark stacked shift ih =>
    cases shift <;>
      simp only [List.count_append, List.count_cons, List.count_nil, beq_iff_eq, Mark.entered.injEq,
        Mark.exited.injEq, Mark.released.injEq, reduceCtorEq, if_false] at ih ⊢ <;>
      omega

theorem entered_le_one (stacked : Stacked marks ids) (id : Nat) :
    marks.count (.entered id) ≤ 1 := by
  induction stacked with
  | nothing => exact Nat.zero_le _
  | @mark marks _ _ _ stacked shift ih =>
    rw [List.count_append]
    cases shift with
    | @entered _ other fresh =>
      by_cases same : other = id
      · subst same
        have absent : Mark.entered other ∉ marks :=
          fun member => Nat.lt_irrefl _ (fresh _ member)
        rw [List.count_eq_zero_of_not_mem absent, Nat.zero_add]
        exact List.count_le_length (l := [Mark.entered other])
      · simpa [List.count_cons, same] using ih
    | exited | updated | released => simpa [List.count_cons] using ih

theorem nodup (stacked : Stacked marks ids) : ids.Nodup := by
  rw [List.nodup_iff_count_le_one]
  intro id
  have once := stacked.entered_le_one id
  have counted := stacked.count_entered id
  omega

theorem entered_of_mem (stacked : Stacked marks ids) {id : Nat} (member : id ∈ ids) :
    .entered id ∈ marks := by
  have present := List.count_pos_iff.mpr member
  have counted := stacked.count_entered id
  exact List.count_pos_iff.mp (by omega)

theorem standing_eq (stacked : Stacked marks ids) : standing marks = ids.reverse := by
  induction stacked with
  | nothing => rfl
  | @mark marks mark ids later stacked shift ih =>
    have distinct := stacked.nodup
    cases shift with
    | @entered _ id fresh =>
      have exited : .exited id ∉ marks := fun member => Nat.lt_irrefl _ (fresh _ member)
      have released : .released id ∉ marks := fun member => Nat.lt_irrefl _ (fresh _ member)
      rw [List.reverse_cons, ← ih]
      simp [standing, List.filterMap_append, List.filter_append, Mark.entered?, exited, released]
    | @exited _ id =>
      obtain ⟨apart, _⟩ := List.nodup_cons.mp distinct
      have differ : ∀ other ∈ later, other ≠ id := fun other member same => apart (same ▸ member)
      rw [standing_gone (.inl rfl), ih, List.filter_reverse, List.filter_cons_of_neg (by simp),
        List.filter_eq_self.mpr (by simpa using differ)]
    | updated =>
      rw [← ih]
      simp [standing, List.filterMap_append, Mark.entered?]
    | @released others top id =>
      obtain ⟨top_apart, rest⟩ := List.nodup_cons.mp distinct
      obtain ⟨apart, _⟩ := List.nodup_cons.mp rest
      have differ : ∀ other ∈ others, other ≠ id := fun other member same => apart (same ▸ member)
      have different : top ≠ id := fun same => top_apart (same ▸ List.mem_cons_self)
      rw [standing_gone (.inr rfl), ih, List.filter_reverse,
        List.filter_cons_of_pos (by simpa using different), List.filter_cons_of_neg (by simp),
        List.filter_eq_self.mpr (by simpa using differ)]

theorem cleared (stacked : Stacked marks ids) : Stacked (marks ++ ids.map .exited) [] := by
  induction ids generalizing marks with
  | nil => simpa using stacked
  | cons top below ih => simpa using ih (stacked.mark .exited)

/-- Every mark is of a state that has been entered before, or enters it. -/
theorem entered_before (stacked : Stacked marks ids) {earlier : List Mark} {mark : Mark}
    {later : List Mark} (same : marks = earlier ++ mark :: later) :
    .entered mark.id ∈ earlier ∨ mark = .entered mark.id := by
  obtain ⟨before, after, stacked, shift⟩ := stacked.split same
  cases shift with
  | entered => exact .inr rfl
  | exited | updated => exact .inl (stacked.entered_of_mem List.mem_cons_self)
  | released => exact .inl (stacked.entered_of_mem (List.mem_cons_of_mem _ List.mem_cons_self))

theorem entered_of_mark (stacked : Stacked marks ids) {mark : Mark} (member : mark ∈ marks) :
    .entered mark.id ∈ marks := by
  obtain ⟨earlier, later, same⟩ := List.append_of_mem member
  rcases stacked.entered_before same with before | enters
  · rw [same]
    exact List.mem_append_left _ before
  · rw [← enters]
    exact member

/-- The states are left in the reverse of the order in which they were entered. -/
theorem exits_last (stacked : Stacked marks ids) {earlier : List Mark} {id : Nat}
    {later : List Mark} (same : marks = earlier ++ .exited id :: later) :
    (standing earlier).getLast? = some id := by
  obtain ⟨before, after, stacked, shift⟩ := stacked.split same
  cases shift
  rw [stacked.standing_eq, List.getLast?_reverse]
  rfl

end Stacked

structure Turn.Effect (turn : Turn S ω) : Prop where
  stacked : ∀ marks, Stacked marks turn.before.ids → (∀ mark ∈ marks, mark.id < turn.id) →
    Stacked (marks ++ turn.marks) turn.after.ids
  calls : ∀ mark ∈ turn.calls, mark.isCall = true
  entered : ∀ id, .entered id ∈ turn.marks ↔ turn.answer.accepts = true ∧ id = turn.id
  exited : ∀ id, .exited id ∈ turn.marks ↔ id ∈ turn.removed
  released : ∀ id, .released id ∈ turn.marks ↔ id ∈ turn.released

theorem Turn.Effect.quiet {turn : Turn S ω} (still : turn.answer.still = true)
    (same : turn.after.ids = turn.before.ids) (calls : turn.calls = []) : turn.Effect := by
  obtain ⟨accepts, removed, released⟩ :
      turn.answer.accepts = false ∧ turn.removed = [] ∧ turn.released = [] := by
    simp only [Turn.removed, Turn.released]
    generalize turn.answer = answer at still
    cases answer with
    | pushed outcome | replaced outcome => cases outcome <;> simp_all [Answer.still, Answer.accepts]
    | popped top => cases top <;> simp_all [Answer.still, Answer.accepts]
    | cleared => nomatch still
    | updated | seen | modified | disturbed => exact ⟨rfl, rfl, rfl⟩
  have marks : turn.marks = [] := by rw [Turn.marks, calls, released]; rfl
  constructor
  case stacked =>
    intro earlier stacked _
    rw [marks, List.append_nil, same]
    exact stacked
  all_goals simp [marks, calls, accepts, removed, released]

theorem Turn.Effect.idle {turn : Turn S ω} {answer : Answer (Nat × S)}
    (lawful : turn.answer = answer ∧ turn.Idle) (still : answer.still = true) : turn.Effect := by
  obtain ⟨rfl, same, calls⟩ := lawful
  exact .quiet still (congrArg ids same) calls

theorem Turn.Lawful.effect {hooks : Hooks S ω} {turn : Turn S ω} (lawful : turn.Lawful hooks) :
    turn.Effect := by
  obtain ⟨_, lawful⟩ := lawful
  cases use : turn.use with
  | push state =>
    simp only [use] at lawful
    split at lawful
    · obtain ⟨answer, after, calls⟩ := lawful
      constructor
      case stacked =>
        intro marks stacked fresh
        simpa [ids, after, Turn.marks, Turn.released, answer, calls] using
          stacked.mark (.entered fresh)
      all_goals simp [Turn.marks, Turn.released, Turn.removed, Answer.accepts, answer, calls,
        Mark.isCall]
    · exact .idle lawful rfl
  | pop =>
    cases states : turn.before.states with
    | nil =>
      simp only [use, states] at lawful
      exact .idle lawful rfl
    | cons top below =>
      simp only [use, states] at lawful
      obtain ⟨answer, after, calls⟩ := lawful
      constructor
      case stacked =>
        intro marks stacked _
        rw [ids, states] at stacked
        simpa [ids, after, Turn.marks, Turn.released, answer, calls] using stacked.mark .exited
      all_goals simp [Turn.marks, Turn.released, Turn.removed, Answer.accepts, answer, calls,
        Mark.isCall]
  | replace state =>
    cases states : turn.before.states with
    | nil =>
      simp only [use, states] at lawful
      exact .idle lawful rfl
    | cons top below =>
      simp only [use, states] at lawful
      obtain ⟨answer, after, calls⟩ := lawful
      constructor
      case stacked =>
        intro marks stacked fresh
        rw [ids, states] at stacked
        simpa [ids, after, Turn.marks, Turn.released, answer, calls] using
          (stacked.mark (.entered fresh)).mark .released
      all_goals simp [Turn.marks, Turn.released, Turn.removed, Answer.accepts, answer, calls,
        Mark.isCall]
  | update =>
    cases states : turn.before.states with
    | nil =>
      simp only [use, states] at lawful
      exact .idle lawful rfl
    | cons top below =>
      simp only [use, states] at lawful
      obtain ⟨answer, after, calls⟩ := lawful
      constructor
      case stacked =>
        intro marks stacked _
        rw [ids, states] at stacked
        simpa [ids, after, Turn.marks, Turn.released, answer, calls] using stacked.mark .updated
      all_goals simp [Turn.marks, Turn.released, Turn.removed, Answer.accepts, answer, calls,
        Mark.isCall]
  | modifyTop change =>
    cases states : turn.before.states with
    | nil =>
      simp only [use, states] at lawful
      exact .idle lawful rfl
    | cons top below =>
      simp only [use, states] at lawful
      obtain ⟨answer, after, calls⟩ := lawful
      exact .quiet (by rw [answer]; rfl) (by simp [ids, after, states]) calls
  | clear =>
    simp only [use] at lawful
    obtain ⟨answer, after, calls⟩ := lawful
    constructor
    case stacked =>
      intro marks stacked _
      simpa [ids, after, Turn.marks, Turn.released, answer, calls, Function.comp_def] using
        stacked.cleared
    case calls =>
      intro mark member
      rw [calls] at member
      obtain ⟨state, _, rfl⟩ := List.mem_map.mp member
      rfl
    all_goals simp [Turn.marks, Turn.released, Turn.removed, Answer.accepts, answer, calls, ids]
  | look | disturb =>
    simp only [use] at lawful
    exact .idle lawful rfl

structure Kept (turns : List (Turn S ω)) (stack : StateStack (Nat × S)) : Prop where
  stacked : Stacked (turns.flatMap Turn.marks) stack.ids
  fresh : ∀ mark ∈ turns.flatMap Turn.marks, mark.id < turns.length
  effects : ∀ turn ∈ turns, turn.Effect
  numbered : turns.map Turn.id = List.range turns.length

theorem Kept.turn {hooks : Hooks S ω} (earlier : List (Turn S ω)) (stack : StateStack (Nat × S))
    (use : Use S ω) (world : ω) (kept : Kept earlier stack) :
    let next := turn hooks earlier.length use stack world
    Kept (earlier ++ [next]) next.after := by
  intro next
  have effect : next.Effect := (turn_lawful hooks earlier.length use stack world).effect
  have stacked := effect.stacked _ kept.stacked kept.fresh
  constructor
  case stacked => simpa using stacked
  case fresh =>
    intro mark member
    simp only [List.flatMap_append, List.flatMap_singleton] at member
    rcases List.mem_append.mp (stacked.entered_of_mark member) with before | now
    · exact Nat.lt_of_lt_of_le (kept.fresh (.entered mark.id) before) (by simp)
    · obtain ⟨_, same⟩ := (effect.entered _).mp now
      simp [same, next, StateStack.turn]
  case effects => exact List.forall_mem_append.mpr ⟨kept.effects, by simpa using effect⟩
  case numbered => simp [kept.numbered, List.range_succ, next, StateStack.turn]

/-- What the hooks of states are called for in the life of a stack. -/
structure Bracketed (life : List (Turn S ω)) : Prop where
  /-- The marks are the calls, in the same order, with the releases in between. -/
  log : life.flatMap Turn.calls = (life.flatMap Turn.marks).filter Mark.isCall
  /-- A state that is accepted is entered once. -/
  entered : ∀ turn ∈ life, turn.answer.accepts = true →
    (life.flatMap Turn.marks).count (.entered turn.id) = 1
  /-- Everything else that is done with a state comes after its entry. -/
  first : ∀ earlier mark later, life.flatMap Turn.marks = earlier ++ mark :: later →
    mark ≠ .entered mark.id → .entered mark.id ∈ earlier
  /-- In the end it is either removed, and then left once, or replaced, and then not left. -/
  exited : ∀ turn ∈ life, turn.answer.accepts = true →
    (turn.id ∈ life.flatMap Turn.removed ∧ turn.id ∉ life.flatMap Turn.released ∧
      (life.flatMap Turn.marks).count (.exited turn.id) = 1) ∨
    (turn.id ∈ life.flatMap Turn.released ∧ turn.id ∉ life.flatMap Turn.removed ∧
      (life.flatMap Turn.marks).count (.exited turn.id) = 0)
  /-- Nothing is done with a state that is rejected. -/
  rejected : ∀ turn ∈ life, turn.answer.rejects = true →
    ∀ mark ∈ life.flatMap Turn.marks, mark.id ≠ turn.id
  /-- At every moment the states that stand are the stack, from the bottom to the top. -/
  moments : ∀ earlier turn later, life = earlier ++ turn :: later →
    turn.before.ids.reverse = standing (earlier.flatMap Turn.marks) ∧
      turn.after.ids.reverse = standing ((earlier ++ [turn]).flatMap Turn.marks)
  /-- The state that is left is always the one that was entered last of those that stand. -/
  last : ∀ earlier id later, life.flatMap Turn.marks = earlier ++ .exited id :: later →
    (standing earlier).getLast? = some id

section Marks

variable {turns : List (Turn S ω)} (effects : ∀ turn ∈ turns, turn.Effect)

include effects

theorem calls_of_marks :
    turns.flatMap Turn.calls = (turns.flatMap Turn.marks).filter Mark.isCall := by
  rw [List.filter_flatMap]
  apply List.flatMap_congr
  intro turn member
  have calls := (effects turn member).calls
  simp only [Turn.marks, List.filter_append, List.filter_eq_self.mpr calls]
  simp [List.filter_map, Mark.isCall, Function.comp_def]

theorem entered_iff (id : Nat) : .entered id ∈ turns.flatMap Turn.marks ↔
    ∃ turn ∈ turns, turn.answer.accepts = true ∧ turn.id = id := by
  rw [List.mem_flatMap]
  refine exists_congr fun turn => and_congr_right fun member => ?_
  rw [(effects turn member).entered, @eq_comm _ id]

theorem exited_iff (id : Nat) :
    .exited id ∈ turns.flatMap Turn.marks ↔ id ∈ turns.flatMap Turn.removed := by
  rw [List.mem_flatMap, List.mem_flatMap]
  exact exists_congr fun turn => and_congr_right fun member => (effects turn member).exited id

theorem released_iff (id : Nat) :
    .released id ∈ turns.flatMap Turn.marks ↔ id ∈ turns.flatMap Turn.released := by
  rw [List.mem_flatMap, List.mem_flatMap]
  exact exists_congr fun turn => and_congr_right fun member => (effects turn member).released id

end Marks

theorem Kept.eq_of_id {turns : List (Turn S ω)} {stack : StateStack (Nat × S)}
    (kept : Kept turns stack) {turn other : Turn S ω} (member : turn ∈ turns)
    (there : other ∈ turns) (same : turn.id = other.id) : turn = other := by
  have distinct : (turns.map Turn.id).Nodup := by
    rw [kept.numbered]
    exact List.nodup_range
  exact List.inj_on_of_nodup_map distinct member there same

theorem remaining_clear (hooks : Hooks S ω) (uses : List (Use S ω)) (id : Nat)
    (stack : StateStack (Nat × S)) (world : ω) :
    (remaining hooks id (uses ++ [.clear]) stack world).ids = [] := by
  induction uses generalizing id stack world with
  | nil => rfl
  | cons use rest ih => exact ih _ _ _

theorem Kept.bracketed {life : List (Turn S ω)} {stack : StateStack (Nat × S)}
    (kept : Kept life stack) (empty : stack.ids = [])
    (moments : ∀ earlier turn later, life = earlier ++ turn :: later →
      Kept earlier turn.before ∧ Kept (earlier ++ [turn]) turn.after) : Bracketed life := by
  have stacked := kept.stacked
  have effects := kept.effects
  rw [empty] at stacked
  have entered (turn : Turn S ω) (member : turn ∈ life) (accepts : turn.answer.accepts = true) :
      (life.flatMap Turn.marks).count (.entered turn.id) = 1 := by
    have present := List.count_pos_iff.mpr
      ((entered_iff effects turn.id).mpr ⟨turn, member, accepts, rfl⟩)
    have once := stacked.entered_le_one turn.id
    omega
  constructor
  case log => exact calls_of_marks effects
  case entered => exact entered
  case first =>
    intro earlier mark later same other
    exact (stacked.entered_before same).resolve_right other
  case exited =>
    intro turn member accepts
    have one := entered turn member accepts
    rw [stacked.count_entered, List.count_nil] at one
    rw [← exited_iff effects, ← released_iff effects, ← List.count_pos_iff, ← List.count_pos_iff]
    omega
  case rejected =>
    intro turn member rejects mark marked same
    obtain ⟨other, there, accepts, number⟩ :=
      (entered_iff effects mark.id).mp (stacked.entered_of_mark marked)
    cases kept.eq_of_id there member (number.trans same)
    exact absurd accepts (by rw [Answer.not_accepts rejects]; exact Bool.false_ne_true)
  case moments =>
    intro earlier turn later parts
    obtain ⟨before, after⟩ := moments earlier turn later parts
    exact ⟨before.stacked.standing_eq.symm, after.stacked.standing_eq.symm⟩
  case last =>
    intro earlier id later same
    exact stacked.exits_last same

/-- In the life of a stack, whatever its owner does with it until it is given up, every state that
is accepted is entered first and once, and left once unless it is replaced; a rejected state is let
alone. States are left in the reverse of the order in which they were entered. All this is said of
states with numbers, with which the life is the same as without. -/
theorem lifetime_bracketed (hooks : Hooks S ω) (maxDepth : Nat) (uses : List (Use S ω))
    (world : ω) :
    let life := lifetime hooks maxDepth uses world
    life.map Turn.unnumbered = session hooks (uses ++ [.clear]) ⟨maxDepth, []⟩ world ∧
      Bracketed life := by
  have initial : Kept ([] : List (Turn S ω)) ⟨maxDepth, []⟩ := ⟨.nothing, nofun, nofun, rfl⟩
  have kept : Kept (turns hooks 0 (uses ++ [.clear]) ⟨maxDepth, []⟩ world)
      (remaining hooks 0 (uses ++ [.clear]) ⟨maxDepth, []⟩ world) :=
    turns_keep Kept.turn initial (uses ++ [.clear]) world
  have same := turns_unnumbered hooks (uses ++ [.clear]) 0 ⟨maxDepth, []⟩ world
  refine ⟨same, kept.bracketed (remaining_clear hooks uses 0 _ world) ?_⟩
  intro earlier turn later parts
  exact turns_moment Kept.turn initial parts

/-- The third state finds no room, and the last one takes the place of the second. -/
example :
    let hooks : Hooks Unit Unit := ⟨Prod.mk, Prod.mk, Prod.mk, fun _ => id⟩
    (lifetime hooks 2 [.push (), .push (), .push (), .update, .replace ()] ()).flatMap Turn.calls =
      [.entered 0, .entered 1, .updated 1, .entered 4, .exited 4, .exited 0] :=
  rfl

end TickScript.StateStack
