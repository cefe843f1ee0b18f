import TickScript.Builtin.Host
import TickScript.Proofs.Comparison

/-! The commands that compare two values, taken together. Two values may have no order, and then
every command that asks for it refuses them, whichever comes first. If they have one, then one value
is less than the other or they are equal, and all commands answer accordingly. Equality itself is
computed apart from the order, and it also holds of values that have none. -/
namespace TickScript

namespace Value

variable {x y : Value} {o : Ordering}

theorem number_eq_of_same (hx : x.isNumber) (hy : y.isNumber) (equal : x.same y)
    (ordered : x.order y = some o) : o = .eq := by
  rcases number_cases hx with ⟨m, rfl⟩ | ⟨d, rfl⟩ <;>
    rcases number_cases hy with ⟨n, rfl⟩ | ⟨e, rfl⟩ <;>
    rw [order] at ordered
  · cases eq_of_beq equal
    exact (Option.some.inj ordered).symm.trans Std.ReflCmp.compare_self
  all_goals
    rw [beq_iff_eq.mp equal] at ordered
    exact (Option.some.inj ordered).symm

/-- Equal values have no other order. They may have none: of two lists some items may be equal that
have no order, like two nulls. -/
theorem eq_of_same (equal : x.same y) (ordered : x.order y = some o) : o = .eq := by
  induction x using induct generalizing y o with
  | atom x plain =>
    cases kindred_of_same equal with
    | null => cases ordered
    | bool | str =>
      cases eq_of_beq equal
      rw [order] at ordered
      exact (Option.some.inj ordered).symm.trans Std.ReflCmp.compare_self
    | number hx hy => exact number_eq_of_same hx hy equal ordered
    | list => exact absurd rfl plain
  | list xs each =>
    cases kindred_of_same equal with
    | number hx _ => cases hx
    | @list _ ys =>
      rw [same] at equal
      rw [order] at ordered
      induction xs generalizing ys with
      | nil =>
        cases ys with
        | nil =>
          cases ordered
          rfl
        | cons => cases equal
      | cons x xs ih =>
        obtain ⟨first, others⟩ := List.forall_mem_cons.mp each
        cases ys with
        | nil => cases equal
        | cons y ys =>
          rw [sameItems, Bool.and_eq_true] at equal
          obtain ⟨heads, tails⟩ := equal
          rcases orderItems_cons.mp ordered with ⟨-, rest⟩ | ⟨unequal, strict⟩
          · exact ih others tails rest
          · exact absurd (first heads unequal) strict

theorem eq_iff_same (ordered : x.order y = some o) : o = .eq ↔ x.same y := by
  constructor
  · rintro rfl
    exact same_of_order ordered
  · intro equal
    exact eq_of_same equal ordered

end Value

namespace Operation

def Answers (op : Operation) (x y : Value) (truth : Bool) : Prop :=
  ∀ name named, op.call ⟨name, [x, y], named⟩ = .ok (.bool truth)

/-- A command refuses two values because they have no order. -/
def Refuses (op : Operation) (x y : Value) : Prop :=
  ∀ name named, op.call ⟨name, [x, y], named⟩ = .error (incomparable name x y)

def orderings : List Operation := [gt, ge, lt, le]

/-- What the commands answer if a value is less than another one, equal to it or greater. -/
structure Compared (x y : Value) (less equal greater : Bool) : Prop where
  eq : Operation.eq.Answers x y equal
  lt : Operation.lt.Answers x y less
  gt : Operation.gt.Answers x y greater
  le : Operation.le.Answers x y (less || equal)
  ge : ∀ truth, Operation.ge.Answers x y truth ↔ Operation.le.Answers y x truth

variable {x y : Value}

theorem ordered_refuses (none : x.order y = none) (accept : Ordering → Bool) (name : String)
    (named : Table Value) :
    ordered accept ⟨name, [x, y], named⟩ = .error (incomparable name x y) := by
  simp only [ordered, Invocation.pair, none, bind, Except.bind]

theorem ordered_answers {o : Ordering} (some : x.order y = some o) (accept : Ordering → Bool)
    (name : String) (named : Table Value) :
    ordered accept ⟨name, [x, y], named⟩ = .ok (.bool (accept o)) := by
  simp only [ordered, Invocation.pair, some, bind, Except.bind]

theorem refuses_of_none (none : x.order y = none) : ∀ op ∈ orderings, op.Refuses x y := by
  intro op member name named
  simp only [orderings, List.mem_cons, List.not_mem_nil, or_false] at member
  rcases member with rfl | rfl | rfl | rfl <;> exact ordered_refuses none _ name named

/-- A command of two values has one answer. -/
theorem Answers.unique {op : Operation} {truth other : Bool} (first : op.Answers x y truth)
    (second : op.Answers x y other) : truth = other := by
  have same := (first "" .empty).symm.trans (second "" .empty)
  cases same
  rfl

theorem compared_of_order {o : Ordering} (ordered : x.order y = some o) :
    Compared x y (o == .lt) (o == .eq) (o == .gt) := by
  have reversed : y.order x = some o.swap := by
    rw [Value.order_swap x y, ordered]
    rfl
  have at_most : Operation.le.Answers y x (o.swap != .gt) := ordered_answers reversed _
  have at_least : Operation.ge.Answers x y (o != .lt) := ordered_answers ordered _
  have same : x.same y = (o == .eq) := by
    rw [Bool.eq_iff_iff, beq_iff_eq, Value.eq_iff_same ordered]
  have swapped : (o != .lt) = (o.swap != .gt) := by cases o <;> rfl
  constructor
  case eq =>
    intro name named
    rw [← same]
    rfl
  case lt => exact ordered_answers ordered _
  case gt => exact ordered_answers ordered _
  case le =>
    have split : ((o == .lt) || (o == .eq)) = (o != .gt) := by cases o <;> rfl
    rw [split]
    exact ordered_answers ordered _
  case ge =>
    intro truth
    constructor
    · intro answers
      rw [answers.unique at_least, swapped]
      exact at_most
    · intro answers
      rw [answers.unique at_most, ← swapped]
      exact at_least

/-- The order of two values taken the other way round is the reverse one, and it is that of equals
just if the values are equal. Either all commands that ask for the order refuse the two, whichever
comes first, or exactly one of less, equal and greater is the case, and all of them answer so. -/
theorem comparisons_cohere (x y : Value) :
    y.order x = (x.order y).map Ordering.swap ∧
    (∀ o, x.order y = some o → (o = .eq ↔ x.same y)) ∧
    ((∀ op ∈ orderings, op.Refuses x y ∧ op.Refuses y x) ∨
      ∃ less equal greater, [less, equal, greater].count true = 1 ∧
        Compared x y less equal greater ∧ Compared y x greater equal less) := by
  have reversed := Value.order_swap x y
  refine ⟨reversed, fun o => Value.eq_iff_same, ?_⟩
  cases ordered : x.order y with
  | none =>
    rw [ordered] at reversed
    left
    intro op member
    exact ⟨refuses_of_none ordered op member, refuses_of_none reversed op member⟩
  | some o =>
    rw [ordered] at reversed
    right
    refine ⟨o == .lt, o == .eq, o == .gt, ?_, compared_of_order ordered, ?_⟩
    · cases o <;> rfl
    · have compared := compared_of_order reversed
      cases o <;> exact compared

/-- Items that have no order do not show behind items that differ. -/
example :
    let first : Value := .list [.int 1, .float .nan]
    let second : Value := .list [.int 2, .null]
    let third : Value := .list [.int 1, .null]
    Operation.lt.call ⟨"<", [first, second], .empty⟩ = .ok (.bool true) ∧
      Operation.lt.call ⟨"<", [first, third], .empty⟩ = .error (incomparable "<" first third) :=
  ⟨rfl, rfl⟩

end Operation

end TickScript
