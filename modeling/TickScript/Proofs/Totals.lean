import TickScript.Builtin.Host
import TickScript.Proofs.Comparison
import Mathlib.Data.List.Perm.Basic
import Mathlib.Algebra.BigOperators.Group.List.Basic
import Mathlib.Algebra.Ring.Int.Defs

/-! Sums of values. Elements are added from left to right, as 64-bit integers up to the first float
and as doubles from there on. So a sum of numbers fails just if a partial sum of the integers before
the first float is out of range, whatever comes after it; and which orders of the elements have such
a partial sum depends on the positive integers and the negative ones taken by themselves. -/
namespace TickScript.Operation

open Value

def exactSum (ns : List Int64) : Int := (ns.map Int64.toInt).sum

def int? : Value → Option Int64
  | .int n => some n
  | _ => none

def integers (values : List Value) : List Int64 := values.filterMap int?

def leading : List Value → List Int64
  | .int n :: rest => n :: leading rest
  | _ => []

/-- No partial sum from a start on leaves the range of 64 bits. -/
def Contained (start : Int) (ns : List Int64) : Prop :=
  ∀ part, part <+: ns → Literal.isInt64 (start + exactSum part) = true

theorem exactSum_cons (n : Int64) (ns : List Int64) : exactSum (n :: ns) = n.toInt + exactSum ns :=
  rfl

theorem exactSum_perm {ms ns : List Int64} (perm : ms.Perm ns) : exactSum ms = exactSum ns :=
  (perm.map Int64.toInt).sum_eq

theorem integers_cons (n : Int64) (rest : List Value) :
    integers (.int n :: rest) = n :: integers rest := rfl

theorem integers_perm {xs ys : List Value} (perm : xs.Perm ys) :
    (integers xs).Perm (integers ys) := perm.filterMap int?

theorem isInt64_iff {n : Int} :
    Literal.isInt64 n = true ↔ -9223372036854775808 ≤ n ∧ n < 9223372036854775808 := by
  simp only [Literal.isInt64, Bool.and_eq_true, decide_eq_true_eq]

theorem isInt64_toInt (n : Int64) : Literal.isInt64 n.toInt = true := by
  have lower := n.le_toInt
  have upper := n.toInt_lt
  rw [isInt64_iff]
  omega

theorem contained_nil {start : Int} (within : Literal.isInt64 start = true) :
    Contained start [] := by
  intro part first
  rw [List.prefix_nil.mp first]
  simpa [exactSum] using within

theorem contained_cons {start : Int} {n : Int64} {ns : List Int64} :
    Contained start (n :: ns) ↔
      Literal.isInt64 start = true ∧ Contained (start + n.toInt) ns := by
  constructor
  · intro contained
    refine ⟨by simpa [exactSum] using contained [] List.nil_prefix, ?_⟩
    intro part first
    have longer := contained (n :: part) ((List.prefix_cons_inj n).mpr first)
    rwa [exactSum_cons, ← Int.add_assoc] at longer
  · rintro ⟨within, contained⟩ part first
    rcases List.prefix_cons_iff.mp first with rfl | ⟨rest, rfl, later⟩
    · simpa [exactSum] using within
    · rw [exactSum_cons, ← Int.add_assoc]
      exact contained rest later

theorem Contained.start {start : Int} {ns : List Int64} (contained : Contained start ns) :
    Literal.isInt64 start = true := by
  simpa [exactSum] using contained [] List.nil_prefix

theorem fitted_ok (command : String) {n : Int} (within : Literal.isInt64 n = true) :
    ∃ m : Int64, fitted command n = .ok (.int m) ∧ m.toInt = n := by
  refine ⟨.ofInt n, ?_, ?_⟩
  · rw [fitted, fitInt64?, if_pos within]
  · obtain ⟨lower, upper⟩ := isInt64_iff.mp within
    exact Int64.toInt_ofInt_of_le (by omega) (by omega)

theorem fitted_overflow {command : String} {n : Int} (beyond : ¬Literal.isInt64 n = true) :
    fitted command n = .error (overflow command) := by
  rw [fitted, fitInt64?, if_neg beyond]

/-- A sum that has become a float stays one. -/
theorem addItems_float (command : String) (y : Binary64) {items : List Value}
    (numbers : ∀ item ∈ items, item.isNumber) :
    ∃ x, addItems command (.float y) items = .ok (.float x) := by
  induction items generalizing y with
  | nil => exact ⟨y, rfl⟩
  | cons item rest ih =>
    obtain ⟨number, others⟩ := List.forall_mem_cons.mp numbers
    cases item with
    | int n => exact ih (y.add (.ofInt n.toInt)) others
    | float x => exact ih (y.add x) others
    | null | bool | str | list => nomatch number

theorem addItems_int (command : String) (m n : Int64) (rest : List Value) :
    addItems command (.int m) (.int n :: rest) =
      fitted command (m.toInt + n.toInt) >>= fun total => addItems command total rest :=
  rfl

/-- A sum of numbers fails just if a partial sum of the integers before the first float leaves the
range. -/
theorem addItems_overflow {command : String} {start : Int64} {items : List Value}
    (numbers : ∀ item ∈ items, item.isNumber) (beyond : ¬Contained start.toInt (leading items)) :
    addItems command (.int start) items = .error (overflow command) := by
  induction items generalizing start with
  | nil => exact absurd (contained_nil (isInt64_toInt start)) beyond
  | cons item rest ih =>
    obtain ⟨number, others⟩ := List.forall_mem_cons.mp numbers
    cases item with
    | int n =>
      rw [addItems_int]
      by_cases within : Literal.isInt64 (start.toInt + n.toInt) = true
      · obtain ⟨next, added, exact⟩ := fitted_ok command within
        rw [added]
        apply ih others
        rw [exact]
        intro contained
        exact beyond (contained_cons.mpr ⟨isInt64_toInt start, contained⟩)
      · rw [fitted_overflow within]
        rfl
    | float x => exact absurd (contained_nil (isInt64_toInt start)) beyond
    | null | bool | str | list => nomatch number

theorem addItems_contained (command : String) (start : Int64) {items : List Value}
    (numbers : ∀ item ∈ items, item.isNumber) (contained : Contained start.toInt (leading items)) :
    ((∃ item ∈ items, item.kind = .float) →
      ∃ x, addItems command (.int start) items = .ok (.float x)) ∧
    ((∀ item ∈ items, item.kind = .int) → ∃ n, addItems command (.int start) items = .ok (.int n) ∧
      n.toInt = start.toInt + exactSum (integers items)) := by
  induction items generalizing start with
  | nil =>
    constructor
    · rintro ⟨_, member, _⟩
      contradiction
    · exact fun _ => ⟨start, rfl, by simp [integers, exactSum]⟩
  | cons item rest ih =>
    obtain ⟨number, others⟩ := List.forall_mem_cons.mp numbers
    cases item with
    | int n =>
      rw [leading, contained_cons] at contained
      obtain ⟨next, added, exact⟩ := fitted_ok command contained.2.start
      have further := contained.2
      rw [← exact] at further
      obtain ⟨floats, ints⟩ := ih next others further
      rw [addItems_int, added]
      constructor
      · rintro ⟨item, member, float⟩
        rcases List.mem_cons.mp member with rfl | later
        · contradiction
        · exact floats ⟨item, later, float⟩
      · intro whole
        obtain ⟨total, ended, sum⟩ := ints (List.forall_mem_cons.mp whole).2
        refine ⟨total, ended, ?_⟩
        rw [sum, exact, integers_cons, exactSum_cons, Int.add_assoc]
    | float x =>
      constructor
      · intro _
        exact addItems_float command _ others
      · intro whole
        exact nomatch (List.forall_mem_cons.mp whole).1
    | null | bool | str | list => nomatch number

theorem addTo_error {command : String} {x y : Value} {error : ScriptError}
    (failed : addTo command x y = .error error) :
    ∃ message, error = .wrongType command message := by
  unfold addTo at failed
  split at failed
  case h_1 m n =>
    unfold fitted at failed
    split at failed
    · contradiction
    · cases failed
      exact ⟨_, rfl⟩
  case h_2 =>
    split at failed
    · contradiction
    · cases failed
      exact ⟨_, rfl⟩

theorem addTo_ok {command : String} {x y sum : Value} (added : addTo command x y = .ok sum) :
    y.isNumber := by
  unfold addTo at added
  split at added
  case h_1 m n => rfl
  case h_2 =>
    split at added
    case h_1 number => exact Option.isSome_of_mem number
    case h_2 => contradiction

/-- What is no number cannot be added, whatever the sum is by then. -/
theorem addItems_other (command : String) {total : Value} {items : List Value}
    (other : ∃ item ∈ items, ¬item.isNumber) :
    ∃ message, addItems command total items = .error (.wrongType command message) := by
  induction items generalizing total with
  | nil =>
    obtain ⟨_, member, _⟩ := other
    contradiction
  | cons item rest ih =>
    rw [addItems]
    cases added : addTo command total item with
    | error error =>
      obtain ⟨message, rfl⟩ := addTo_error added
      exact ⟨message, rfl⟩
    | ok sum =>
      obtain ⟨item', member, unfit⟩ := other
      rcases List.mem_cons.mp member with rfl | later
      · exact absurd (addTo_ok added) unfit
      · exact ih ⟨item', later, unfit⟩

theorem exactSum_append (ms ns : List Int64) : exactSum (ms ++ ns) = exactSum ms + exactSum ns := by
  simp [exactSum]

theorem leading_first (values : List Value) : leading values <+: integers values := by
  induction values with
  | nil => exact List.prefix_rfl
  | cons value rest ih =>
    cases value with
    | int n => exact (List.prefix_cons_inj n).mpr ih
    | null | bool | float | str | list => exact List.nil_prefix

theorem leading_whole {values : List Value} (whole : ∀ v ∈ values, v.kind = .int) :
    leading values = integers values := by
  induction values with
  | nil => rfl
  | cons value rest ih =>
    obtain ⟨here, others⟩ := List.forall_mem_cons.mp whole
    cases value with
    | int n => exact congrArg (n :: ·) (ih others)
    | null | bool | float | str | list => nomatch here

def gains (ns : List Int64) : Int := exactSum (ns.filter (0 < ·.toInt))

def losses (ns : List Int64) : Int := exactSum (ns.filter (·.toInt < 0))

theorem gains_perm {ms ns : List Int64} (perm : ms.Perm ns) : gains ms = gains ns :=
  exactSum_perm (perm.filter _)

theorem losses_perm {ms ns : List Int64} (perm : ms.Perm ns) : losses ms = losses ns :=
  exactSum_perm (perm.filter _)

theorem exactSum_between (ns : List Int64) :
    losses ns ≤ 0 ∧ 0 ≤ gains ns ∧ exactSum ns = gains ns + losses ns := by
  induction ns with
  | nil => decide
  | cons n ns ih =>
    obtain ⟨below, above, sum⟩ := ih
    unfold gains losses at *
    simp only [List.filter_cons, decide_eq_true_eq]
    split <;> split <;> simp only [exactSum_cons] <;> omega

/-- Partial sums lie between that of the negative integers and that of the positive ones. -/
theorem exactSum_first {part ns : List Int64} (first : part <+: ns) :
    losses ns ≤ exactSum part ∧ exactSum part ≤ gains ns := by
  obtain ⟨rest, rfl⟩ := first
  obtain ⟨below, above, sum⟩ := exactSum_between part
  obtain ⟨later_below, later_above, _⟩ := exactSum_between rest
  have whole_gains : gains (part ++ rest) = gains part + gains rest := by
    rw [gains, List.filter_append, exactSum_append]
    rfl
  have whole_losses : losses (part ++ rest) = losses part + losses rest := by
    rw [losses, List.filter_append, exactSum_append]
    rfl
  omega

/-- Neither the positive integers alone nor the negative ones alone leave the range. -/
def Moderate (ns : List Int64) : Prop :=
  Literal.isInt64 (gains ns) = true ∧ Literal.isInt64 (losses ns) = true

theorem Moderate.perm {ms ns : List Int64} (moderate : Moderate ns) (perm : ms.Perm ns) :
    Moderate ms := by
  rwa [Moderate, gains_perm perm, losses_perm perm]

theorem Moderate.contained {ns part : List Int64} (moderate : Moderate ns) (first : part <+: ns) :
    Contained 0 part := by
  intro shorter before
  obtain ⟨low, high⟩ := exactSum_first (before.trans first)
  obtain ⟨up, down⟩ := moderate
  rw [isInt64_iff] at up down ⊢
  omega

theorem exactSum_mem {ns : List Int64} {n : Int64} (member : n ∈ ns) :
    exactSum ns = n.toInt + exactSum (ns.erase n) :=
  exactSum_perm (List.perm_cons_erase member)

theorem losses_rising {ns : List Int64} (rising : ∀ n ∈ ns, 0 ≤ n.toInt) : losses ns = 0 := by
  have none : ns.filter (·.toInt < 0) = [] := by
    simpa only [List.filter_eq_nil_iff, decide_eq_true_eq, Int.not_lt] using rising
  rw [losses, none]
  rfl

theorem gains_falling {ns : List Int64} (falling : ∀ n ∈ ns, n.toInt ≤ 0) : gains ns = 0 := by
  have none : ns.filter (0 < ·.toInt) = [] := by
    simpa only [List.filter_eq_nil_iff, decide_eq_true_eq, Int.not_lt] using falling
  rw [gains, none]
  rfl

/-- A sum that is in range and will be so in the end can stay in range with the next integer. -/
theorem exists_next {start : Int} {ns : List Int64} (more : ns ≠ [])
    (here : Literal.isInt64 start = true) (there : Literal.isInt64 (start + exactSum ns) = true) :
    ∃ n ∈ ns, Literal.isInt64 (start + n.toInt) = true := by
  simp only [isInt64_iff] at here there ⊢
  obtain ⟨first, member⟩ := List.exists_mem_of_ne_nil ns more
  have sum := exactSum_mem member
  have others (n : Int64) (inside : n ∈ ns.erase first) : n ∈ ns := List.mem_of_mem_erase inside
  have rest := exactSum_between (ns.erase first)
  by_cases up : 0 ≤ start
  · by_cases falls : ∃ n ∈ ns, n.toInt < 0
    · obtain ⟨n, inside, falls⟩ := falls
      have lower := n.le_toInt
      exact ⟨n, inside, by omega⟩
    · -- Only integers are left that go up, and not beyond the end.
      have rising : ∀ n ∈ ns, 0 ≤ n.toInt := by simpa using falls
      have step := rising first member
      have none := losses_rising fun n inside => rising n (others n inside)
      exact ⟨first, member, by omega⟩
  · by_cases rises : ∃ n ∈ ns, 0 < n.toInt
    · obtain ⟨n, inside, rises⟩ := rises
      have upper := n.toInt_lt
      exact ⟨n, inside, by omega⟩
    · have falling : ∀ n ∈ ns, n.toInt ≤ 0 := by simpa using rises
      have step := falling first member
      have none := gains_falling fun n inside => falling n (others n inside)
      exact ⟨first, member, by omega⟩

/-- Integers whose sum is in range can be added in an order that never leaves the range. -/
theorem exists_contained {start : Int} {ns : List Int64} (here : Literal.isInt64 start = true)
    (there : Literal.isInt64 (start + exactSum ns) = true) :
    ∃ order, order.Perm ns ∧ Contained start order := by
  generalize size : ns.length = count
  induction count generalizing start ns with
  | zero =>
    obtain rfl := List.eq_nil_of_length_eq_zero size
    exact ⟨[], .refl _, contained_nil here⟩
  | succ count ih =>
    have more : ns ≠ [] := by
      rintro rfl
      contradiction
    obtain ⟨n, member, next⟩ := exists_next more here there
    rw [exactSum_mem member, ← Int.add_assoc] at there
    have fewer : (ns.erase n).length = count := by
      rw [List.length_erase_of_mem member, size]
      rfl
    obtain ⟨order, perm, contained⟩ := ih next there fewer
    refine ⟨n :: order, ?_, contained_cons.mpr ⟨here, contained⟩⟩
    exact (perm.cons n).trans (List.perm_cons_erase member).symm

/-- The other call has the elements of the first in some order. -/
def Reorders (other call : Invocation) : Prop :=
  other.name = call.name ∧ (flattened other.args).Perm (flattened call.args)

theorem Reorders.refl (call : Invocation) : Reorders call call := ⟨rfl, .refl _⟩

theorem Reorders.numbers {other call : Invocation} (reorders : Reorders other call)
    (numbers : ∀ v ∈ flattened call.args, v.isNumber) : ∀ v ∈ flattened other.args, v.isNumber :=
  fun v member => numbers v (reorders.2.mem_iff.mp member)

theorem Reorders.whole {other call : Invocation} (reorders : Reorders other call)
    (whole : ∀ v ∈ flattened call.args, v.kind = .int) :
    ∀ v ∈ flattened other.args, v.kind = .int :=
  fun v member => whole v (reorders.2.mem_iff.mp member)

theorem flattened_numbers {values : List Value} (numbers : ∀ v ∈ values, v.isNumber) :
    flattened values = values := by
  induction values with
  | nil => rfl
  | cons value rest ih =>
    obtain ⟨number, others⟩ := List.forall_mem_cons.mp numbers
    cases value with
    | int n => exact congrArg (.int n :: ·) (ih others)
    | float x => exact congrArg (.float x :: ·) (ih others)
    | null | bool | str | list => nomatch number

theorem float_or_whole {values : List Value} (numbers : ∀ v ∈ values, v.isNumber) :
    (∃ v ∈ values, v.kind = .float) ∨ ∀ v ∈ values, v.kind = .int := by
  by_cases float : ∃ v ∈ values, v.kind = .float
  · exact .inl float
  · refine .inr fun v member => ?_
    rcases number_cases (numbers v member) with ⟨n, rfl⟩ | ⟨x, rfl⟩
    · rfl
    · exact absurd ⟨_, member, rfl⟩ float

section Total

variable {call other : Invocation}

theorem total_overflow (numbers : ∀ v ∈ flattened call.args, v.isNumber)
    (beyond : ¬Contained 0 (leading (flattened call.args))) :
    total call = .error (overflow call.name) :=
  addItems_overflow numbers beyond

theorem total_contained (numbers : ∀ v ∈ flattened call.args, v.isNumber)
    (contained : Contained 0 (leading (flattened call.args))) :
    ((∃ v ∈ flattened call.args, v.kind = .float) → ∃ x, total call = .ok (.float x)) ∧
    ((∀ v ∈ flattened call.args, v.kind = .int) → ∃ n, total call = .ok (.int n) ∧
      n.toInt = exactSum (integers (flattened call.args))) := by
  obtain ⟨floats, ints⟩ := addItems_contained call.name 0 numbers contained
  refine ⟨floats, fun whole => ?_⟩
  obtain ⟨n, ended, sum⟩ := ints whole
  exact ⟨n, ended, sum.trans (Int.zero_add _)⟩

theorem total_staying (numbers : ∀ v ∈ flattened call.args, v.isNumber)
    (contained : Contained 0 (leading (flattened call.args))) : ∃ v, total call = .ok v := by
  obtain ⟨floats, ints⟩ := total_contained numbers contained
  rcases float_or_whole numbers with float | whole
  · obtain ⟨x, ended⟩ := floats float
    exact ⟨_, ended⟩
  · obtain ⟨n, ended, _⟩ := ints whole
    exact ⟨_, ended⟩

/-- Two orders of the same numbers are alike if both stay in range. -/
theorem alike_contained (reorders : Reorders other call)
    (numbers : ∀ v ∈ flattened call.args, v.isNumber)
    (here : Contained 0 (leading (flattened call.args)))
    (there : Contained 0 (leading (flattened other.args))) :
    (total other).map kind = (total call).map kind := by
  have perm := reorders.2
  have others := reorders.numbers numbers
  obtain ⟨floats, ints⟩ := total_contained numbers here
  obtain ⟨floats', ints'⟩ := total_contained others there
  rcases float_or_whole numbers with float | whole
  · obtain ⟨v, member, float⟩ := float
    obtain ⟨x, same⟩ := floats ⟨v, member, float⟩
    obtain ⟨y, same'⟩ := floats' ⟨v, perm.mem_iff.mpr member, float⟩
    rw [same, same']
    rfl
  · obtain ⟨m, same, _⟩ := ints whole
    obtain ⟨n, same', _⟩ := ints' (reorders.whole whole)
    rw [same, same']
    rfl

theorem whole_numbers {values : List Value} (whole : ∀ v ∈ values, v.kind = .int) :
    ∀ v ∈ values, v.isNumber := by
  intro v member
  have here := whole v member
  cases v with
  | int n => rfl
  | null | bool | float | str | list => nomatch here

/-- Integers come to their exact sum or are too large. -/
theorem total_whole (whole : ∀ v ∈ flattened call.args, v.kind = .int) :
    (∃ n, total call = .ok (.int n) ∧ n.toInt = exactSum (integers (flattened call.args))) ∨
      total call = .error (overflow call.name) := by
  have numbers := whole_numbers whole
  by_cases contained : Contained 0 (leading (flattened call.args))
  · exact .inl ((total_contained numbers contained).2 whole)
  · exact .inr (total_overflow numbers contained)

/-- Integers that come to the same kind of outcome in two orders come to the same outcome. -/
theorem total_eq_of_kind (reorders : Reorders other call)
    (whole : ∀ v ∈ flattened call.args, v.kind = .int)
    (alike : (total other).map kind = (total call).map kind) : total other = total call := by
  have whole' := reorders.whole whole
  obtain ⟨name, perm⟩ := reorders
  rcases total_whole whole with ⟨m, same, sum⟩ | same <;>
    rcases total_whole whole' with ⟨n, same', sum'⟩ | same' <;>
    rw [same, same'] at alike ⊢
  · rw [exactSum_perm (integers_perm perm), ← sum] at sum'
    rw [Int64.toInt_inj.mp sum']
  · contradiction
  · contradiction
  · rw [name]

end Total

theorem leading_append {xs : List Value} (whole : ∀ v ∈ xs, v.kind = .int) (ys : List Value) :
    leading (xs ++ ys) = integers xs ++ leading ys := by
  induction xs with
  | nil => rfl
  | cons value rest ih =>
    obtain ⟨here, others⟩ := List.forall_mem_cons.mp whole
    cases value with
    | int n => exact congrArg (n :: ·) (ih others)
    | null | bool | float | str | list => nomatch here

theorem integers_filter (q : Int64 → Bool) (values : List Value) :
    integers (values.filter fun v => (int? v).any q) = (integers values).filter q := by
  induction values with
  | nil => rfl
  | cons value rest ih =>
    cases value with
    | int n =>
      have here : (int? (.int n)).any q = q n := rfl
      rw [integers_cons, List.filter_cons, List.filter_cons, here]
      cases q n with
      | true => exact congrArg (n :: ·) ih
      | false => exact ih
    | null | bool | float | str | list => exact ih

/-- If integers of some kind have a sum out of range, an order that puts them first leaves it. -/
theorem exists_overflowing {items : List Value} (q : Int64 → Bool)
    (beyond : ¬Literal.isInt64 (exactSum ((integers items).filter q)) = true) :
    ∃ order, order.Perm items ∧ ¬Contained 0 (leading order) := by
  let chosen (v : Value) : Bool := (int? v).any q
  refine ⟨items.filter chosen ++ items.filter (!chosen ·), List.filter_append_perm chosen items, ?_⟩
  intro contained
  have whole : ∀ v ∈ items.filter chosen, v.kind = .int := by
    intro v member
    have holds := (List.mem_filter.mp member).2
    cases v with
    | int n => rfl
    | null | bool | float | str | list => contradiction
  rw [leading_append whole] at contained
  apply beyond
  rw [← integers_filter]
  simpa using contained _ (List.prefix_append _ _)

theorem map_integers {values : List Value} (whole : ∀ v ∈ values, v.kind = .int) :
    (integers values).map Value.int = values := by
  induction values with
  | nil => rfl
  | cons value rest ih =>
    obtain ⟨here, others⟩ := List.forall_mem_cons.mp whole
    cases value with
    | int n => exact congrArg (.int n :: ·) (ih others)
    | null | bool | float | str | list => nomatch here

theorem integers_map (ns : List Int64) : integers (ns.map Value.int) = ns := by
  induction ns with
  | nil => rfl
  | cons n ns ih => exact congrArg (n :: ·) ih

/-- Numbers can be put into an order that stays in range, unless they are integers with an exact sum
beyond it. -/
theorem exists_staying {items : List Value} (numbers : ∀ v ∈ items, v.isNumber)
    (possible : (∀ v ∈ items, v.kind = .int) →
      Literal.isInt64 (exactSum (integers items)) = true) :
    ∃ order, order.Perm items ∧ Contained 0 (leading order) := by
  have zero : Literal.isInt64 0 = true := by decide
  rcases float_or_whole numbers with ⟨v, member, float⟩ | whole
  · obtain ⟨before, after, rfl⟩ := List.append_of_mem member
    refine ⟨v :: (before ++ after), List.perm_middle.symm, ?_⟩
    cases v with
    | float x => exact contained_nil zero
    | null | bool | int | str | list => nomatch float
  · have there := possible whole
    rw [← Int.zero_add (exactSum _)] at there
    obtain ⟨order, perm, contained⟩ := exists_contained zero there
    refine ⟨order.map .int, ?_, ?_⟩
    · have same := perm.map Value.int
      rwa [map_integers whole] at same
    · have ints : ∀ v ∈ order.map Value.int, v.kind = .int := by
        intro v member
        obtain ⟨n, _, rfl⟩ := List.mem_map.mp member
        rfl
      rwa [leading_whole ints, integers_map]

/-- Every order of numbers is that of some call. -/
theorem exists_reorders {call : Invocation} {order : List Value}
    (numbers : ∀ v ∈ flattened call.args, v.isNumber) (perm : order.Perm (flattened call.args)) :
    ∃ other, Reorders other call ∧ flattened other.args = order := by
  have flat := flattened_numbers fun v member => numbers v (perm.mem_iff.mp member)
  refine ⟨⟨call.name, order, .empty⟩, ⟨rfl, ?_⟩, flat⟩
  rwa [flat]

/-- The order of numbers makes no difference just if neither the positive integers among them nor
the negative ones have a sum out of range, or all are integers and their sum is out of range. -/
theorem order_indifferent_iff {call : Invocation}
    (numbers : ∀ v ∈ flattened call.args, v.isNumber) :
    (∀ other, Reorders other call → (total other).map kind = (total call).map kind) ↔
      Moderate (integers (flattened call.args)) ∨
        (∀ v ∈ flattened call.args, v.kind = .int) ∧
          ¬Literal.isInt64 (exactSum (integers (flattened call.args))) = true := by
  constructor
  · intro alike
    by_contra neither
    obtain ⟨extreme, open_end⟩ := not_or.mp neither
    obtain ⟨order, perm, staying⟩ := exists_staying numbers fun whole => by
      by_contra beyond
      exact open_end ⟨whole, beyond⟩
    obtain ⟨order', perm', leaving⟩ : ∃ order, order.Perm (flattened call.args) ∧
        ¬Contained 0 (leading order) := by
      rcases not_and_or.mp extreme with up | down
      · exact exists_overflowing (0 < ·.toInt) up
      · exact exists_overflowing (·.toInt < 0) down
    obtain ⟨first, reorders, rfl⟩ := exists_reorders numbers perm
    obtain ⟨second, reorders', rfl⟩ := exists_reorders numbers perm'
    obtain ⟨value, ended⟩ := total_staying (reorders.numbers numbers) staying
    have failed := total_overflow (reorders'.numbers numbers) leaving
    have same := (alike _ reorders).trans (alike _ reorders').symm
    rw [ended, failed] at same
    contradiction
  · rintro (moderate | ⟨whole, beyond⟩) other reorders
    · have here := moderate.contained (leading_first _)
      have there := (moderate.perm (integers_perm reorders.2)).contained (leading_first _)
      exact alike_contained reorders numbers here there
    · have leaves {call' : Invocation} (reorders : Reorders call' call) :
          total call' = .error (overflow call'.name) := by
        have whole' := reorders.whole whole
        apply total_overflow (reorders.numbers numbers)
        intro contained
        apply beyond
        have last := contained _ List.prefix_rfl
        rwa [leading_whole whole', exactSum_perm (integers_perm reorders.2), Int.zero_add] at last
      rw [leaves reorders, leaves (.refl call), reorders.1]

/-- What the sum of a call comes to if all its elements are numbers. -/
structure SumsUp (call : Invocation) : Prop where
  float : Contained 0 (leading (flattened call.args)) →
    (∃ v ∈ flattened call.args, v.kind = .float) → ∃ x, Operation.sum.call call = .ok (.float x)
  /-- Integers have their exact sum. -/
  int : Contained 0 (leading (flattened call.args)) →
    (∀ v ∈ flattened call.args, v.kind = .int) →
      ∃ n, Operation.sum.call call = .ok (.int n) ∧
        n.toInt = exactSum (integers (flattened call.args))
  overflow : ¬Contained 0 (leading (flattened call.args)) →
    Operation.sum.call call = .error (overflow call.name)
  /-- The kind of the outcome is the same in all orders just if no order has a partial sum out of
  range, or if all have it because the integers as a whole are out of range. -/
  order : (∀ other, Reorders other call →
      (Operation.sum.call other).map kind = (Operation.sum.call call).map kind) ↔
    Moderate (integers (flattened call.args)) ∨
      (∀ v ∈ flattened call.args, v.kind = .int) ∧
        ¬Literal.isInt64 (exactSum (integers (flattened call.args))) = true
  /-- Integers in two orders differ in nothing else. -/
  outcome : (∀ v ∈ flattened call.args, v.kind = .int) → ∀ other, Reorders other call →
    (Operation.sum.call other).map kind = (Operation.sum.call call).map kind →
      Operation.sum.call other = Operation.sum.call call

/-- Numbers are summed up as told, and an element that is no number is an error of the argument's
type. -/
theorem sum_meant (call : Invocation) :
    ((∀ v ∈ flattened call.args, v.isNumber) → SumsUp call) ∧
    ((∃ v ∈ flattened call.args, ¬v.isNumber) →
      ∃ message, Operation.sum.call call = .error (.wrongType call.name message)) := by
  constructor
  · intro numbers
    constructor
    case float => exact fun contained => (total_contained numbers contained).1
    case int => exact fun contained => (total_contained numbers contained).2
    case overflow => exact total_overflow numbers
    case order => exact order_indifferent_iff numbers
    case outcome => exact fun whole other reorders => total_eq_of_kind reorders whole
  · intro other
    exact addItems_other call.name other

/-- Integers before and after a float, some of them in a list. -/
theorem sum_meant_mixed :
    let call : Invocation :=
      ⟨"sum", [.int 5, .list [.int (-7), .float (.ofInt 2)], .int 9223372036854775807], .empty⟩
    (∀ v ∈ flattened call.args, v.isNumber) ∧ SumsUp call ∧
      ∃ x, Operation.sum.call call = .ok (.float x) := by
  intro call
  have numbers : ∀ v ∈ flattened call.args, v.isNumber := by
    intro v member
    simp only [call, flattened, List.cons_append, List.nil_append, List.mem_cons] at member
    rcases member with rfl | rfl | rfl | rfl | none
    · rfl
    · rfl
    · rfl
    · rfl
    · contradiction
  have sums := (sum_meant call).1 numbers
  have contained : Contained 0 [5, -7] := by
    refine contained_cons.mpr ⟨by decide, contained_cons.mpr ⟨by decide, contained_nil ?_⟩⟩
    decide
  have member : (.float (.ofInt 2)) ∈ flattened call.args := by
    simp [call, flattened]
  exact ⟨numbers, sums, sums.float contained ⟨_, member, rfl⟩⟩

/-- A sum in range that is passed on the way: whether it is reached depends on the order. A float at
the end is of no use either. -/
theorem partial_sum_overflows :
    let greatest : Value := .int 9223372036854775807
    exactSum [9223372036854775807, 1, -1] = 9223372036854775807 ∧
      Operation.sum.call ⟨"sum", [greatest, .int 1, .int (-1)], .empty⟩ =
        .error (overflow "sum") ∧
      Operation.sum.call ⟨"sum", [.int 1, .int (-1), greatest], .empty⟩ = .ok greatest ∧
      Operation.sum.call ⟨"sum", [greatest, .int 1, .float (.ofInt 2)], .empty⟩ =
        .error (overflow "sum") := by
  refine ⟨?_, rfl, rfl, rfl⟩
  decide

end TickScript.Operation
