import TickScript.Builtin.Host

/-! The built-in commands with the arms that are not to be reached. Arguments are counted first and
taken apart after that, which leaves an arm for every other number of them, and integers are added
and subtracted within their 64 bits. No command ever comes to such an arm, and no result leaves the
range unnoticed. -/
namespace TickScript

/-- An integer that was computed within 64 bits, if it is the exact one. -/
def exact64? (wrapped : Int64) (exact : Int) : Option Int64 :=
  if wrapped.toInt = exact then some wrapped else none

theorem exact64_ofInt (n : Int) : exact64? (.ofInt n) n = fitInt64? n := by
  unfold exact64? fitInt64?
  have range := Int64.toInt_lt (.ofInt n)
  have above := Int64.le_toInt (.ofInt n)
  by_cases fits : Literal.isInt64 n = true
  · have bounds := fits
    simp only [Literal.isInt64, Bool.and_eq_true, decide_eq_true_eq] at bounds
    have exact : (Int64.ofInt n).toInt = n := Int64.toInt_ofInt_of_le (by omega) (by omega)
    rw [if_pos exact, if_pos fits]
  · have beyond : (Int64.ofInt n).toInt ≠ n := by
      intro exact
      rw [exact] at range above
      apply fits
      simp only [Literal.isInt64, Bool.and_eq_true, decide_eq_true_eq]
      omega
    rw [if_neg beyond, if_neg fits]

theorem exact64_add (m n : Int64) :
    exact64? (m + n) (m.toInt + n.toInt) = fitInt64? (m.toInt + n.toInt) := by
  have wrapped : m + n = .ofInt (m.toInt + n.toInt) := by
    rw [Int64.ofInt_add, Int64.ofInt_toInt, Int64.ofInt_toInt]
  rw [wrapped, exact64_ofInt]

theorem exact64_sub (m n : Int64) :
    exact64? (m - n) (m.toInt - n.toInt) = fitInt64? (m.toInt - n.toInt) := by
  have wrapped : m - n = .ofInt (m.toInt - n.toInt) := by
    rw [Int64.ofInt_sub, Int64.ofInt_toInt, Int64.ofInt_toInt]
  rw [wrapped, exact64_ofInt]

namespace Invocation

def counted (call : Invocation) (count : Nat) : Except ScriptError (List Value) :=
  if call.args.length = count then .ok call.args
  else .error (.wrongCount call.name (toString count) call.args.length)

/-- The outcome of a command of one argument; none if the count has let others through. -/
def one? {α : Type} (call : Invocation) (result : Value → Except ScriptError α) :
    Option (Except ScriptError α) :=
  match call.counted 1 with
  | .error error => some (.error error)
  | .ok [x] => some (result x)
  | .ok _ => none

def two? {α : Type} (call : Invocation) (result : Value → Value → Except ScriptError α) :
    Option (Except ScriptError α) :=
  match call.counted 2 with
  | .error error => some (.error error)
  | .ok [x, y] => some (result x y)
  | .ok _ => none

theorem two_eq {α : Type} (call : Invocation) (result : Value → Value → Except ScriptError α) :
    call.two? result = some (call.pair >>= fun pair => result pair.1 pair.2) := by
  unfold two? counted pair
  match call.args with
  | [] | [_] | [_, _] => rfl
  | x :: y :: z :: rest =>
    have other : (x :: y :: z :: rest).length ≠ 2 := by simp
    rw [if_neg other]
    rfl

end Invocation

namespace Operation

def inRange (command : String) (wrapped : Int64) (exact : Int) : Except ScriptError Value :=
  match exact64? wrapped exact with
  | some n => .ok (.int n)
  | none => .error (overflow command)

def addByArms (command : String) : Value → Value → Except ScriptError Value
  | .int m, .int n => inRange command (m + n) (m.toInt + n.toInt)
  | x, y => addTo command x y

def subByArms (command : String) : Value → Value → Except ScriptError Value
  | .int m, .int n => inRange command (m - n) (m.toInt - n.toInt)
  | x, y =>
    match x.number?, y.number? with
    | some a, some b => .ok (.float (a.sub b))
    | _, _ => .error (notNumbers command x y)

def compareByArms (command : String) (accept : Ordering → Bool) (x y : Value) :
    Except ScriptError Value :=
  match x.order y with
  | some order => .ok (.bool (accept order))
  | none => .error (incomparable command x y)

/-- An operation by way of all its arms; none where it comes to one that is not to be reached. -/
def byArms? : Operation → Invocation → Option (Except ScriptError Value)
  | eq, call => call.two? fun x y => .ok (.bool (x.same y))
  | neq, call => call.two? fun x y => .ok (.bool (!x.same y))
  | or, call => call.two? fun x y => .ok (if x.holds then x else y)
  | and, call => call.two? fun x y => .ok (if x.holds then y else x)
  | gt, call => call.two? (compareByArms call.name (· == .gt))
  | ge, call => call.two? (compareByArms call.name (· != .lt))
  | lt, call => call.two? (compareByArms call.name (· == .lt))
  | le, call => call.two? (compareByArms call.name (· != .gt))
  | max, call => some (extreme .gt call)
  | min, call => some (extreme .lt call)
  | sum, call => some ((flattened call.args).foldlM (addByArms call.name) (.int 0))
  | diff, call => call.two? (subByArms call.name)
  | print, _ => some (.ok .null)

theorem addByArms_eq (command : String) (x y : Value) :
    addByArms command x y = addTo command x y := by
  unfold addByArms
  split
  · rewrite [addTo, inRange, exact64_add, fitted]
    rfl
  · rfl

theorem subByArms_int (command : String) (m n : Int64) :
    subByArms command (.int m) (.int n) = fitted command (m.toInt - n.toInt) := by
  rewrite [subByArms, inRange, exact64_sub, fitted]
  rfl

theorem foldlM_addByArms (command : String) (total : Value) (items : List Value) :
    items.foldlM (addByArms command) total = addItems command total items := by
  induction items generalizing total with
  | nil => rfl
  | cons item rest ih =>
    rw [List.foldlM_cons, addByArms_eq, addItems]
    exact bind_congr ih

/-- No operation comes to an arm that is not to be reached, and integers come out exact. -/
theorem byArms_eq (op : Operation) (call : Invocation) : op.byArms? call = some (op.call call) := by
  cases op with
  | eq | neq | or | and | gt | ge | lt | le => exact call.two_eq _
  | max | min | print => rfl
  | sum => exact congrArg some (foldlM_addByArms ..)
  | diff =>
    refine (call.two_eq _).trans (congrArg some (bind_congr fun pair => ?_))
    obtain ⟨x, y⟩ := pair
    dsimp only
    split
    case h_1 same =>
      cases same
      exact subByArms_int ..
    case h_2 x y other same =>
      cases same
      unfold subByArms
      split
      case h_1 m n => exact (other m n rfl rfl).elim
      case h_2 => rfl

end Operation

namespace Builtin

def askedByArms? (call : Invocation) : Option (Except ScriptError Binary64) :=
  call.one? fun amount =>
    match millis? amount with
    | none => .error (badAmount call.name amount)
    | some ms => .ok ms

theorem askedByArms_eq (call : Invocation) : askedByArms? call = some (asked call) := by
  unfold askedByArms? asked Invocation.one? Invocation.counted
  match call.args with
  | [] | [_] => rfl
  | x :: y :: rest =>
    have other : (x :: y :: rest).length ≠ 1 := by simp
    rw [if_neg other]
    rfl

end Builtin
end TickScript
