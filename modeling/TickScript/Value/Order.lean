import TickScript.Value

/-! Equality and order of values. Two integers are compared exactly; an integer
and a float as floats; lists item by item. Values of kinds that have no common
order, and not-a-number with anything, cannot be compared. -/
namespace TickScript.Value

mutual

/-- The order of two values, if they have one. -/
def order : Value → Value → Option Ordering
  | .int m, .int n => some (compare m n)
  | .int m, .float y => (Binary64.ofInt m.toInt).order y
  | .float x, .int n => x.order (.ofInt n.toInt)
  | .float x, .float y => x.order y
  | .str s, .str t => some (compare s t)
  | .bool a, .bool b => some (compare a b)
  | .list xs, .list ys => orderItems xs ys
  | _, _ => none

/-- The order at the first items that differ; a list that ends first comes first. -/
def orderItems : List Value → List Value → Option Ordering
  | [], [] => some .eq
  | [], _ :: _ => some .lt
  | _ :: _, [] => some .gt
  | x :: xs, y :: ys =>
    match x.order y with
    | none => none
    | some .eq => orderItems xs ys
    | some unequal => some unequal

end

mutual

/-- Equality of values, in which an integer equals the float it is rounded to. -/
def same : Value → Value → Bool
  | .null, .null => true
  | .bool a, .bool b => a == b
  | .int m, .int n => m == n
  | .int m, .float y => (Binary64.ofInt m.toInt).same y
  | .float x, .int n => x.same (.ofInt n.toInt)
  | .float x, .float y => x.same y
  | .str s, .str t => s == t
  | .list xs, .list ys => sameItems xs ys
  | _, _ => false

def sameItems : List Value → List Value → Bool
  | [], [] => true
  | x :: xs, y :: ys => x.same y && sameItems xs ys
  | _, _ => false

end

end TickScript.Value
