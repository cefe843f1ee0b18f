import TickScript.Decimal.Literal

/-! Values that commands take and give. -/
namespace TickScript

/-- An integer as a 64-bit one with a sign, if it fits. -/
def fitInt64? (n : Int) : Option Int64 :=
  if Literal.isInt64 n then some (Int64.ofInt n) else none

theorem fitInt64_toInt (n : Int64) : fitInt64? n.toInt = some n := by
  have fits : Literal.isInt64 n.toInt = true := by
    have lower := n.le_toInt
    have upper := n.toInt_lt
    simp only [Literal.isInt64, Bool.and_eq_true, decide_eq_true_eq]
    omega
  rw [fitInt64?, if_pos fits, Int64.ofInt_toInt]

inductive Value
  | null
  | bool (b : Bool)
  | int (n : Int64)
  | float (x : Binary64)
  | str (s : String)
  | list (items : List Value)
  deriving Inhabited

namespace Value

/-- False, null, zero, the empty text and the empty list do not hold; every other value does. -/
def holds : Value → Bool
  | .null => false
  | .bool b => b
  | .int n => n != 0
  | .float x => !x.isZero
  | .str s => !s.isEmpty
  | .list items => !items.isEmpty

/-- The number a value stands for, integers rounded to the nearest one. -/
def number? : Value → Option Binary64
  | .int n => some (.ofInt n.toInt)
  | .float x => some x
  | _ => none

def isNumber (v : Value) : Bool := v.number?.isSome

inductive Kind
  | null | bool | int | float | string | list
  deriving DecidableEq, Repr

def Kind.name : Kind → String
  | null => "null"
  | bool => "bool"
  | int => "int"
  | float => "float"
  | string => "string"
  | list => "list"

def kind : Value → Kind
  | .null => .null
  | .bool _ => .bool
  | .int _ => .int
  | .float _ => .float
  | .str _ => .string
  | .list _ => .list

/-- Induction on values, from the items of a list to the whole. -/
theorem induct {P : Value → Prop} (atom : ∀ v, v.kind ≠ .list → P v)
    (list : ∀ items, (∀ item ∈ items, P item) → P (.list items)) (v : Value) : P v :=
  @Value.rec P (fun items => ∀ item ∈ items, P item) (atom .null nofun)
    (fun _ => atom _ nofun) (fun _ => atom _ nofun) (fun _ => atom _ nofun)
    (fun _ => atom _ nofun) list nofun
    (fun _ _ first rest => List.forall_mem_cons.mpr ⟨first, rest⟩) v

end Value
end TickScript
