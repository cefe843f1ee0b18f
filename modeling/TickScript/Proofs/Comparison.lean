import TickScript.Value.Order
import TickScript.Proofs.Rounding

/-! Equality and order of values, taken together. Integers are compared exactly among themselves but
as doubles with floats, so a float can stand between two different integers and equal both. Where
no float does so, equality is transitive and equal values are ordered alike. -/
namespace TickScript

theorem compare_toInt (m n : Int64) : compare m n = compare m.toInt n.toInt := by
  change compareOfLessAndEq m n = compareOfLessAndEq m.toInt n.toInt
  simp only [compareOfLessAndEq, Int64.lt_iff_toInt_lt, Int64.toInt_inj]

theorem lt_of_isLE {p : Ordering} (up : p.isLE) (different : p ≠ .eq) : p = .lt :=
  (Ordering.isLE_iff_eq_lt_or_eq_eq.mp up).resolve_right different

/-- Two steps that do not go down, taken as one. -/
theorem compare_then {α : Type} [Ord α] [Std.TransOrd α] {a b c : α} {p q : Ordering}
    (first : compare a b = p) (second : compare b c = q) (up : p.isLE) (on : q.isLE) :
    compare a c = p.then q := by
  cases p with
  | lt => exact Std.TransCmp.lt_of_lt_of_isLE first (second ▸ on)
  | eq => exact (Std.TransCmp.congr_left first).trans second
  | gt => nomatch up

namespace Binary64

variable {x y z : Binary64}

theorem order_eq_some {o : Ordering} :
    x.order y = some o ↔ x.isNaN = false ∧ y.isNaN = false ∧ compare x.key y.key = o := by
  unfold order
  cases x.isNaN <;> cases y.isNaN <;> simp

theorem same_iff : x.same y = true ↔ x.isNaN = false ∧ y.isNaN = false ∧ x.key = y.key := by
  rw [same, beq_iff_eq, order_eq_some, Int.compare_eq_eq]

theorem order_swap (x y : Binary64) : y.order x = (x.order y).map Ordering.swap := by
  unfold order
  rw [Bool.or_comm]
  cases x.isNaN || y.isNaN with
  | true => rfl
  | false => exact congrArg some Std.OrientedCmp.eq_swap

theorem order_then {p q : Ordering} (first : x.order y = some p) (second : y.order z = some q)
    (up : p.isLE) (on : q.isLE) : x.order z = some (p.then q) := by
  obtain ⟨number, -, first⟩ := order_eq_some.mp first
  obtain ⟨-, last, second⟩ := order_eq_some.mp second
  exact order_eq_some.mpr ⟨number, last, compare_then first second up on⟩

theorem order_congr (equal : x.same y) (z : Binary64) : x.order z = y.order z := by
  obtain ⟨first, second, keys⟩ := same_iff.mp equal
  rw [order, order, first, second, keys]

theorem same_symm (equal : x.same y) : y.same x := by
  obtain ⟨first, second, keys⟩ := same_iff.mp equal
  exact same_iff.mpr ⟨second, first, keys.symm⟩

theorem same_trans (first : x.same y) (second : y.same z) : x.same z := by
  rwa [same, order_congr first]

def merges (x : Binary64) (m n : Int64) : Bool :=
  m != n && (ofInt m.toInt).same x && (ofInt n.toInt).same x

variable {m n : Int64}

theorem merges_self : x.merges m m = false := by
  simp [merges]

theorem merges_comm (x : Binary64) (m n : Int64) : x.merges m n = x.merges n m := by
  rw [merges, merges, bne_comm, Bool.and_assoc, Bool.and_assoc,
    Bool.and_comm ((ofInt m.toInt).same x)]

theorem same_of_merges (merged : x.merges m n) :
    (ofInt m.toInt).same x ∧ (ofInt n.toInt).same x := by
  simp only [merges, Bool.and_eq_true] at merged
  exact ⟨merged.1.2, merged.2⟩

theorem not_same_of_lt (less : x.order y = some .lt) : ¬x.same y := by
  rw [same, less]
  nofun

theorem eq_of_merges (clear : x.merges m n = false) (first : (ofInt m.toInt).same x)
    (second : (ofInt n.toInt).same x) : m = n := by
  simpa [merges, first, second] using clear

/-- Integers that are not rounded to the same double are in the order of their doubles. -/
theorem order_ofInt (apart : (ofInt m.toInt).same (ofInt n.toInt) → m = n) :
    (ofInt m.toInt).order (ofInt n.toInt) = some (compare m n) := by
  have distinct (different : m.toInt ≠ n.toInt) : (ofInt m.toInt).key ≠ (ofInt n.toInt).key :=
    fun keys => different (congrArg _ (apart (same_iff.mpr ⟨isNaN_ofInt _, isNaN_ofInt _, keys⟩)))
  refine order_eq_some.mpr ⟨isNaN_ofInt _, isNaN_ofInt _, ?_⟩
  rw [compare_toInt]
  rcases Int.lt_trichotomy m.toInt n.toInt with less | same | greater
  · have keys := key_ofInt_mono (Int.le_of_lt less)
    have distinct := distinct (Int.ne_of_lt less)
    rw [Int.compare_eq_lt.mpr less, Int.compare_eq_lt]
    omega
  · rw [same]
    exact (Int.compare_eq_eq.mpr rfl).trans (Int.compare_eq_eq.mpr rfl).symm
  · have keys := key_ofInt_mono (Int.le_of_lt greater)
    have distinct := distinct (Int.ne_of_gt greater)
    rw [Int.compare_eq_gt.mpr greater, Int.compare_eq_gt]
    omega

theorem order_congr_right (equal : x.same y) (z : Binary64) : z.order x = z.order y := by
  rw [order_swap x z, order_swap y z, order_congr equal]

/-- Two integers and then a float. -/
theorem order_then_float {p q : Ordering} (first : compare m n = p)
    (second : (ofInt n.toInt).order x = some q) (up : p.isLE) (on : q.isLE)
    (clear : x.merges m n = false) : (ofInt m.toInt).order x = some (p.then q) := by
  by_cases apart : (ofInt m.toInt).same (ofInt n.toInt) → m = n
  · exact order_then ((order_ofInt apart).trans (congrArg some first)) second up on
  · obtain ⟨equal, different⟩ := Classical.not_imp.mp apart
    have strict : p = .lt := lt_of_isLE up fun same =>
      different (Std.LawfulEqOrd.eq_of_compare (first.trans same))
    have strict' : q = .lt := lt_of_isLE on fun same => by
      have second : (ofInt n.toInt).same x := beq_iff_eq.mpr (second.trans (congrArg some same))
      exact different (eq_of_merges clear (same_trans equal second) second)
    rw [order_congr equal, second, strict, strict']
    rfl

/-- A float and then two integers. -/
theorem float_order_then {p q : Ordering} (first : x.order (ofInt m.toInt) = some p)
    (second : compare m n = q) (up : p.isLE) (on : q.isLE) (clear : x.merges m n = false) :
    x.order (ofInt n.toInt) = some (p.then q) := by
  by_cases apart : (ofInt m.toInt).same (ofInt n.toInt) → m = n
  · exact order_then first ((order_ofInt apart).trans (congrArg some second)) up on
  · obtain ⟨equal, different⟩ := Classical.not_imp.mp apart
    have strict : q = .lt := lt_of_isLE on fun same =>
      different (Std.LawfulEqOrd.eq_of_compare (second.trans same))
    have strict' : p = .lt := lt_of_isLE up fun same => by
      have first : (ofInt m.toInt).same x :=
        same_symm (beq_iff_eq.mpr (first.trans (congrArg some same)))
      exact different (eq_of_merges clear first (same_trans (same_symm equal) first))
    rw [← order_congr_right equal, first, strict, strict']
    rfl

/-- A float between two integers. -/
theorem order_around {p q : Ordering} (first : (ofInt m.toInt).order x = some p)
    (second : x.order (ofInt n.toInt) = some q) (up : p.isLE) (on : q.isLE)
    (clear : x.merges m n = false) : compare m n = p.then q := by
  have doubles := order_then first second up on
  have apart (equal : (ofInt m.toInt).same (ofInt n.toInt)) : m = n := by
    rw [same, doubles, beq_iff_eq, Option.some.injEq, Ordering.then_eq_eq] at equal
    obtain ⟨rfl, rfl⟩ := equal
    exact eq_of_merges clear (beq_iff_eq.mpr first) (same_symm (beq_iff_eq.mpr second))
  rw [order_ofInt apart] at doubles
  exact Option.some.inj doubles

end Binary64

namespace Value

mutual

/-- Where three values first are not all equal, one of them has a float that stands for the two
different integers of the others. -/
def blurred : Value → Value → Value → Bool
  | .int m, .int n, .float x => x.merges m n
  | .int m, .float x, .int n => x.merges m n
  | .float x, .int m, .int n => x.merges m n
  | .list xs, .list ys, .list zs => blurredItems xs ys zs
  | _, _, _ => false

def blurredItems : List Value → List Value → List Value → Bool
  | x :: xs, y :: ys, z :: zs =>
    x.blurred y z || (x.same y && y.same z && x.same z && blurredItems xs ys zs)
  | _, _, _ => false

end

inductive Kindred : Value → Value → Prop
  | null : Kindred .null .null
  | bool {a b : Bool} : Kindred (.bool a) (.bool b)
  | number {x y : Value} (first : x.isNumber) (second : y.isNumber) : Kindred x y
  | str {s t : String} : Kindred (.str s) (.str t)
  | list {xs ys : List Value} : Kindred (.list xs) (.list ys)

theorem kindred_of_same {x y : Value} (equal : x.same y) : Kindred x y := by
  cases x <;> cases y <;>
    first
    | exact .null
    | exact .bool
    | exact .number rfl rfl
    | exact .str
    | exact .list
    | simp [same] at equal

theorem kindred_of_order {x y : Value} {o : Ordering} (ordered : x.order y = some o) :
    Kindred x y := by
  cases x <;> cases y <;>
    first
    | exact .bool
    | exact .number rfl rfl
    | exact .str
    | exact .list
    | simp [order] at ordered

section Numbers

variable {x y z : Value}

theorem number_cases (number : x.isNumber) : (∃ n, x = .int n) ∨ ∃ d, x = .float d := by
  cases x with
  | int n => exact .inl ⟨n, rfl⟩
  | float d => exact .inr ⟨d, rfl⟩
  | null | bool | str | list => nomatch number

theorem number_order_then {p q : Ordering} (hx : x.isNumber) (hy : y.isNumber) (hz : z.isNumber)
    (first : x.order y = some p) (second : y.order z = some q) (up : p.isLE) (on : q.isLE)
    (clear : x.blurred y z = false) : x.order z = some (p.then q) := by
  rcases number_cases hx with ⟨l, rfl⟩ | ⟨c, rfl⟩ <;>
    rcases number_cases hy with ⟨m, rfl⟩ | ⟨d, rfl⟩ <;>
    rcases number_cases hz with ⟨n, rfl⟩ | ⟨e, rfl⟩ <;>
    simp only [order, Option.some.injEq, blurred] at first second clear ⊢
  · exact compare_then first second up on
  · exact Binary64.order_then_float first second up on clear
  · exact Binary64.order_around first second up on clear
  · exact Binary64.order_then first second up on
  · exact Binary64.float_order_then first second up on clear
  all_goals exact Binary64.order_then first second up on

theorem number_order_congr (hx : x.isNumber) (hy : y.isNumber) (hz : z.isNumber)
    (equal : x.same y) (clear : x.blurred y z = false) : x.order z = y.order z := by
  rcases number_cases hx with ⟨l, rfl⟩ | ⟨c, rfl⟩ <;>
    rcases number_cases hy with ⟨m, rfl⟩ | ⟨d, rfl⟩ <;>
    rcases number_cases hz with ⟨n, rfl⟩ | ⟨e, rfl⟩ <;>
    simp only [order, same, blurred] at equal clear ⊢
  · rw [eq_of_beq equal]
  · rw [eq_of_beq equal]
  · rw [← Binary64.order_congr equal, Binary64.order_ofInt fun doubles =>
      Binary64.eq_of_merges clear equal (Binary64.same_trans (Binary64.same_symm doubles) equal)]
  · exact Binary64.order_congr equal _
  · have equal' := Binary64.same_symm equal
    rw [Binary64.order_congr equal, Binary64.order_ofInt fun doubles =>
      Binary64.eq_of_merges clear equal' (Binary64.same_trans (Binary64.same_symm doubles) equal')]
  all_goals exact Binary64.order_congr equal _

theorem number_same_then (hx : x.isNumber) (hy : y.isNumber) (hz : z.isNumber)
    (first : x.same y) (second : y.same z) : x.same z = !x.blurred y z := by
  rcases number_cases hx with ⟨l, rfl⟩ | ⟨c, rfl⟩ <;>
    rcases number_cases hy with ⟨m, rfl⟩ | ⟨d, rfl⟩ <;>
    rcases number_cases hz with ⟨n, rfl⟩ | ⟨e, rfl⟩ <;>
    simp only [same, blurred, Bool.not_false] at first second ⊢
  · exact beq_iff_eq.mpr ((eq_of_beq first).trans (eq_of_beq second))
  · rw [eq_of_beq first, second, Binary64.merges_self, Bool.not_false]
  · simp [Binary64.merges, first, Binary64.same_symm second, bne]
  · exact Binary64.same_trans first second
  · rw [← eq_of_beq second, first, Binary64.merges_self, Bool.not_false]
  all_goals exact Binary64.same_trans first second

/-- No float stands for two integers of numbers that strictly go up. -/
theorem number_clear (hx : x.isNumber) (hy : y.isNumber) (hz : z.isNumber)
    (first : x.order y = some .lt) (second : y.order z = some .lt) : x.blurred y z = false := by
  rw [Bool.eq_false_iff]
  intro merged
  rcases number_cases hx with ⟨l, rfl⟩ | ⟨c, rfl⟩ <;>
    rcases number_cases hy with ⟨m, rfl⟩ | ⟨d, rfl⟩ <;>
    rcases number_cases hz with ⟨n, rfl⟩ | ⟨e, rfl⟩ <;>
    simp only [order, blurred, Bool.false_eq_true] at first second merged
  · exact Binary64.not_same_of_lt second (Binary64.same_of_merges merged).2
  · exact Binary64.not_same_of_lt first (Binary64.same_of_merges merged).1
  · exact Binary64.not_same_of_lt first
      (Binary64.same_symm (Binary64.same_of_merges merged).1)

end Numbers

theorem Kindred.number_right {x y : Value} (kin : Kindred x y) (number : x.isNumber) :
    y.isNumber := by
  cases kin with
  | number _ second => exact second
  | null | bool | str | list => nomatch number

/-- A number has no order with what is no number. -/
theorem number_order_none {x y : Value} (number : x.isNumber) (other : ¬y.isNumber) :
    x.order y = none := by
  cases found : x.order y with
  | none => rfl
  | some o => exact absurd ((kindred_of_order found).number_right number) other

section Items

variable {x y z : Value} {xs ys zs : List Value}

/-- Lists are in the order of their first items that are not equal. -/
theorem orderItems_cons {o : Ordering} :
    orderItems (x :: xs) (y :: ys) = some o ↔
      (x.order y = some .eq ∧ orderItems xs ys = some o) ∨ (x.order y = some o ∧ o ≠ .eq) := by
  rw [orderItems]
  cases x.order y with
  | none => simp
  | some first => cases first <;> cases o <;> simp

theorem clear_cons (clear : blurredItems (x :: xs) (y :: ys) (z :: zs) = false) :
    x.blurred y z = false ∧
      (x.same y → y.same z → x.same z → blurredItems xs ys zs = false) := by
  rw [blurredItems, Bool.or_eq_false_iff] at clear
  refine ⟨clear.1, fun first second around => ?_⟩
  simpa [first, second, around] using clear.2

end Items

theorem order_swap (x y : Value) : y.order x = (x.order y).map Ordering.swap := by
  induction x using induct generalizing y with
  | atom x plain =>
    cases x <;> cases y <;>
      first
      | rfl
      | exact congrArg some Std.OrientedCmp.eq_swap
      | exact Binary64.order_swap ..
      | exact absurd rfl plain
  | list xs each =>
    cases y with
    | list ys =>
      rw [order, order]
      induction xs generalizing ys with
      | nil => cases ys <;> rfl
      | cons x xs ih =>
        obtain ⟨first, others⟩ := List.forall_mem_cons.mp each
        cases ys with
        | nil => rfl
        | cons y ys =>
          rw [orderItems, orderItems, first, ih others]
          cases x.order y with
          | none => rfl
          | some o => cases o <;> rfl
    | null | bool | int | float | str => rfl

theorem number_same_of_order {x y : Value} (hx : x.isNumber) (hy : y.isNumber)
    (equal : x.order y = some .eq) : x.same y := by
  rcases number_cases hx with ⟨m, rfl⟩ | ⟨d, rfl⟩ <;>
    rcases number_cases hy with ⟨n, rfl⟩ | ⟨e, rfl⟩ <;>
    rw [order] at equal
  · exact beq_iff_eq.mpr (Std.LawfulEqOrd.eq_of_compare (Option.some.inj equal))
  all_goals exact beq_iff_eq.mpr equal

theorem same_of_order {x y : Value} (equal : x.order y = some .eq) : x.same y := by
  induction x using induct generalizing y with
  | atom x plain =>
    cases kindred_of_order equal with
    | null => rfl
    | bool | str => exact beq_iff_eq.mpr (Std.LawfulEqOrd.eq_of_compare (Option.some.inj equal))
    | number hx hy => exact number_same_of_order hx hy equal
    | list => exact absurd rfl plain
  | list xs each =>
    cases kindred_of_order equal with
    | number hx _ => nomatch hx
    | @list _ ys =>
      rw [order] at equal
      rw [same]
      induction xs generalizing ys with
      | nil =>
        cases ys with
        | nil => rfl
        | cons => nomatch equal
      | cons x xs ih =>
        obtain ⟨first, others⟩ := List.forall_mem_cons.mp each
        cases ys with
        | nil => nomatch equal
        | cons y ys =>
          rcases orderItems_cons.mp equal with ⟨heads, tails⟩ | ⟨-, unequal⟩
          · rw [sameItems, first heads, ih others tails, Bool.and_true]
          · exact absurd rfl unequal

theorem number_same_symm {x y : Value} (hx : x.isNumber) (hy : y.isNumber) (equal : x.same y) :
    y.same x := by
  rcases number_cases hx with ⟨m, rfl⟩ | ⟨d, rfl⟩ <;>
    rcases number_cases hy with ⟨n, rfl⟩ | ⟨e, rfl⟩
  · exact beq_iff_eq.mpr (eq_of_beq equal).symm
  all_goals exact Binary64.same_symm equal

theorem same_symm {x y : Value} (equal : x.same y) : y.same x := by
  induction x using induct generalizing y with
  | atom x plain =>
    cases kindred_of_same equal with
    | null => rfl
    | bool | str => exact beq_iff_eq.mpr (eq_of_beq equal).symm
    | number hx hy => exact number_same_symm hx hy equal
    | list => exact absurd rfl plain
  | list xs each =>
    cases kindred_of_same equal with
    | number hx _ => nomatch hx
    | @list _ ys =>
      rw [same] at equal ⊢
      induction xs generalizing ys with
      | nil =>
        cases ys with
        | nil => rfl
        | cons => nomatch equal
      | cons x xs ih =>
        obtain ⟨first, others⟩ := List.forall_mem_cons.mp each
        cases ys with
        | nil => nomatch equal
        | cons y ys =>
          rw [sameItems, Bool.and_eq_true] at equal ⊢
          exact ⟨first equal.1, ih others equal.2⟩

theorem same_comm (x y : Value) : x.same y = y.same x :=
  Bool.eq_iff_iff.mpr ⟨same_symm, same_symm⟩

/-- Three values are blurred from either end. -/
theorem blurred_reverse (x y z : Value) : x.blurred y z = z.blurred y x := by
  induction x using induct generalizing y z with
  | atom x plain =>
    cases x <;> cases y <;> cases z <;>
      first
      | rfl
      | exact Binary64.merges_comm ..
      | exact absurd rfl plain
  | list xs each =>
    cases y with
    | list ys =>
      cases z with
      | list zs =>
        rw [blurred, blurred]
        induction xs generalizing ys zs with
        | nil => cases zs <;> cases ys <;> rfl
        | cons x xs ih =>
          obtain ⟨first, others⟩ := List.forall_mem_cons.mp each
          cases ys with
          | nil => cases zs <;> rfl
          | cons y ys =>
            cases zs with
            | nil => rfl
            | cons z zs =>
              rw [blurredItems, blurredItems, first, ih others, same_comm x y, same_comm y z,
                same_comm x z, Bool.and_comm (y.same x)]
      | null | bool | int | float | str => rfl
    | null | bool | int | float | str => cases z <;> rfl

/-- Two comparisons of the value that do not go down can be taken as one. -/
def Composes (x : Value) : Prop :=
  ∀ {y z : Value} {p q : Ordering}, x.order y = some p → y.order z = some q → p.isLE → q.isLE →
    x.blurred y z = false → x.order z = some (p.then q)

theorem orderItems_then {xs ys zs : List Value} {p q : Ordering} (each : ∀ x ∈ xs, x.Composes)
    (first : orderItems xs ys = some p) (second : orderItems ys zs = some q) (up : p.isLE)
    (on : q.isLE) (clear : blurredItems xs ys zs = false) :
    orderItems xs zs = some (p.then q) := by
  induction xs generalizing ys zs p q with
  | nil =>
    cases ys with
    | nil =>
      cases first
      exact second
    | cons y ys =>
      cases first
      cases zs with
      | nil =>
        cases second
        nomatch on
      | cons z zs => rfl
  | cons x xs ih =>
    obtain ⟨here, others⟩ := List.forall_mem_cons.mp each
    cases ys with
    | nil =>
      cases first
      nomatch up
    | cons y ys =>
      cases zs with
      | nil =>
        cases second
        nomatch on
      | cons z zs =>
        obtain ⟨head_clear, tail_clear⟩ := clear_cons clear
        rw [orderItems_cons] at first second ⊢
        rcases first with ⟨xy, first⟩ | ⟨xy, unequal⟩
        · rcases second with ⟨yz, second⟩ | ⟨yz, unequal⟩
          · have xz := here xy yz rfl rfl head_clear
            have clear := tail_clear (same_of_order xy) (same_of_order yz) (same_of_order xz)
            exact .inl ⟨xz, ih others first second up on clear⟩
          · obtain rfl := lt_of_isLE on unequal
            have xz := here xy yz rfl rfl head_clear
            have strict : p.then .lt = .lt := by
              cases p with
              | lt | eq => rfl
              | gt => nomatch up
            rw [strict]
            exact .inr ⟨xz, nofun⟩
        · obtain rfl := lt_of_isLE up unequal
          rcases second with ⟨yz, -⟩ | ⟨yz, -⟩
          · have xz := here xy yz rfl rfl head_clear
            exact .inr ⟨xz, nofun⟩
          · exact .inr ⟨here xy yz rfl on head_clear, nofun⟩

theorem composes (x : Value) : x.Composes := by
  induction x using induct with
  | atom x plain =>
    intro y z p q first second up on clear
    have kin := kindred_of_order second
    cases kindred_of_order first with
    | null => nomatch first
    | bool =>
      cases kin with
      | bool =>
        exact congrArg some (compare_then (Option.some.inj first) (Option.some.inj second) up on)
      | number hy _ => nomatch hy
    | str =>
      cases kin with
      | str =>
        exact congrArg some (compare_then (Option.some.inj first) (Option.some.inj second) up on)
      | number hy _ => nomatch hy
    | number hx hy => exact number_order_then hx hy (kin.number_right hy) first second up on clear
    | list => exact absurd rfl plain
  | list xs each =>
    intro y z p q first second up on clear
    have kin := kindred_of_order second
    cases kindred_of_order first with
    | number hx _ => nomatch hx
    | list =>
      cases kin with
      | number hy _ => nomatch hy
      | list =>
        rw [order] at first second ⊢
        rw [blurred] at clear
        exact orderItems_then each first second up on clear

theorem orderItems_congr {xs ys zs : List Value}
    (each : ∀ x ∈ xs, ∀ {y z : Value}, x.same y → x.blurred y z = false → x.order z = y.order z)
    (equal : sameItems xs ys) (clear : blurredItems xs ys zs = false) :
    orderItems xs zs = orderItems ys zs := by
  induction xs generalizing ys zs with
  | nil =>
    cases ys with
    | nil => rfl
    | cons => nomatch equal
  | cons x xs ih =>
    obtain ⟨here, others⟩ := List.forall_mem_cons.mp each
    cases ys with
    | nil => nomatch equal
    | cons y ys =>
      rw [sameItems, Bool.and_eq_true] at equal
      obtain ⟨head, tail⟩ := equal
      cases zs with
      | nil => rfl
      | cons z zs =>
        obtain ⟨head_clear, tail_clear⟩ := clear_cons clear
        have heads := here head head_clear
        rw [orderItems, orderItems, heads]
        cases yz : y.order z with
        | none => rfl
        | some o =>
          cases o with
          | lt | gt => rfl
          | eq =>
            have xz := same_of_order (heads.trans yz)
            exact ih others tail (tail_clear head (same_of_order yz) xz)

/-- Equal values are in the same order with a third one. -/
theorem order_congr {x y z : Value} (equal : x.same y) (clear : x.blurred y z = false) :
    x.order z = y.order z := by
  induction x using induct generalizing y z with
  | atom x plain =>
    cases kindred_of_same equal with
    | null => rfl
    | bool | str => rw [eq_of_beq equal]
    | number hx hy =>
      by_cases hz : z.isNumber
      · exact number_order_congr hx hy hz equal clear
      · rw [number_order_none hx hz, number_order_none hy hz]
    | list => exact absurd rfl plain
  | list xs each =>
    cases kindred_of_same equal with
    | number hx _ => nomatch hx
    | list =>
      cases z with
      | list zs =>
        rw [same] at equal
        rw [blurred] at clear
        rw [order, order]
        exact orderItems_congr each equal clear
      | null | bool | int | float | str => rfl

theorem sameItems_then {xs ys zs : List Value}
    (each : ∀ x ∈ xs, ∀ {y z : Value}, x.same y → y.same z → x.same z = !x.blurred y z)
    (first : sameItems xs ys) (second : sameItems ys zs) :
    sameItems xs zs = !blurredItems xs ys zs := by
  induction xs generalizing ys zs with
  | nil =>
    cases ys with
    | nil => exact second
    | cons => nomatch first
  | cons x xs ih =>
    obtain ⟨here, others⟩ := List.forall_mem_cons.mp each
    cases ys with
    | nil => nomatch first
    | cons y ys =>
      cases zs with
      | nil => nomatch second
      | cons z zs =>
        rw [sameItems, Bool.and_eq_true] at first second
        rw [sameItems, blurredItems, here first.1 second.1, ih others first.2 second.2, first.1,
          second.1]
        cases x.blurred y z <;> rfl

/-- Two equalities make a third just if no float between them stands for different integers. -/
theorem same_then {x y z : Value} (first : x.same y) (second : y.same z) :
    x.same z = !x.blurred y z := by
  induction x using induct generalizing y z with
  | atom x plain =>
    have kin := kindred_of_same second
    cases kindred_of_same first with
    | null =>
      cases kin with
      | null => rfl
      | number hy _ => nomatch hy
    | bool =>
      cases kin with
      | bool => exact beq_iff_eq.mpr ((eq_of_beq first).trans (eq_of_beq second))
      | number hy _ => nomatch hy
    | str =>
      cases kin with
      | str => exact beq_iff_eq.mpr ((eq_of_beq first).trans (eq_of_beq second))
      | number hy _ => nomatch hy
    | number hx hy => exact number_same_then hx hy (kin.number_right hy) first second
    | list => exact absurd rfl plain
  | list xs each =>
    have kin := kindred_of_same second
    cases kindred_of_same first with
    | number hx _ => nomatch hx
    | list =>
      cases kin with
      | number hy _ => nomatch hy
      | list =>
        rw [same] at first second ⊢
        rw [blurred]
        exact sameItems_then each first second

theorem atom_clear {x y z : Value} (plain : x.kind ≠ .list) (first : x.order y = some .lt)
    (second : y.order z = some .lt) : x.blurred y z = false := by
  have kin := kindred_of_order second
  cases kindred_of_order first with
  | null | bool | str => rfl
  | number hx hy => exact number_clear hx hy (kin.number_right hy) first second
  | list => exact absurd rfl plain

/-- Equality and order make one consistent order of three values, unless where they first are not
all equal two of them have different integers and the third has a float that stands for both. For
values that are no lists, the order needs no such exception. -/
theorem comparison_consistent (a b c : Value) :
    (a.same b → b.same c → (a.same c ↔ ¬a.blurred b c)) ∧
    (a.order b = some .lt → b.order c = some .lt → ¬a.blurred b c ∨ a.kind ≠ .list →
      a.order c = some .lt) ∧
    (a.same b → ¬a.blurred b c → a.order c = b.order c ∧ c.order a = c.order b) := by
  refine ⟨?_, ?_, ?_⟩
  · intro first second
    rw [same_then first second, Bool.not_eq_true', Bool.not_eq_true]
  · intro first second exempt
    have clear : a.blurred b c = false := by
      rcases exempt with clear | plain
      · exact Bool.eq_false_iff.mpr clear
      · exact atom_clear plain first second
    exact composes a first second rfl rfl clear
  · intro equal clear
    have alike := order_congr equal (Bool.eq_false_iff.mpr clear)
    exact ⟨alike, by rw [order_swap a c, order_swap b c, alike]⟩

/-- Integers and floats within lists. -/
theorem comparison_consistent_lists :
    (list [.int 2, .int 5]).same (.list [.int 2, .float (.ofInt 5)]) ∧
      order (.list [.int 2]) (.list [.int 3, .null]) = some .lt ∧
      order (.list [.int 2]) (.list [.int 2, .null]) =
        order (.list [.float (.ofInt 2)]) (.list [.int 2, .null]) := by
  have equal := comparison_consistent (.list [.int 2, .int 5]) (.list [.float (.ofInt 2), .int 5])
    (.list [.int 2, .float (.ofInt 5)])
  have less := comparison_consistent (.list [.int 2]) (.list [.float (.ofInt 2), .bool true])
    (.list [.int 3, .null])
  have alike := comparison_consistent (.list [.int 2]) (.list [.float (.ofInt 2)])
    (.list [.int 2, .null])
  refine ⟨?_, ?_, ?_⟩
  · exact (equal.1 (by decide +kernel) (by decide +kernel)).mpr (by decide +kernel)
  · exact less.2.1 (by decide +kernel) (by decide +kernel) (.inl (by decide +kernel))
  · exact (alike.2.2 (by decide +kernel) (by decide +kernel)).1

/-- A float of 2^53 lies between the integers 2^53 and 2^53 + 1: it equals both, so that equality is
not transitive, equal values are not ordered alike, and lists with more items behind these go round
in a circle. -/
theorem comparison_inconsistent :
    let least : Value := .int 9007199254740992
    let next : Value := .int 9007199254740993
    let float : Value := .float (.ofInt 9007199254740992)
    (Binary64.ofInt 9007199254740992).isNaN = false ∧
      (next.same float ∧ float.same least ∧ ¬next.same least) ∧
      (order (.list [next, .int 0]) (.list [float, .int 1]) = some .lt ∧
        order (.list [float, .int 1]) (.list [least, .int 2]) = some .lt ∧
        order (.list [next, .int 0]) (.list [least, .int 2]) = some .gt) ∧
      (next.same float ∧ next.order least = some .gt ∧ float.order least = some .eq) := by
  decide +kernel

end Value
end TickScript
