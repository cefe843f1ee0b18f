import TickScript.Builtin.Host
import TickScript.Proofs.Comparison

/-! The greatest and the least of values. Each value is only compared with the best one before it,
so what is chosen is as good as the order is transitive. A value that is no list is never surpassed
by one of the others; a list can be, if it is blurred with two of them. -/
namespace TickScript.Operation

open Value

variable {wanted : Ordering} {v best candidate r : Value}

theorem swap_ne (strict : wanted ≠ .eq) : wanted.swap ≠ wanted := by
  cases wanted with
  | lt | gt => nofun
  | eq => exact absurd rfl strict

/-- What is no better than a value falls behind a better one, if the three are not blurred. -/
theorem order_behind {o : Ordering} (strict : wanted ≠ .eq) (behind : v.order best = some o)
    (unwanted : o ≠ wanted) (better : candidate.order best = some wanted)
    (clear : v.blurred best candidate = false) : v.order candidate = some wanted.swap := by
  cases wanted with
  | eq => exact absurd rfl strict
  | gt =>
    have up : o.isLE := by
      cases o with
      | lt | eq => rfl
      | gt => exact absurd rfl unwanted
    have on : best.order candidate = some .lt := by rw [order_swap candidate, better]; rfl
    have whole := composes v behind on up rfl clear
    cases o with
    | lt | eq => exact whole
    | gt => exact absurd rfl unwanted
  | lt =>
    have down : best.order v = some o.swap := by rw [order_swap v, behind]; rfl
    have on : o.swap.isLE := by
      cases o with
      | gt | eq => rfl
      | lt => exact absurd rfl unwanted
    rw [blurred_reverse] at clear
    have whole := composes candidate better down rfl on clear
    rw [order_swap candidate, whole]
    rfl

/-- Among numbers only a float that stands for two different integers is blurred with others one of
which is better, and it is equal to both. -/
theorem order_merged (strict : wanted ≠ .eq) (plain : v.kind ≠ .list)
    (better : candidate.order best = some wanted) (merged : v.blurred best candidate = true) :
    v.order candidate = some .eq := by
  have apart {x y : Binary64} (ordered : x.order y = some wanted) : ¬x.same y := by
    rw [Binary64.same, ordered, beq_iff_eq, Option.some.injEq]
    exact strict
  unfold blurred at merged
  split at merged
  case h_1 =>
    have between := (Binary64.same_of_merges merged).2
    exact absurd (Binary64.same_symm between) (apart better)
  case h_2 =>
    have between := (Binary64.same_of_merges merged).2
    exact absurd between (apart better)
  case h_3 => exact beq_iff_eq.mp (Binary64.same_symm (Binary64.same_of_merges merged).2)
  case h_4 => exact absurd rfl plain
  case h_5 => contradiction

/-- The value is the best one so far, or its order with that one is not the wanted one. -/
def Trails (wanted : Ordering) (v best : Value) : Prop :=
  v = best ∨ ∃ o, v.order best = some o ∧ o ≠ wanted

/-- A better value is trailed by what has trailed the best one so far. -/
theorem Trails.step (strict : wanted ≠ .eq) (trails : Trails wanted v best)
    (better : candidate.order best = some wanted)
    (clear : v.kind = .list → v.blurred best candidate = false) : Trails wanted v candidate := by
  rcases trails with rfl | ⟨o, behind, unwanted⟩
  · refine .inr ⟨wanted.swap, ?_, swap_ne strict⟩
    rw [order_swap candidate, better]
    rfl
  · cases merged : v.blurred best candidate with
    | false => exact .inr ⟨_, order_behind strict behind unwanted better merged, swap_ne strict⟩
    | true =>
      have plain : v.kind ≠ .list := by
        intro list
        rw [clear list] at merged
        contradiction
      exact .inr ⟨.eq, order_merged strict plain better merged, strict.symm⟩

theorem Trails.not_better (strict : wanted ≠ .eq) (trails : Trails wanted v best) :
    v.order best ≠ some wanted := by
  rcases trails with rfl | ⟨o, behind, unwanted⟩
  · intro better
    have swapped := order_swap v v
    rw [better] at swapped
    exact swap_ne strict (Option.some.inj swapped).symm
  · rw [behind]
    exact fun same => unwanted (Option.some.inj same)

/-- The value is a list and blurred with two of the values. -/
def Blurs (values : List Value) (v : Value) : Prop :=
  v.kind = .list ∧ ∃ x ∈ values, ∃ y ∈ values, v.blurred x y = true

theorem Blurs.mono {values others : List Value} (within : values ⊆ others)
    (blurs : Blurs values v) : Blurs others v := by
  obtain ⟨list, x, hx, y, hy, merged⟩ := blurs
  exact ⟨list, x, within hx, y, within hy, merged⟩

/-- A choice goes on with the better one of the best value so far and the next one. -/
theorem extremeFrom_cons {command : String} {rest : List Value}
    (chosen : extremeFrom command wanted best (candidate :: rest) = .ok r) :
    ∃ order, candidate.order best = some order ∧
      extremeFrom command wanted (if order = wanted then candidate else best) rest = .ok r := by
  rw [extremeFrom] at chosen
  cases compared : candidate.order best with
  | none =>
    rw [compared] at chosen
    contradiction
  | some order =>
    rw [compared] at chosen
    exact ⟨order, rfl, chosen⟩

theorem extremeFrom_mem {command : String} {rest : List Value}
    (chosen : extremeFrom command wanted best rest = .ok r) : r ∈ best :: rest := by
  induction rest generalizing best with
  | nil =>
    cases chosen
    exact List.mem_singleton.mpr rfl
  | cons candidate rest ih =>
    obtain ⟨order, _, chosen⟩ := extremeFrom_cons chosen
    have member := ih chosen
    split at member
    · exact List.mem_cons_of_mem _ member
    · rcases List.mem_cons.mp member with rfl | later
      · exact List.mem_cons_self
      · exact List.mem_cons_of_mem _ (List.mem_cons_of_mem _ later)

/-- What trails the best value so far, or is still to come, trails the value that is chosen. -/
theorem extremeFrom_trails {command : String} {rest : List Value} (strict : wanted ≠ .eq)
    (chosen : extremeFrom command wanted best rest = .ok r)
    (known : v ∈ rest ∨ Trails wanted v best) (clear : ¬Blurs (best :: rest) v) :
    Trails wanted v r := by
  induction rest generalizing best with
  | nil =>
    cases chosen
    exact known.resolve_left List.not_mem_nil
  | cons candidate rest ih =>
    obtain ⟨order, compared, chosen⟩ := extremeFrom_cons chosen
    by_cases better : order = wanted
    · rw [if_pos better] at chosen
      rw [better] at compared
      apply ih chosen
      · rcases known with member | trails
        · rcases List.mem_cons.mp member with rfl | later
          · exact .inr (.inl rfl)
          · exact .inl later
        · refine .inr (trails.step strict compared fun list => ?_)
          rw [Bool.eq_false_iff]
          intro merged
          exact clear ⟨list, best, List.mem_cons_self, candidate,
            List.mem_cons_of_mem _ List.mem_cons_self, merged⟩
      · exact fun blurs => clear (blurs.mono (List.subset_cons_self _ _))
    · rw [if_neg better] at chosen
      apply ih chosen
      · rcases known with member | trails
        · rcases List.mem_cons.mp member with rfl | later
          · exact .inr (.inr ⟨order, compared, better⟩)
          · exact .inl later
        · exact .inr trails
      · exact fun blurs =>
          clear (blurs.mono (List.cons_subset_cons _ (List.subset_cons_self _ _)))

/-- A chosen value is one of the values, and only lists that are blurred with others are better. -/
theorem extreme_unsurpassed {call : Invocation} (strict : wanted ≠ .eq)
    (chosen : extreme wanted call = .ok r) :
    r ∈ candidates call.args ∧
      ∀ v ∈ candidates call.args, v.order r = some wanted → Blurs (candidates call.args) v := by
  unfold extreme at chosen
  split at chosen
  case h_1 => contradiction
  case h_2 first rest values =>
    rw [values]
    refine ⟨extremeFrom_mem chosen, ?_⟩
    intro v member better
    by_cases clear : Blurs (first :: rest) v
    · exact clear
    · have known : v ∈ rest ∨ Trails wanted v first := by
        rcases List.mem_cons.mp member with rfl | later
        · exact .inr (.inl rfl)
        · exact .inl later
      have trails := extremeFrom_trails strict chosen known clear
      exact absurd better (trails.not_better strict)

/-- What is chosen as the greatest value is one of the values, and none of them is greater, except
for lists that are blurred with two of the values; and the same for the least value. -/
theorem extremum_unsurpassed (call : Invocation) (r : Value) :
    let values := candidates call.args
    (Operation.max.call call = .ok r →
      r ∈ values ∧ ∀ v ∈ values, v.order r = some .gt → Blurs values v) ∧
    (Operation.min.call call = .ok r →
      r ∈ values ∧ ∀ v ∈ values, v.order r = some .lt → Blurs values v) := by
  constructor
  · intro chosen
    have strict : Ordering.gt ≠ .eq := by decide
    exact extreme_unsurpassed strict chosen
  · intro chosen
    have strict : Ordering.lt ≠ .eq := by decide
    exact extreme_unsurpassed strict chosen

/-- Integers and floats within lists that are the items of one list. -/
theorem extremum_unsurpassed_lists :
    let lists : List Value := [.list [.int 2, .str "b"], .list [.float (.ofInt 2), .str "c"],
      .list [.int 1, .null]]
    let greatest : Value := .list [.float (.ofInt 2), .str "c"]
    Operation.max.call ⟨"max", [.list lists], .empty⟩ = .ok greatest ∧
      greatest ∈ lists ∧ ∀ v ∈ lists, v.order greatest = some .gt → Blurs lists v := by
  intro lists greatest
  have chosen : Operation.max.call ⟨"max", [.list lists], .empty⟩ = .ok greatest := by
    have first : order (.list [.float (.ofInt 2), .str "c"]) (.list [.int 2, .str "b"]) =
      some .gt := by decide +kernel
    have second : order (.list [.int 1, .null]) (.list [.float (.ofInt 2), .str "c"]) =
      some .lt := by decide +kernel
    simp [Operation.call, extreme, candidates, lists, greatest, extremeFrom, first, second]
  exact ⟨chosen, (extremum_unsurpassed _ greatest).1 chosen⟩

/-- A float of 2^53 equals the integers 2^53 and 2^53 + 1, so that the items behind it decide. The
list with the greater integer is not better than the list with the float, while the list with the
lesser integer is, and that one is chosen. -/
theorem greatest_surpassed :
    let float : Value := .list [.float (.ofInt 9007199254740992), .int 1]
    let next : Value := .list [.int 9007199254740993, .int 1]
    let least : Value := .list [.int 9007199254740992, .int 2]
    Operation.max.call ⟨"max", [float, next, least], .empty⟩ = .ok least ∧
      next.order least = some .gt := by
  intro float next least
  have first : next.order float = some .eq := by decide +kernel
  have second : least.order float = some .gt := by decide +kernel
  have third : next.order least = some .gt := by decide +kernel
  refine ⟨?_, third⟩
  simp [Operation.call, extreme, candidates, extremeFrom, first, second]

end TickScript.Operation
