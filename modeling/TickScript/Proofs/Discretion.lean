import TickScript.Builtin.Host

/-! Who says that a command is unknown. The built-in commands complain about their
arguments and about nothing else, so only the look-up of a name can find it unknown, as
long as the commands of the host are as discreet. -/
namespace TickScript

variable {η σ ω : Type}

/-- A host whose handlers and suspensions never say on their own that a command is unknown. -/
structure Host.Discreet (host : Host η σ ω) : Prop where
  start : ∀ handler invocation context world name,
    (host.start handler invocation context world).outcome ≠ .error (.script (.resolution name))
  resume : ∀ suspension context world name,
    (host.resume suspension context world).outcome ≠ .error (.script (.resolution name))

def Objects {α : Type} (command : String) (result : Except ScriptError α) : Prop :=
  ∀ error, result = .error error → ∃ fault message, error = .argument command fault message

namespace Objects

variable {α β : Type} {command : String}

theorem ok (value : α) : Objects command (.ok value) := nofun

theorem count (expected : String) (found : Nat) :
    Objects command (.error (.wrongCount command expected found) : Except _ α) := by
  rintro _ ⟨⟩
  exact ⟨_, _, rfl⟩

theorem type (message : String) :
    Objects command (.error (.wrongType command message) : Except _ α) := by
  rintro _ ⟨⟩
  exact ⟨_, _, rfl⟩

theorem bind {first : Except ScriptError α} {next : α → Except ScriptError β}
    (objects : Objects command first) (later : ∀ value, Objects command (next value)) :
    Objects command (first >>= next) := by
  cases first with
  | error error =>
    rintro _ ⟨⟩
    exact objects error rfl
  | ok value => exact later value

end Objects

namespace Operation

theorem pair_objects (call : Invocation) : Objects call.name call.pair := by
  unfold Invocation.pair
  split
  · exact .ok _
  · exact .count _ _

theorem fitted_objects (command : String) (n : Int) : Objects command (fitted command n) := by
  unfold fitted
  split
  · exact .ok _
  · exact .type _

theorem addTo_objects (command : String) (x y : Value) : Objects command (addTo command x y) := by
  unfold addTo
  split
  · exact fitted_objects _ _
  · split
    · exact .ok _
    · exact .type _

theorem addItems_objects (command : String) (sum : Value) (items : List Value) :
    Objects command (addItems command sum items) := by
  induction items generalizing sum with
  | nil => exact .ok _
  | cons item rest ih => exact .bind (addTo_objects _ _ _) ih

theorem difference_objects (call : Invocation) : Objects call.name (difference call) := by
  refine .bind (pair_objects call) fun pair => ?_
  split
  · exact fitted_objects _ _
  · split
    · exact .ok _
    · exact .type _

theorem extremeFrom_objects (command : String) (wanted : Ordering) (best : Value)
    (items : List Value) : Objects command (extremeFrom command wanted best items) := by
  induction items generalizing best with
  | nil => exact .ok _
  | cons candidate rest ih =>
    unfold extremeFrom
    split
    · exact .type _
    · exact ih _

theorem extreme_objects (wanted : Ordering) (call : Invocation) :
    Objects call.name (extreme wanted call) := by
  unfold extreme
  split
  · exact .count _ _
  · exact extremeFrom_objects _ _ _ _

theorem ordered_objects (accept : Ordering → Bool) (call : Invocation) :
    Objects call.name (ordered accept call) := by
  refine .bind (pair_objects call) fun (x, y) => ?_
  dsimp only
  split
  · exact .ok _
  · exact .type _

theorem total_objects (call : Invocation) : Objects call.name (total call) :=
  addItems_objects _ _ _

theorem paired_objects (call : Invocation) (result : Value × Value → Value) :
    Objects call.name (call.pair >>= fun pair => .ok (result pair)) :=
  .bind (pair_objects call) fun _ => .ok _

/-- The errors of the operations are about their arguments. -/
theorem call_objects (op : Operation) (invocation : Invocation) :
    Objects invocation.name (op.call invocation) := by
  cases op with
  | eq | neq | or | and => exact paired_objects _ _
  | gt | ge | lt | le => exact ordered_objects _ _
  | max | min => exact extreme_objects _ _
  | sum => exact total_objects _
  | diff => exact difference_objects _
  | print => exact .ok _

end Operation

theorem Builtin.host_discreet : (Builtin.host : Host Builtin Task ω).Discreet where
  start handler invocation context world name := by
    intro unknown
    cases handler with
    | operation op => contradiction
    | wait =>
      simp only [Builtin.host] at unknown
      cases waiting : startWait invocation context.now with
      | ok timer =>
        rw [waiting] at unknown
        contradiction
      | error fault =>
        rw [waiting] at unknown
        cases unknown
        obtain ⟨_, _, impossible⟩ := startWait_argument waiting
        contradiction
  resume suspension context world name := by
    intro unknown
    cases suspension with
    | calling op invocation =>
      simp only [Builtin.host] at unknown
      cases called : op.call invocation with
      | ok value =>
        rw [called] at unknown
        contradiction
      | error error =>
        rw [called] at unknown
        cases unknown
        obtain ⟨_, _, impossible⟩ := Operation.call_objects op invocation _ called
        contradiction
    | waiting timer =>
      simp only [Builtin.host, resumeWait] at unknown
      split at unknown <;> cases unknown

theorem Host.Discreet.either {θ τ : Type} {first : Host η σ ω} {second : Host θ τ ω}
    (left : first.Discreet) (right : second.Discreet) : (first.either second).Discreet where
  start handler invocation context world name := by
    cases handler with
    | inl handler =>
      have discreet := left.start handler invocation context world name
      simp only [Host.either]
      cases outcome : (first.start handler invocation context world).outcome with
      | ok suspension => exact nofun
      | error fault =>
        intro unknown
        cases unknown
        exact discreet outcome
    | inr handler =>
      have discreet := right.start handler invocation context world name
      simp only [Host.either]
      cases outcome : (second.start handler invocation context world).outcome with
      | ok suspension => exact nofun
      | error fault =>
        intro unknown
        cases unknown
        exact discreet outcome
  resume suspension context world name := by
    cases suspension with
    | inl suspension => exact left.resume suspension context world name
    | inr suspension => exact right.resume suspension context world name

end TickScript
