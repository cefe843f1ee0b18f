import TickScript.Builtin.Host
import TickScript.Proofs.Tick

/-! What a host does with an interpreter, in any order: it steps, runs, evaluates,
changes the registry and goes about its own affairs. The steps that are made on the
way are reported one by one. -/
namespace TickScript

/-- What a host does. Steps and evaluations read its clock. -/
inductive Action (η ω : Type)
  | step (now : Time)
  | runToCompletion (now : Time) (limit : Nat)
  | evaluate (now : Time) (expr : Expr)
  | register (name : String) (handler : Builtin ⊕ η)
  | extend (other : Registry (Builtin ⊕ η))
  | reset
  /-- The host changes its own world, which handlers and suspensions share. -/
  | disturb (change : ω → ω)

structure Report where
  outcome : Except Fault StepResult
  moves : List Move

namespace Interpreter

variable {η σ ω : Type}

def report (host : Host η σ ω) (now : Time) (interp : Interpreter η σ ω) : Report :=
  ⟨(interp.step host now).1, (interp.tick host now).moves⟩

def runReports (host : Host η σ ω) (now : Time) : Nat → Interpreter η σ ω → List Report
  | 0, _ => []
  | limit + 1, interp =>
    if interp.isFinished then []
    else
      match interp.step host now with
      | (.error _, _) => [interp.report host now]
      | (.ok .finished, _) => [interp.report host now]
      | (.ok _, next) => interp.report host now :: runReports host now limit next

def perform (host : Host (Builtin ⊕ η) σ ω) (interp : Interpreter (Builtin ⊕ η) σ ω) :
    Action η ω → Interpreter (Builtin ⊕ η) σ ω
  | .step now => (interp.step host now).2
  | .runToCompletion now limit => (interp.runToCompletion host now limit).2
  | .evaluate now expr => (interp.evaluate host now expr).2
  | .register name handler => { interp with registry := (interp.registry.register name handler).2 }
  | .extend other => { interp with registry := interp.registry.merge other }
  | .reset => interp.resetCommands
  | .disturb change =>
    { interp with scene := { interp.scene with world := change interp.scene.world } }

def reports (host : Host (Builtin ⊕ η) σ ω) (interp : Interpreter (Builtin ⊕ η) σ ω) :
    Action η ω → List Report
  | .step now => [interp.report host now]
  | .runToCompletion now limit => interp.runReports host now limit
  | _ => []

def after (host : Host (Builtin ⊕ η) σ ω) (interp : Interpreter (Builtin ⊕ η) σ ω) :
    List (Action η ω) → Interpreter (Builtin ⊕ η) σ ω
  | [] => interp
  | action :: rest => (interp.perform host action).after host rest

def history (host : Host (Builtin ⊕ η) σ ω) (interp : Interpreter (Builtin ⊕ η) σ ω) :
    List (Action η ω) → List Report
  | [] => []
  | action :: rest => interp.reports host action ++ (interp.perform host action).history host rest

def runStops (host : Host η σ ω) (now : Time) : Nat → Interpreter η σ ω → List (Interpreter η σ ω)
  | 0, _ => []
  | limit + 1, interp =>
    if interp.isFinished then []
    else
      match interp.step host now with
      | (.error _, _) => [interp]
      | (.ok .finished, _) => [interp]
      | (.ok _, next) => interp :: runStops host now limit next

def stopsOf (host : Host (Builtin ⊕ η) σ ω) (interp : Interpreter (Builtin ⊕ η) σ ω) :
    Action η ω → List (Time × Interpreter (Builtin ⊕ η) σ ω)
  | .step now => [(now, interp)]
  | .runToCompletion now limit => (interp.runStops host now limit).map (now, ·)
  | _ => []

/-- The interpreters from which a session makes its steps, with the readings of the clock. -/
def stops (host : Host (Builtin ⊕ η) σ ω) (interp : Interpreter (Builtin ⊕ η) σ ω) :
    List (Action η ω) → List (Time × Interpreter (Builtin ⊕ η) σ ω)
  | [] => []
  | action :: rest => interp.stopsOf host action ++ (interp.perform host action).stops host rest

theorem stops_append (host : Host (Builtin ⊕ η) σ ω) (actions others : List (Action η ω))
    (interp : Interpreter (Builtin ⊕ η) σ ω) :
    interp.stops host (actions ++ others) =
      interp.stops host actions ++ (interp.after host actions).stops host others := by
  induction actions generalizing interp with
  | nil => rfl
  | cons action rest ih =>
    simp only [List.cons_append, stops, after, List.append_assoc]
    rw [ih]

/-- What every step keeps, a run to completion keeps. -/
theorem runToCompletion_preserves {host : Host η σ ω} {now : Time} {P : Interpreter η σ ω → Prop}
    (stepped : ∀ interp, P interp → P (interp.step host now).2) (limit : Nat)
    {interp : Interpreter η σ ω} (initial : P interp) :
    P (interp.runToCompletion host now limit).2 := by
  induction limit generalizing interp with
  | zero => exact initial
  | succ limit ih =>
    have next := stepped interp initial
    unfold runToCompletion
    split
    · exact initial
    · generalize interp.step host now = result at next
      obtain ⟨outcome, after⟩ := result
      cases outcome with
      | error fault => exact next
      | ok result =>
        cases result with
        | finished => exact next
        | stillRunning | completed => exact ih next

/-- What steps keep and what depends neither on the registry nor on the scene, every action
keeps. -/
theorem perform_preserves {host : Host (Builtin ⊕ η) σ ω}
    {P : Interpreter (Builtin ⊕ η) σ ω → Prop}
    (stepped : ∀ now interp, P interp → P (interp.step host now).2)
    (aside : ∀ interp registry scene, P interp → P { interp with registry, scene })
    (action : Action η ω) {interp : Interpreter (Builtin ⊕ η) σ ω} (initial : P interp) :
    P (interp.perform host action) := by
  cases action with
  | step now => exact stepped now interp initial
  | runToCompletion now limit => exact runToCompletion_preserves (stepped now) limit initial
  | evaluate now expr => exact aside interp _ _ initial
  | register name handler => exact aside interp _ _ initial
  | extend other => exact aside interp _ _ initial
  | reset => exact aside interp _ _ initial
  | disturb change => exact aside interp _ _ initial

theorem after_preserves {host : Host (Builtin ⊕ η) σ ω}
    {P : Interpreter (Builtin ⊕ η) σ ω → Prop}
    (performed : ∀ action interp, P interp → P (interp.perform host action))
    (actions : List (Action η ω)) {interp : Interpreter (Builtin ⊕ η) σ ω} (initial : P interp) :
    P (interp.after host actions) := by
  induction actions generalizing interp with
  | nil => exact initial
  | cons action rest ih => exact ih (performed action interp initial)

/-- What holds of a step and its moves, holds of a run to completion and all its moves, as long as
one can be put after the other. -/
theorem runReports_traced {host : Host η σ ω} {now : Time} {P : Interpreter η σ ω → Prop}
    {R : Interpreter η σ ω → List Move → Interpreter η σ ω → Prop}
    (refl : ∀ interp, R interp [] interp)
    (trans : ∀ {first moves middle others last}, R first moves middle → R middle others last →
      R first (moves ++ others) last)
    (stepped : ∀ interp, P interp → P (interp.step host now).2 ∧
      R interp (interp.report host now).moves (interp.step host now).2)
    (limit : Nat) {interp : Interpreter η σ ω} (initial : P interp) :
    R interp ((interp.runReports host now limit).flatMap Report.moves)
      (interp.runToCompletion host now limit).2 := by
  induction limit generalizing interp with
  | zero => exact refl interp
  | succ limit ih =>
    obtain ⟨next, traced⟩ := stepped interp initial
    unfold runToCompletion runReports
    split
    · exact refl interp
    · generalize interp.step host now = result at next traced
      obtain ⟨outcome, later⟩ := result
      have single : R interp ([interp.report host now].flatMap Report.moves) later := by
        simp only [List.flatMap_cons, List.flatMap_nil, List.append_nil]
        exact traced
      cases outcome with
      | error fault => exact single
      | ok answer =>
        cases answer with
        | finished => exact single
        | stillRunning | completed =>
          simp only [List.flatMap_cons]
          exact trans traced (ih next)

theorem history_traced {host : Host (Builtin ⊕ η) σ ω} {P : Interpreter (Builtin ⊕ η) σ ω → Prop}
    {R : Interpreter (Builtin ⊕ η) σ ω → List Move → Interpreter (Builtin ⊕ η) σ ω → Prop}
    (refl : ∀ interp, R interp [] interp)
    (trans : ∀ {first moves middle others last}, R first moves middle → R middle others last →
      R first (moves ++ others) last)
    (actions : List (Action η ω))
    (performed : ∀ action ∈ actions, ∀ interp, P interp → P (interp.perform host action) ∧
      R interp ((interp.reports host action).flatMap Report.moves) (interp.perform host action))
    {interp : Interpreter (Builtin ⊕ η) σ ω} (initial : P interp) :
    R interp ((interp.history host actions).flatMap Report.moves) (interp.after host actions) := by
  induction actions generalizing interp with
  | nil => exact refl interp
  | cons action rest ih =>
    obtain ⟨performs, following⟩ := List.forall_mem_cons.mp performed
    obtain ⟨next, traced⟩ := performs interp initial
    simp only [after, history, List.flatMap_append]
    exact trans traced (ih following next)

/-- What every step keeps holds wherever a run to completion makes a step. -/
theorem runStops_from {host : Host η σ ω} {now : Time} {P : Interpreter η σ ω → Prop}
    (stepped : ∀ interp, P interp → P (interp.step host now).2) (limit : Nat)
    {interp : Interpreter η σ ω} (initial : P interp) :
    ∀ stop ∈ interp.runStops host now limit, P stop := by
  induction limit generalizing interp with
  | zero => exact nofun
  | succ limit ih =>
    have next := stepped interp initial
    unfold runStops
    split
    · exact nofun
    · generalize interp.step host now = result at next
      obtain ⟨outcome, later⟩ := result
      cases outcome with
      | error fault => exact List.forall_mem_singleton.mpr initial
      | ok answer =>
        cases answer with
        | finished => exact List.forall_mem_singleton.mpr initial
        | stillRunning | completed => exact List.forall_mem_cons.mpr ⟨initial, ih next⟩

theorem runReports_eq (host : Host η σ ω) (now : Time) (limit : Nat) (interp : Interpreter η σ ω) :
    interp.runReports host now limit = (interp.runStops host now limit).map (report host now) := by
  induction limit generalizing interp with
  | zero => rfl
  | succ limit ih =>
    unfold runReports runStops
    split
    · rfl
    · obtain ⟨outcome, later⟩ := interp.step host now
      cases outcome with
      | error fault => rfl
      | ok answer =>
        cases answer with
        | finished => rfl
        | stillRunning | completed => exact congrArg _ (ih later)

/-- The steps of a run to completion are steps from interpreters it comes by. -/
theorem runReports_from {host : Host η σ ω} {now : Time} {P : Interpreter η σ ω → Prop}
    (stepped : ∀ interp, P interp → P (interp.step host now).2) (limit : Nat)
    {interp : Interpreter η σ ω} (initial : P interp) :
    ∀ report ∈ interp.runReports host now limit, ∃ middle, P middle ∧
      report = middle.report host now := by
  intro report member
  rw [runReports_eq] at member
  obtain ⟨middle, stop, rfl⟩ := List.mem_map.mp member
  exact ⟨middle, runStops_from stepped limit initial middle stop, rfl⟩

/-- What every action keeps holds wherever a session makes a step. -/
theorem stops_from {host : Host (Builtin ⊕ η) σ ω} {P : Interpreter (Builtin ⊕ η) σ ω → Prop}
    (performed : ∀ action interp, P interp → P (interp.perform host action))
    (actions : List (Action η ω)) {interp : Interpreter (Builtin ⊕ η) σ ω} (initial : P interp) :
    ∀ stop ∈ interp.stops host actions, P stop.2 := by
  induction actions generalizing interp with
  | nil => exact nofun
  | cons action rest ih =>
    refine List.forall_mem_append.mpr ⟨?_, ih (performed action interp initial)⟩
    cases action with
    | step now => exact List.forall_mem_singleton.mpr initial
    | runToCompletion now limit =>
      exact List.forall_mem_map.mpr
        (runStops_from (fun middle => performed (.step now) middle) limit initial)
    | evaluate | register | extend | reset | disturb => exact nofun

/-- The reports of a session are those of the steps from the interpreters it comes by. -/
theorem history_eq (host : Host (Builtin ⊕ η) σ ω) (actions : List (Action η ω))
    (interp : Interpreter (Builtin ⊕ η) σ ω) :
    interp.history host actions =
      (interp.stops host actions).map fun stop => stop.2.report host stop.1 := by
  induction actions generalizing interp with
  | nil => rfl
  | cons action rest ih =>
    simp only [history, stops, List.map_append, ih]
    congr 1
    cases action with
    | runToCompletion now limit =>
      simp only [reports, stopsOf, runReports_eq, List.map_map]
      rfl
    | step | evaluate | register | extend | reset | disturb => rfl

/-- Every step of a session is a step from an interpreter that the session comes by. -/
theorem history_from {host : Host (Builtin ⊕ η) σ ω} {P : Interpreter (Builtin ⊕ η) σ ω → Prop}
    (performed : ∀ action interp, P interp → P (interp.perform host action))
    (actions : List (Action η ω)) {interp : Interpreter (Builtin ⊕ η) σ ω} (initial : P interp) :
    ∀ report ∈ interp.history host actions, ∃ middle now, P middle ∧
      report = middle.report host now := by
  intro report member
  rw [history_eq] at member
  obtain ⟨⟨now, middle⟩, stop, rfl⟩ := List.mem_map.mp member
  exact ⟨middle, now, stops_from performed actions initial _ stop, rfl⟩

end Interpreter
end TickScript
