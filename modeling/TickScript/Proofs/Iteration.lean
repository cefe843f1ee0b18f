import TickScript.Proofs.Sequential.Refinement

/-! A run to completion against plain steps. It makes the steps one after the other and
stops at the bound, at the end of the script or at the first failure, whichever comes
first, so a run with a bound is a run with a lower one and a run of the rest. -/
namespace TickScript

variable {η σ ω : Type}

def StepResult.works : StepResult → Bool
  | .completed | .stillRunning => true
  | .finished => false

namespace Interpreter

variable (host : Host η σ ω) (now : Time)

/-- Steps at one reading of the clock, whatever they come to. -/
def plainSteps (count : Nat) (interp : Interpreter η σ ω) :
    List (Except Fault StepResult) × Interpreter η σ ω :=
  interp.steps host (List.replicate count now)

/-- A run that makes so many plain steps and comes to an outcome. Either all of them succeed, and
the run counts those that did work, or the last one is the first failure. No step is made from a
finished interpreter. -/
structure Iterates (limit : Nat) (interp : Interpreter η σ ω)
    (run : Except Fault Nat × Interpreter η σ ω) (made : Nat) : Prop where
  within : made ≤ limit
  last : (interp.plainSteps host now made).2 = run.2
  unfinished : ∀ fewer < made, (interp.plainSteps host now fewer).2.isFinished = false
  counted : ∀ count, run.1 = .ok count → ∃ answers : List StepResult,
    (interp.plainSteps host now made).1 = answers.map .ok ∧
      count = answers.countP StepResult.works ∧
      count ≤ limit ∧ (count = limit ∨ run.2.isFinished = true)
  failed : ∀ fault, run.1 = .error fault → ∃ answers : List StepResult,
    (interp.plainSteps host now made).1 = answers.map .ok ++ [.error fault] ∧
      ∀ answer ∈ answers, answer.works = true

def goOn (more : Nat) :
    Except Fault Nat × Interpreter η σ ω → Except Fault Nat × Interpreter η σ ω
  | (.error fault, last) => (.error fault, last)
  | (.ok count, middle) =>
    ((middle.runToCompletion host now more).1.map (count + ·),
      (middle.runToCompletion host now more).2)

inductive Begins (interp : Interpreter η σ ω) : Prop
  | finished (finished : interp.isFinished = true)
  | failed {fault : Fault} {last : Interpreter η σ ω} (goes_on : interp.isFinished = false)
      (stepped : interp.step host now = (.error fault, last))
  | ended {last : Interpreter η σ ω} (goes_on : interp.isFinished = false)
      (stepped : interp.step host now = (.ok .finished, last)) (finished : last.isFinished = true)
  | worked {answer : StepResult} {next : Interpreter η σ ω} (goes_on : interp.isFinished = false)
      (stepped : interp.step host now = (.ok answer, next)) (works : answer.works = true)
      (sound : next.Sound)

theorem Sound.begins {interp : Interpreter η σ ω} (sound : interp.Sound) :
    interp.Begins host now := by
  obtain ⟨_, _, next_sound, _⟩ := step_ends host now sound
  have ends := (step_reported host now sound).finished
  have script := step_script host now interp
  by_cases finished : interp.isFinished = true
  · exact .finished finished
  have goes_on : interp.isFinished = false := Bool.eq_false_iff.mpr finished
  cases stepped : interp.step host now with
  | mk outcome next =>
    rw [stepped] at next_sound ends script
    cases outcome with
    | error fault => exact .failed goes_on stepped
    | ok answer =>
      cases answer with
      | stillRunning | completed => exact .worked goes_on stepped rfl next_sound
      | finished =>
        have last : next.isFinished = true :=
          finished_iff.mpr ⟨_, (ends rfl).1, Nat.le_of_eq (congrArg Script.size script)⟩
        exact .ended goes_on stepped last

section Run

variable {host now} {interp last next : Interpreter η σ ω}

theorem runToCompletion_finished (finished : interp.isFinished = true) (limit : Nat) :
    interp.runToCompletion host now limit = (.ok 0, interp) := by
  cases limit with
  | zero => rfl
  | succ limit => simp only [runToCompletion, finished, if_true]

theorem runToCompletion_failed {fault : Fault} (goes_on : interp.isFinished = false)
    (stepped : interp.step host now = (.error fault, last)) (limit : Nat) :
    interp.runToCompletion host now (limit + 1) = (.error fault, last) := by
  simp only [runToCompletion, goes_on, stepped, Bool.false_eq_true, if_false]

theorem runToCompletion_ended (goes_on : interp.isFinished = false)
    (stepped : interp.step host now = (.ok .finished, last)) (limit : Nat) :
    interp.runToCompletion host now (limit + 1) = (.ok 0, last) := by
  simp only [runToCompletion, goes_on, stepped, Bool.false_eq_true, if_false]

theorem runToCompletion_worked {answer : StepResult} (goes_on : interp.isFinished = false)
    (stepped : interp.step host now = (.ok answer, next)) (works : answer.works = true)
    (limit : Nat) :
    interp.runToCompletion host now (limit + 1) =
      ((next.runToCompletion host now limit).1.map (· + 1),
        (next.runToCompletion host now limit).2) := by
  simp only [runToCompletion, goes_on, stepped, Bool.false_eq_true, if_false]
  cases answer with
  | finished => contradiction
  | stillRunning | completed => rfl

theorem plainSteps_succ {outcome : Except Fault StepResult}
    (stepped : interp.step host now = (outcome, next)) (count : Nat) :
    interp.plainSteps host now (count + 1) =
      (outcome :: (next.plainSteps host now count).1, (next.plainSteps host now count).2) := by
  simp only [plainSteps, List.replicate, steps, stepped]

namespace Iterates

variable {limit made : Nat} {run : Except Fault Nat × Interpreter η σ ω}

theorem none (stops : limit = 0 ∨ interp.isFinished = true) :
    interp.Iterates host now limit (.ok 0, interp) 0 where
  within := Nat.zero_le _
  last := rfl
  unfinished _ fewer := absurd fewer (Nat.not_lt_zero _)
  counted count zero := by
    cases zero
    exact ⟨[], rfl, rfl, Nat.zero_le _, stops.imp Eq.symm id⟩
  failed _ impossible := nomatch impossible

theorem unfinished_one (goes_on : interp.isFinished = false) :
    ∀ fewer < 1, (interp.plainSteps host now fewer).2.isFinished = false := by
  intro fewer below
  obtain rfl : fewer = 0 := Nat.lt_one_iff.mp below
  exact goes_on

theorem failing {fault : Fault} (goes_on : interp.isFinished = false)
    (stepped : interp.step host now = (.error fault, last)) :
    interp.Iterates host now (limit + 1) (.error fault, last) 1 where
  within := Nat.le_add_left _ _
  last := by rw [plainSteps_succ stepped]; rfl
  unfinished := unfinished_one goes_on
  counted _ impossible := nomatch impossible
  failed other same := by
    cases same
    exact ⟨[], by rw [plainSteps_succ stepped]; rfl, List.forall_mem_nil _⟩

theorem ending (goes_on : interp.isFinished = false)
    (stepped : interp.step host now = (.ok .finished, last)) (finished : last.isFinished = true) :
    interp.Iterates host now (limit + 1) (.ok 0, last) 1 where
  within := Nat.le_add_left _ _
  last := by rw [plainSteps_succ stepped]; rfl
  unfinished := unfinished_one goes_on
  counted count zero := by
    cases zero
    exact ⟨[.finished], by rw [plainSteps_succ stepped]; rfl, rfl, Nat.zero_le _, .inr finished⟩
  failed _ impossible := nomatch impossible

/-- A step that does work before a run. -/
theorem cons {answer : StepResult} (goes_on : interp.isFinished = false)
    (stepped : interp.step host now = (.ok answer, next)) (works : answer.works = true)
    (rest : next.Iterates host now limit run made) :
    interp.Iterates host now (limit + 1) (run.1.map (· + 1), run.2) (made + 1) := by
  have before := plainSteps_succ stepped
  constructor
  case within => exact Nat.succ_le_succ rest.within
  case last => rw [before, rest.last]
  case unfinished =>
    intro fewer below
    cases fewer with
    | zero => exact goes_on
    | succ fewer =>
      rw [before]
      exact rest.unfinished fewer (Nat.lt_of_succ_lt_succ below)
  case counted =>
    intro count same
    obtain ⟨outcome, last⟩ := run
    cases outcome with
    | error fault => contradiction
    | ok others =>
      cases same
      obtain ⟨answers, made, counted, bounded, stops⟩ := rest.counted others rfl
      refine ⟨answer :: answers, ?_, ?_, Nat.succ_le_succ bounded, ?_⟩
      · rw [before, made, List.map_cons]
      · rw [List.countP_cons_of_pos works, ← counted]
      · exact stops.imp (congrArg (· + 1)) id
  case failed =>
    intro fault same
    obtain ⟨outcome, last⟩ := run
    cases outcome with
    | ok others => contradiction
    | error other =>
      cases same
      obtain ⟨answers, made, work⟩ := rest.failed _ rfl
      refine ⟨answer :: answers, ?_, List.forall_mem_cons.mpr ⟨works, work⟩⟩
      rw [before, made, List.map_cons, List.cons_append]

end Iterates

end Run

/-- A run to completion makes plain steps, up to its bound. -/
theorem runToCompletion_iterates (limit : Nat) {interp : Interpreter η σ ω}
    (sound : interp.Sound) :
    ∃ made, interp.Iterates host now limit (interp.runToCompletion host now limit) made := by
  induction limit generalizing interp with
  | zero => exact ⟨0, .none (.inl rfl)⟩
  | succ limit ih =>
    cases sound.begins host now with
    | finished finished =>
      rw [runToCompletion_finished finished]
      exact ⟨0, .none (.inr finished)⟩
    | failed goes_on stepped =>
      rw [runToCompletion_failed goes_on stepped]
      exact ⟨1, .failing goes_on stepped⟩
    | ended goes_on stepped finished =>
      rw [runToCompletion_ended goes_on stepped]
      exact ⟨1, .ending goes_on stepped finished⟩
    | worked goes_on stepped works next_sound =>
      rw [runToCompletion_worked goes_on stepped works]
      obtain ⟨made, iterates⟩ := ih next_sound
      exact ⟨made + 1, iterates.cons goes_on stepped works⟩

theorem goOn_finished {interp : Interpreter η σ ω} (finished : interp.isFinished = true)
    (more : Nat) : goOn host now more (.ok 0, interp) = (.ok 0, interp) := by
  simp only [goOn, runToCompletion_finished finished, Except.map, Nat.zero_add]

theorem goOn_succ (more : Nat) (run : Except Fault Nat × Interpreter η σ ω) :
    goOn host now more (run.1.map (· + 1), run.2) =
      ((goOn host now more run).1.map (· + 1), (goOn host now more run).2) := by
  obtain ⟨outcome, middle⟩ := run
  cases outcome with
  | error fault => rfl
  | ok count =>
    simp only [goOn, Except.map]
    cases (middle.runToCompletion host now more).1 with
    | error fault => rfl
    | ok others => simp only [Nat.add_right_comm]

/-- The bound of a run can be split anywhere: what one run has left, another one can do. -/
theorem runToCompletion_add (limit more : Nat) {interp : Interpreter η σ ω}
    (sound : interp.Sound) :
    interp.runToCompletion host now (limit + more) =
      goOn host now more (interp.runToCompletion host now limit) := by
  induction limit generalizing interp with
  | zero =>
    rw [Nat.zero_add]
    simp only [runToCompletion, goOn]
    cases interp.runToCompletion host now more with
    | mk outcome last => cases outcome <;> simp only [Except.map, Nat.zero_add]
  | succ limit ih =>
    rw [Nat.succ_add]
    cases sound.begins host now with
    | finished finished =>
      simp only [runToCompletion_finished finished, goOn_finished host now finished]
    | failed goes_on stepped =>
      simp only [runToCompletion_failed goes_on stepped]
      rfl
    | ended goes_on stepped finished =>
      simp only [runToCompletion_ended goes_on stepped, goOn_finished host now finished]
    | worked goes_on stepped works next_sound =>
      simp only [runToCompletion_worked goes_on stepped works, goOn_succ, ih next_sound]

/-- In every session a run to completion is plain stepping up to its bound, and it can be split
wherever its bound can. -/
theorem run_iterates (host : Host (Builtin ⊕ η) σ ω) (script : Script)
    (extra : Registry (Builtin ⊕ η)) (world : ω) (actions : List (Action η ω)) (now : Time)
    (limit : Nat) :
    let interp := (create script extra world).after host actions
    (∃ made, interp.Iterates host now limit (interp.runToCompletion host now limit) made) ∧
      ∀ more, interp.runToCompletion host now (limit + more) =
        goOn host now more (interp.runToCompletion host now limit) := by
  intro interp
  have sound : interp.Sound := after_sound host actions (sound_fresh _ _ _)
  constructor
  · exact runToCompletion_iterates host now limit sound
  · intro more
    exact runToCompletion_add host now limit more sound

end Interpreter
end TickScript
