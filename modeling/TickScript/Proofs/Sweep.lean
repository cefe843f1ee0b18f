import TickScript.Proofs.Cursor

/-! A step goes through the script once. It tries to start each command at most once and
resumes each at most once, from the cursor on and in the order of the script, so the
commands that are left are a bound on its resumes. -/
namespace TickScript

/-- Indices in increasing order, from a start on and below a bound. -/
inductive Climbs (start : Nat) : Nat → List Nat → Prop
  | nothing : Climbs start start []
  | pass {bound indices} (before : Climbs start bound indices) : Climbs start (bound + 1) indices
  | take {bound indices} (before : Climbs start bound indices) :
      Climbs start (bound + 1) (indices ++ [bound])

namespace Climbs

variable {start bound : Nat} {indices : List Nat}

theorem lt_bound (climbs : Climbs start bound indices) : ∀ index ∈ indices, index < bound := by
  induction climbs with
  | nothing => exact nofun
  | pass _ ih => exact fun index member => Nat.lt_succ_of_lt (ih index member)
  | take _ ih =>
    exact forall_snoc (fun index member => Nat.lt_succ_of_lt (ih index member))
      (Nat.lt_succ_self _)

theorem increasing (climbs : Climbs start bound indices) : indices.Pairwise (· < ·) := by
  induction climbs with
  | nothing => exact .nil
  | pass _ ih => exact ih
  | take before ih => exact pairwise_snoc ih before.lt_bound

theorem length_le (climbs : Climbs start bound indices) : start + indices.length ≤ bound := by
  induction climbs with
  | nothing => exact Nat.le_refl _
  | pass _ ih => exact Nat.le_succ_of_le ih
  | take _ ih =>
    rw [List.length_append, List.length_singleton, ← Nat.add_assoc]
    exact Nat.succ_le_succ ih

end Climbs

namespace Move

def tried? : Move → Option Nat
  | skipped index | refused index _ | started index => some index
  | resumed .. | vacant => none

def resumed? : Move → Option Nat
  | resumed index _ => some index
  | _ => none

end Move

def tries (moves : List Move) : List Nat := moves.filterMap Move.tried?

def resumes (moves : List Move) : List Nat := moves.filterMap Move.resumed?

namespace Tick

variable {η σ ω : Type} {host : Host η σ ω} {now : Time} {start bound index : Nat}
  {moves : List Move} {move : Move}

/-- Starts and resumes have gone through the commands from a start on, up to their bounds. -/
structure Swept (start tried resumed : Nat) (moves : List Move) : Prop where
  tries : Climbs start tried (tries moves)
  resumes : Climbs start resumed (resumes moves)

theorem Swept.try (swept : Swept start index index moves) (tried : move.tried? = some index)
    (other : move.resumed? = none) : Swept start (index + 1) index (moves ++ [move]) where
  tries := by
    rw [TickScript.tries, List.filterMap_append, List.filterMap_cons, tried]
    exact swept.tries.take
  resumes := by
    rw [TickScript.resumes, List.filterMap_append, List.filterMap_cons, other, List.filterMap_nil,
      List.append_nil]
    exact swept.resumes

theorem Swept.resume (swept : Swept start (index + 1) index moves)
    (resumed : move.resumed? = some index) (other : move.tried? = none) :
    Swept start (index + 1) (index + 1) (moves ++ [move]) where
  tries := by
    rw [TickScript.tries, List.filterMap_append, List.filterMap_cons, other, List.filterMap_nil,
      List.append_nil]
    exact swept.tries
  resumes := by
    rw [TickScript.resumes, List.filterMap_append, List.filterMap_cons, resumed]
    exact swept.resumes.take

theorem Swept.pass (swept : Swept start (index + 1) index moves) :
    Swept start (index + 1) (index + 1) moves :=
  ⟨swept.tries, swept.resumes.pass⟩

/-- A step under way has gone through the commands up to the one it is at. -/
def Sweeps (start : Nat) (tick : Tick η σ ω) : Prop :=
  match tick.point with
  | .seeking index _ => Swept start index index tick.moves
  | .resuming => ∃ index, tick.interp.cursor = some index ∧ Swept start (index + 1) index tick.moves
  | .ended _ => ∃ bound ≤ tick.interp.script.size, Swept start bound bound tick.moves

theorem round_sweeps {tick next : Tick η σ ω} (round : Round host now tick next)
    (steady : tick.Steady start) (sweeps : tick.Sweeps start) : next.Sweeps start := by
  have inside {script : Script} {index : Nat} {command : Command}
      (found : script.get? index = some command) : index + 1 ≤ script.size :=
    (List.getElem?_eq_some_iff.mp found).1
  have here {interp : Interpreter η σ ω} {moves : List Move} {flight : InFlight σ}
      (slot : interp.inFlight = some flight) (steady : Steady start ⟨.resuming, interp, moves⟩)
      (sweeps : Sweeps start ⟨.resuming, interp, moves⟩) :
      interp.cursor.getD 0 < interp.script.size ∧
        Swept start (interp.cursor.getD 0 + 1) (interp.cursor.getD 0) moves := by
    obtain ⟨_, _, sound, _⟩ := steady
    obtain ⟨index, at_index, swept⟩ := sweeps
    obtain ⟨same, within⟩ := aligned_at sound slot at_index
    rw [same]
    exact ⟨within, swept⟩
  cases round with
  | exhausted beyond => exact ⟨_, steady.2.1, sweeps⟩
  | refused found failed => exact ⟨_, inside found, (sweeps.try rfl rfl).pass⟩
  | skipped found unmet => exact (sweeps.try rfl rfl).pass
  | @started index completed interp moves command suspension scene found begun =>
    cases completed with
    | false => exact ⟨index, rfl, sweeps.try rfl rfl⟩
    | true => exact ⟨_, inside found, (sweeps.try rfl rfl).pass⟩
  | vacant empty =>
    obtain ⟨_, _, _, filled, _⟩ := steady
    rw [empty] at filled
    contradiction
  | failed slot resumed | unfinished slot resumed =>
    obtain ⟨within, swept⟩ := here slot steady sweeps
    exact ⟨_, within, swept.resume rfl rfl⟩
  | declined slot resumed | done slot resumed =>
    obtain ⟨within, swept⟩ := here slot steady sweeps
    exact swept.resume rfl rfl
  | still => exact sweeps

end Tick

namespace Interpreter

variable {η σ ω : Type} (host : Host η σ ω) (now : Time)

/-- Whatever a step tries and resumes, it goes through the commands from the cursor on. -/
theorem tick_swept {interp : Interpreter η σ ω} (sound : interp.Sound) :
    ∃ bound ≤ interp.script.size,
      Tick.Swept (interp.cursor.getD 0) bound bound (interp.tick host now).moves := by
  have nothing (start : Nat) : Tick.Swept start start start [] := ⟨.nothing, .nothing⟩
  have sweeps : (interp.tick host now).Sweeps (interp.cursor.getD 0) := by
    apply tick_induction host now sound
    case entered =>
      cases slot : interp.inFlight with
      | none =>
        simp only [entry, slot, Option.isSome_none, Bool.false_eq_true, if_false]
        exact nothing _
      | some flight =>
        obtain ⟨index, _, here, _⟩ := sound.aligned flight slot
        simp only [entry, slot, Option.isSome_some, if_true]
        refine ⟨index, here, ?_⟩
        rw [here, Option.getD_some]
        exact ⟨Climbs.nothing.pass, .nothing⟩
    case finished =>
      refine ⟨_, ?_, nothing _⟩
      cases here : interp.cursor with
      | none => exact Nat.zero_le _
      | some index => exact sound.within index here
    case kept =>
      intro tick next
      exact Tick.round_sweeps
  obtain ⟨ended, same⟩ := tick_step host now sound
  simp only [Tick.Sweeps, ended, same, step_script] at sweeps
  exact sweeps

end Interpreter

end TickScript
