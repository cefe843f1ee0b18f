import TickScript.Proofs.Session

/-! The cursor, the slot and the binding kept in it belong together in every state
of a session. A step settles the commands from the cursor on one after the other,
and where it ends it leaves the three as its outcome says. -/
namespace TickScript

def fates (moves : List Move) : List (Nat × Fate) := moves.filterMap Move.fate?

def completions (moves : List Move) : Nat := moves.countP Move.completes

/-- The commands between two indices get their fates, each one once and in order. -/
def Passed (start index : Nat) (moves : List Move) : Prop :=
  List.range start ++ (fates moves).map Prod.fst = List.range index

namespace Passed

variable {start index : Nat} {moves : List Move}

theorem nothing (start : Nat) : Passed start start [] := List.append_nil _

theorem settle (passed : Passed start index moves) {move : Move} {fate : Fate}
    (sealed : move.fate? = some (index, fate)) : Passed start (index + 1) (moves ++ [move]) := by
  unfold Passed at passed ⊢
  rw [List.range_succ, ← passed]
  simp only [fates, List.filterMap_append, List.filterMap_cons, sealed, List.filterMap_nil,
    List.map_append, List.map_cons, List.map_nil, List.append_assoc]

theorem keep (passed : Passed start index moves) {move : Move} (unsealed : move.fate? = none) :
    Passed start index (moves ++ [move]) := by
  unfold Passed at passed ⊢
  rw [← passed]
  simp only [fates, List.filterMap_append, List.filterMap_cons, unsealed, List.filterMap_nil,
    List.append_nil]

theorem length (passed : Passed start index moves) : start + (fates moves).length = index := by
  have same := congrArg List.length passed
  simpa only [List.length_append, List.length_range, List.length_map] using same

theorem trans {middle : Nat} {later : List Move} (first : Passed start middle moves)
    (second : Passed middle index later) : Passed start index (moves ++ later) := by
  unfold Passed at first second ⊢
  rw [← second, ← first]
  simp only [fates, List.filterMap_append, List.map_append, List.append_assoc]

end Passed

theorem completes_fate {move : Move} (completes : move.completes = true) :
    ∃ index value, move.fate? = some (index, .completed value) := by
  unfold Move.completes at completes
  split at completes
  · exact ⟨_, _, rfl⟩
  · contradiction

theorem completions_le_fates (moves : List Move) : completions moves ≤ (fates moves).length := by
  induction moves with
  | nil => exact Nat.le_refl _
  | cons move rest ih =>
    simp only [completions, fates, List.countP_cons, List.filterMap_cons] at ih ⊢
    cases completes : move.completes with
    | false =>
      simp only [Bool.false_eq_true, if_false, Nat.add_zero]
      split
      · exact ih
      · exact Nat.le_succ_of_le ih
    | true =>
      obtain ⟨index, value, sealed⟩ := completes_fate completes
      simp only [sealed, if_true, List.length_cons]
      omega

theorem completions_snoc (moves : List Move) (move : Move) :
    completions (moves ++ [move]) = completions moves + move.completes.toNat := by
  simp only [completions, List.countP_append, List.countP_singleton]
  cases move.completes <;> rfl

theorem occupied_snoc {moves : List Move} (occupied : Move.vacant ∉ moves) {move : Move}
    (other : move ≠ .vacant) : Move.vacant ∉ moves ++ [move] :=
  fun member => occupied (mem_of_mem_snoc member other)

namespace Interpreter.Sound

variable {η σ ω : Type}

theorem vacant {interp : Interpreter η σ ω} {index : Nat} (here : interp.cursor = some index)
    (inside : index ≤ interp.script.size) (empty : interp.inFlight = none) : interp.Sound where
  within other at_other := by
    cases here.symm.trans at_other
    exact inside
  aligned flight occupied := by
    rw [empty] at occupied
    contradiction

theorem occupied {interp : Interpreter η σ ω} {index : Nat} {command : Command} {suspension : σ}
    (here : interp.cursor = some index) (found : interp.script.get? index = some command)
    (slot : interp.inFlight = some ⟨suspension, command.binding⟩) : interp.Sound where
  within other at_other := by
    cases here.symm.trans at_other
    exact Nat.le_of_lt (List.getElem?_eq_some_iff.mp found).1
  aligned flight filled := by
    cases slot.symm.trans filled
    exact ⟨index, command, here, found, rfl⟩

theorem resumed {interp : Interpreter η σ ω} (sound : interp.Sound) {flight : InFlight σ}
    (slot : interp.inFlight = some flight) (suspension : σ) (scene : Scene ω) :
    Sound { interp with scene, inFlight := some { flight with suspension } } where
  within := sound.within
  aligned other filled := by
    cases filled
    exact sound.aligned flight slot

end Interpreter.Sound

namespace Tick

variable {η σ ω : Type}

/-- What the outcome of a step tells of the interpreter and the moves at the index where it ends. A
breakdown may strike after a completion. -/
def Ends (index : Nat) (interp : Interpreter η σ ω) (moves : List Move) :
    Except Fault StepResult → Prop
  | .ok .stillRunning => interp.inFlight.isSome ∧ completions moves = 0
  | .ok .completed => completions moves = 1
  | .ok .finished => index = interp.script.size ∧ interp.inFlight = none ∧ completions moves = 0
  | .error fault => index < interp.script.size ∧
      (interp.inFlight.isSome ∧ moves.getLast? = some (.resumed index (.error fault)) ∧
          completions moves = 0 ∨
        interp.inFlight = none ∧ moves.getLast? = some (.refused index fault) ∧
          (completions moves = 0 ∨ completions moves = 1 ∧ ∃ cause, fault = .breakdown cause))

/-- A step under way has passed all commands from its start on and completed at most one of them. -/
def Steady (start : Nat) (tick : Tick η σ ω) : Prop :=
  Move.vacant ∉ tick.moves ∧
    match tick.point with
    | .seeking index completed =>
        index ≤ tick.interp.script.size ∧ tick.interp.inFlight = none ∧
          Passed start index tick.moves ∧ completions tick.moves = completed.toNat
    | .resuming => ∃ index, tick.interp.Sound ∧ tick.interp.inFlight.isSome ∧
        tick.interp.cursor = some index ∧ Passed start index tick.moves ∧
          completions tick.moves = 0
    | .ended outcome => ∃ index, tick.interp.Sound ∧ tick.interp.cursor = some index ∧
        Passed start index tick.moves ∧ Ends index tick.interp tick.moves outcome

variable {host : Host η σ ω} {now : Time} {start : Nat}

/-- What is in flight stands in the script, at the cursor. -/
theorem aligned_at {interp : Interpreter η σ ω} (sound : interp.Sound) {flight : InFlight σ}
    (slot : interp.inFlight = some flight) {index : Nat} (here : interp.cursor = some index) :
    interp.cursor.getD 0 = index ∧ index < interp.script.size := by
  obtain ⟨other, command, at_other, found, _⟩ := sound.aligned flight slot
  cases here.symm.trans at_other
  exact ⟨by rw [here, Option.getD_some], (List.getElem?_eq_some_iff.mp found).1⟩

theorem round_steady {tick next : Tick η σ ω} (round : Round host now tick next)
    (steady : Steady start tick) : Steady start next := by
  cases round with
  | @exhausted index completed interp moves beyond =>
    obtain ⟨occupied, inside, empty, passed, count⟩ := steady
    have last : interp.script.size ≤ index := List.getElem?_eq_none_iff.mp beyond
    refine ⟨occupied, index, .vacant rfl inside empty, rfl, passed, ?_⟩
    cases completed with
    | false => exact ⟨Nat.le_antisymm inside last, empty, count⟩
    | true => exact count
  | @refused index completed interp moves command fault scene found failed =>
    obtain ⟨occupied, inside, empty, passed, count⟩ := steady
    have within : index < interp.script.size := (List.getElem?_eq_some_iff.mp found).1
    have last : (moves ++ [Move.refused index fault]).getLast? = some (.refused index fault) :=
      List.getLast?_concat ..
    have refused : completions (moves ++ [Move.refused index fault]) = completed.toNat := by
      rw [completions_snoc, count]
      rfl
    refine ⟨occupied_snoc occupied (by simp), index, .vacant rfl inside empty, rfl,
      passed.keep rfl, ?_⟩
    cases fault with
    | script error =>
      cases completed with
      | false => exact ⟨within, .inr ⟨empty, last, .inl refused⟩⟩
      | true => exact refused
    | breakdown cause =>
      refine ⟨within, .inr ⟨empty, last, ?_⟩⟩
      cases completed with
      | false => exact .inl refused
      | true => exact .inr ⟨refused, cause, rfl⟩
  | skipped found unmet =>
    obtain ⟨occupied, inside, empty, passed, count⟩ := steady
    refine ⟨occupied_snoc occupied (by simp), (List.getElem?_eq_some_iff.mp found).1, empty,
      passed.settle rfl, ?_⟩
    rw [completions_snoc, count]
    rfl
  | @started index completed interp moves command suspension scene found begun =>
    obtain ⟨occupied, inside, empty, passed, count⟩ := steady
    have started : completions (moves ++ [Move.started index]) = completed.toNat := by
      rw [completions_snoc, count]
      rfl
    refine ⟨occupied_snoc occupied (by simp), ?_⟩
    cases completed with
    | false => exact ⟨index, .occupied rfl found rfl, rfl, rfl, passed.keep rfl, started⟩
    | true => exact ⟨index, .occupied rfl found rfl, rfl, passed.keep rfl, started⟩
  | vacant empty =>
    obtain ⟨_, index, _, filled, _⟩ := steady
    rw [empty] at filled
    contradiction
  | failed slot resumed =>
    obtain ⟨occupied, index, sound, filled, here, passed, count⟩ := steady
    obtain ⟨same, within⟩ := aligned_at sound slot here
    refine ⟨occupied_snoc occupied (by simp), index, sound.resumed slot _ _, here, passed.keep rfl,
      within, .inl ⟨rfl, ?_, ?_⟩⟩
    · rw [same]
      exact List.getLast?_concat ..
    · rw [completions_snoc, count]
      rfl
  | unfinished slot resumed =>
    obtain ⟨occupied, index, sound, filled, here, passed, count⟩ := steady
    refine ⟨occupied_snoc occupied (by simp), index, sound.resumed slot _ _, here, passed.keep rfl,
      rfl, ?_⟩
    rw [completions_snoc, count]
    rfl
  | declined slot resumed =>
    obtain ⟨occupied, index, sound, filled, here, passed, count⟩ := steady
    obtain ⟨same, within⟩ := aligned_at sound slot here
    simp only [same]
    refine ⟨occupied_snoc occupied (by simp), within, rfl, passed.settle rfl, ?_⟩
    rw [completions_snoc, count]
    rfl
  | done slot resumed =>
    obtain ⟨occupied, index, sound, filled, here, passed, count⟩ := steady
    obtain ⟨same, within⟩ := aligned_at sound slot here
    simp only [same]
    refine ⟨occupied_snoc occupied (by simp), within, rfl, passed.settle rfl, ?_⟩
    rw [completions_snoc, count]
    rfl
  | still => exact steady

end Tick

namespace Interpreter

variable {η σ ω : Type} (host : Host η σ ω) (now : Time)

theorem finished_iff {interp : Interpreter η σ ω} :
    interp.isFinished = true ↔
      ∃ index, interp.cursor = some index ∧ interp.script.size ≤ index := by
  cases here : interp.cursor <;> simp [isFinished, here]

theorem unfinished_at {interp : Interpreter η σ ω} {index : Nat} {command : Command}
    (here : interp.cursor = some index) (found : interp.script.get? index = some command) :
    interp.isFinished = false := by
  have inside : index < interp.script.size := (List.getElem?_eq_some_iff.mp found).1
  simp only [isFinished, here, Option.any_some]
  exact decide_eq_false (Nat.not_le.mpr inside)

theorem Sound.finished {interp : Interpreter η σ ω} (sound : interp.Sound)
    (finished : interp.isFinished = true) :
    interp.cursor = some interp.script.size ∧ interp.inFlight = none := by
  obtain ⟨index, here, last⟩ := finished_iff.mp finished
  have same : index = interp.script.size := Nat.le_antisymm (sound.within index here) last
  subst same
  refine ⟨here, ?_⟩
  cases slot : interp.inFlight with
  | none => rfl
  | some flight =>
    obtain ⟨other, command, at_other, found, _⟩ := sound.aligned flight slot
    cases here.symm.trans at_other
    have inside : interp.script.size < interp.script.size := (List.getElem?_eq_some_iff.mp found).1
    exact absurd inside (Nat.lt_irrefl _)

theorem entry_steady {interp : Interpreter η σ ω} (sound : interp.Sound) :
    interp.entry.Steady (interp.cursor.getD 0) := by
  cases slot : interp.inFlight with
  | none =>
    simp only [entry, slot, Option.isSome_none, Bool.false_eq_true, if_false]
    refine ⟨List.not_mem_nil, ?_, slot, .nothing _, rfl⟩
    cases here : interp.cursor with
    | none => exact Nat.zero_le _
    | some index => exact sound.within index here
  | some flight =>
    obtain ⟨index, _, here, _⟩ := sound.aligned flight slot
    simp only [entry, slot, Option.isSome_some, if_true]
    refine ⟨List.not_mem_nil, index, sound, by rw [slot]; rfl, here, ?_, rfl⟩
    rw [here]
    exact .nothing _

/-- What holds of a step as it begins and is kept by all rounds of a steady step, holds of it in the
end. -/
theorem tick_induction {interp : Interpreter η σ ω} (sound : interp.Sound)
    {P : Tick η σ ω → Prop} (entered : P interp.entry)
    (finished : P { point := .ended (.ok .finished), interp })
    (kept : ∀ {tick next}, Tick.Round host now tick next → tick.Steady (interp.cursor.getD 0) →
      P tick → P next) : P (interp.tick host now) := by
  unfold tick
  split
  · exact finished
  · apply And.right
    apply Tick.rounds_preserves (P := fun tick => tick.Steady (interp.cursor.getD 0) ∧ P tick)
    · rintro tick next round ⟨steady, holds⟩
      exact ⟨Tick.round_steady round steady, kept round steady holds⟩
    · exact ⟨entry_steady sound, entered⟩

theorem tick_steady {interp : Interpreter η σ ω} (sound : interp.Sound) :
    (interp.tick host now).Steady (interp.cursor.getD 0) := by
  unfold tick
  split
  case isTrue finished =>
    obtain ⟨here, empty⟩ := sound.finished finished
    refine ⟨List.not_mem_nil, interp.script.size, sound, here, ?_, rfl, empty, rfl⟩
    rw [here]
    exact .nothing _
  case isFalse => exact Tick.rounds_preserves Tick.round_steady _ (entry_steady sound)

/-- A step from a sound state passes the commands up to the new cursor and ends as it says. -/
theorem step_ends {interp : Interpreter η σ ω} (sound : interp.Sound) :
    Move.vacant ∉ (interp.tick host now).moves ∧ ∃ index, (interp.step host now).2.Sound ∧
      (interp.step host now).2.cursor = some index ∧
      Passed (interp.cursor.getD 0) index (interp.tick host now).moves ∧
      Tick.Ends index (interp.step host now).2 (interp.tick host now).moves
        (interp.step host now).1 := by
  have ⟨ended, same⟩ := tick_step host now sound
  have steady : (interp.tick host now).Steady (interp.cursor.getD 0) :=
    tick_steady host now sound
  unfold Tick.Steady at steady
  rw [ended, same] at steady
  exact steady

theorem step_script (interp : Interpreter η σ ω) :
    (interp.step host now).2.script = interp.script := by
  unfold step
  split <;> rfl

structure Reported (host : Host η σ ω) (now : Time) (interp : Interpreter η σ ω) : Prop where
  looped : (interp.tick host now).point = .ended (interp.step host now).1 ∧
    (interp.tick host now).interp = (interp.step host now).2
  running : (interp.step host now).1 = .ok .stillRunning →
    (interp.step host now).2.inFlight.isSome
  completed : (interp.step host now).1 = .ok .completed →
    interp.position < (interp.step host now).2.position
  finished : (interp.step host now).1 = .ok .finished →
    (interp.step host now).2.cursor = some interp.script.size ∧
      (interp.step host now).2.inFlight = none
  failed : ∀ fault, (interp.step host now).1 = .error fault →
    ∃ index < interp.script.size, (interp.step host now).2.cursor = some index ∧
      ((interp.step host now).2.inFlight.isSome ∧
          (interp.tick host now).moves.getLast? = some (.resumed index (.error fault)) ∨
        (interp.step host now).2.inFlight = none ∧
          (interp.tick host now).moves.getLast? = some (.refused index fault))
  occupied : Move.vacant ∉ (interp.tick host now).moves

/-- A later cursor is a later position; before the first step the position is below every index. -/
theorem position_add_le {before after : Interpreter η σ ω} {index count : Nat}
    (moved : before.cursor.getD 0 + count = index) (here : after.cursor = some index) :
    before.position + count ≤ after.position := by
  unfold position
  cases first : before.cursor <;>
    simp only [first, here, Option.getD_some, Option.getD_none] at * <;> omega

theorem step_reported {interp : Interpreter η σ ω} (sound : interp.Sound) :
    interp.Reported host now := by
  obtain ⟨occupied, index, _, here, passed, ends⟩ := step_ends host now sound
  have same := step_script host now interp
  constructor
  case looped => exact tick_step host now sound
  case running =>
    intro outcome
    rw [outcome] at ends
    exact ends.1
  case completed =>
    intro outcome
    rw [outcome] at ends
    have some_fate := completions_le_fates (interp.tick host now).moves
    rw [show completions (interp.tick host now).moves = 1 from ends] at some_fate
    have moved := position_add_le passed.length here
    omega
  case finished =>
    intro outcome
    rw [outcome] at ends
    obtain ⟨last, empty, _⟩ := ends
    exact ⟨by rw [here, last, same], empty⟩
  case failed =>
    intro fault outcome
    rw [outcome] at ends
    obtain ⟨inside, origin⟩ := ends
    refine ⟨index, same ▸ inside, here, ?_⟩
    rcases origin with ⟨filled, last, _⟩ | ⟨empty, last, _⟩
    · exact .inl ⟨filled, last⟩
    · exact .inr ⟨empty, last⟩
  case occupied => exact occupied

theorem sound_fresh (script : Script) (registry : Registry η) (world : ω) :
    (fresh script registry world : Interpreter η σ ω).Sound where
  within _ here := nomatch here
  aligned _ slot := nomatch slot

section Session

variable (host : Host (Builtin ⊕ η) σ ω)

theorem perform_sound (action : Action η ω) {interp : Interpreter (Builtin ⊕ η) σ ω}
    (sound : interp.Sound) :
    (interp.perform host action).Sound ∧
      interp.position ≤ (interp.perform host action).position := by
  apply perform_preserves (P := fun later => later.Sound ∧ interp.position ≤ later.position)
  case initial => exact ⟨sound, Int.le_refl _⟩
  case stepped =>
    rintro now middle ⟨sound, above⟩
    obtain ⟨_, index, next, here, passed, _⟩ := step_ends host now sound
    have moved := position_add_le passed.length here
    exact ⟨next, by omega⟩
  case aside =>
    rintro middle registry scene ⟨sound, above⟩
    exact ⟨⟨sound.within, sound.aligned⟩, above⟩

theorem after_sound (actions : List (Action η ω)) {interp : Interpreter (Builtin ⊕ η) σ ω}
    (sound : interp.Sound) : (interp.after host actions).Sound :=
  after_preserves (P := Sound) (fun action _ sound => (perform_sound host action sound).1) actions
    sound

theorem after_script (actions : List (Action η ω)) (interp : Interpreter (Builtin ⊕ η) σ ω) :
    (interp.after host actions).script = interp.script := by
  apply after_preserves (P := fun later => later.script = interp.script) _ actions rfl
  intro action later same
  exact perform_preserves (P := fun next => next.script = interp.script)
    (fun _ next same => (step_script host _ next).trans same) (fun _ _ _ same => same) action same

/-- In every session the cursor lies in the script and never goes back, what is in flight is the
command at the cursor with its own binding, and every step reports what it has done to them. -/
theorem session_sound (script : Script) (extra : Registry (Builtin ⊕ η)) (world : ω)
    (actions : List (Action η ω)) :
    let interp := (create script extra world).after host actions
    interp.script = script ∧ interp.Sound ∧
      (∀ action, interp.position ≤ (interp.perform host action).position) ∧
      (∀ now, interp.Reported host now) ∧
      (interp.isFinished = true → ∀ now, interp.step host now = (.ok .finished, interp)) := by
  intro interp
  have sound : interp.Sound := after_sound host actions (sound_fresh _ _ _)
  refine ⟨after_script host actions _, sound, ?_, ?_, ?_⟩
  · intro action
    exact (perform_sound host action sound).2
  · intro now
    exact step_reported host now sound
  · intro finished now
    simp only [step, finished, if_true]

end Session

end Interpreter
end TickScript
