import TickScript.Proofs.Cursor

/-! The fates of the commands over a whole session. However steps, failures and
retries follow one another, the commands before the cursor have been completed,
skipped or declined once each and in order, and the others not at all. -/
namespace TickScript

namespace Report

def isCompletion (report : Report) : Bool :=
  match report.outcome with
  | .ok .completed => true
  | _ => false

/-- A step that breaks down once it has completed a command. It comes to no answer. -/
def isBrokenOff (report : Report) : Bool :=
  match report.outcome with
  | .error (.breakdown _) => completions report.moves != 0
  | _ => false

/-- A step completes at most one command. If it comes to an answer, it answers that it has completed
one exactly when it has. -/
structure Counted (report : Report) : Prop where
  once : completions report.moves ≤ 1
  answered : ∀ result, report.outcome = .ok result →
    (result = .completed ↔ completions report.moves = 1)
  failed : ∀ error, report.outcome = .error (.script error) → completions report.moves = 0

theorem Counted.completions_eq {report : Report} (counted : report.Counted) :
    completions report.moves = report.isCompletion.toNat + report.isBrokenOff.toNat := by
  obtain ⟨outcome, moves⟩ := report
  obtain ⟨once, answered, failed⟩ := counted
  simp only at once answered failed
  cases outcome with
  | error fault =>
    cases fault with
    | script error => simp only [isCompletion, isBrokenOff, failed error rfl, Bool.toNat_false]
    | breakdown cause =>
      rcases Nat.le_one_iff_eq_zero_or_eq_one.mp once with none | one
      · simp only [isCompletion, isBrokenOff, none]
        rfl
      · simp only [isCompletion, isBrokenOff, one]
        rfl
  | ok result =>
    have answer := answered result rfl
    cases result with
    | completed => exact answer.mp rfl
    | stillRunning | finished =>
      have other : completions moves ≠ 1 := fun one => nomatch answer.mpr one
      simp only [isCompletion, isBrokenOff, Bool.toNat_false]
      omega

end Report

theorem completions_flatMap {reports : List Report}
    (counted : ∀ report ∈ reports, report.Counted) :
    completions (reports.flatMap Report.moves) =
      reports.countP Report.isCompletion + reports.countP Report.isBrokenOff := by
  induction reports with
  | nil => rfl
  | cons report rest ih =>
    have first := (counted report List.mem_cons_self).completions_eq
    have others := ih fun other member => counted other (List.mem_cons_of_mem _ member)
    simp only [completions, List.flatMap_cons, List.countP_append, List.countP_cons]
      at first others ⊢
    rw [first, others]
    cases report.isCompletion <;> cases report.isBrokenOff <;>
      simp only [Bool.toNat_true, Bool.toNat_false, if_true, Bool.false_eq_true, if_false] <;>
      omega

namespace Interpreter

variable {η σ ω : Type}

theorem report_counted (host : Host η σ ω) (now : Time) {interp : Interpreter η σ ω}
    (sound : interp.Sound) : (interp.report host now).Counted := by
  obtain ⟨_, index, _, _, _, ends⟩ := step_ends host now sound
  simp only [report]
  generalize (interp.tick host now).moves = moves at ends ⊢
  generalize (interp.step host now).1 = outcome at ends ⊢
  cases outcome with
  | error fault =>
    obtain ⟨_, ⟨_, _, none⟩ | ⟨_, _, none | ⟨one, cause, broke⟩⟩⟩ := ends
    · exact ⟨by simp only [none]; decide, nofun, fun _ _ => none⟩
    · exact ⟨by simp only [none]; decide, nofun, fun _ _ => none⟩
    · subst broke
      exact ⟨Nat.le_of_eq one, nofun, nofun⟩
  | ok result =>
    have answer : completions moves ≤ 1 ∧ (result = .completed ↔ completions moves = 1) := by
      cases result with
      | stillRunning => exact ⟨by rw [ends.2]; decide, by rw [ends.2]; decide⟩
      | completed => exact ⟨Nat.le_of_eq ends, fun _ => ends, fun _ => rfl⟩
      | finished => exact ⟨by rw [ends.2.2]; decide, by rw [ends.2.2]; decide⟩
    refine ⟨answer.1, ?_, nofun⟩
    intro other same
    cases same
    exact answer.2

theorem report_passed (host : Host η σ ω) (now : Time) {interp : Interpreter η σ ω}
    (sound : interp.Sound) :
    Passed (interp.cursor.getD 0) ((interp.step host now).2.cursor.getD 0)
      (interp.report host now).moves := by
  obtain ⟨_, index, _, here, passed, _⟩ := step_ends host now sound
  rw [here]
  exact passed

def Passes (before : Interpreter η σ ω) (moves : List Move) (after : Interpreter η σ ω) : Prop :=
  Passed (before.cursor.getD 0) (after.cursor.getD 0) moves

theorem runReports_passed (host : Host η σ ω) (now : Time) (limit : Nat)
    {interp : Interpreter η σ ω} (sound : interp.Sound) :
    interp.Passes ((interp.runReports host now limit).flatMap Report.moves)
      (interp.runToCompletion host now limit).2 := by
  apply runReports_traced (P := Sound) (R := Passes) (fun _ => .nothing _) Passed.trans _ limit
    sound
  intro middle sound
  obtain ⟨_, _, next, _⟩ := step_ends host now sound
  exact ⟨next, report_passed host now sound⟩

section Seals

/-- A step comes to this interpreter, and the round that follows makes the move. -/
def Makes (host : Host η σ ω) (now : Time) (interp : Interpreter η σ ω) (point : Tick.Point)
    (middle : Interpreter η σ ω) (move : Move) : Prop :=
  ∃ count before, interp.entry.rounds host now count = ⟨point, middle, before⟩ ∧
    before ++ [move] <+: (interp.tick host now).moves

/-- How a step seals the fate of a command. What its guard comes to is evaluated where the step
comes to it, and what is resumed is in flight there. -/
inductive Seals (host : Host η σ ω) (now : Time) (interp : Interpreter η σ ω) (index : Nat) :
    Fate → Prop
  | completed {middle flight value}
      (makes : interp.Makes host now .resuming middle (.resumed index (.ok (.done value))))
      (here : middle.cursor = some index) (slot : middle.inFlight = some flight)
      (answer : ((middle.setting host now).resume flight.suspension middle.scene).1 =
        .ok (.done value)) :
      Seals host now interp index (.completed value)
  | skipped {completed middle command guard value}
      (makes : interp.Makes host now (.seeking index completed) middle (.skipped index))
      (found : interp.script.get? index = some command) (guarded : command.guard = some guard)
      (evaluated : ((middle.setting host now).eval guard middle.scene).1 = .ok value)
      (falsy : value.holds = false) :
      Seals host now interp index .skipped
  | declined {middle flight}
      (makes : interp.Makes host now .resuming middle (.resumed index (.ok .declined)))
      (here : middle.cursor = some index) (slot : middle.inFlight = some flight)
      (answer : ((middle.setting host now).resume flight.suspension middle.scene).1 =
        .ok .declined) :
      Seals host now interp index .declined

variable {host : Host η σ ω} {now : Time}

variable (host now) in
theorem rounds_script (count : Nat) (tick : Tick η σ ω) :
    (tick.rounds host now count).interp.script = tick.interp.script := by
  apply Tick.rounds_preserves (P := fun later => later.interp.script = tick.interp.script) _ _ rfl
  intro middle next round same
  cases round <;> exact same

/-- A command is skipped over a guard whose value does not hold. -/
theorem guard_of_skip {setting : Setting η σ ω} {command : Command} {scene after : Scene ω}
    (unmet : setting.begin command scene = (.ok none, after)) :
    ∃ guard value, command.guard = some guard ∧ (setting.eval guard scene).1 = .ok value ∧
      value.holds = false := by
  have fails := (setting.begin_skips_iff command scene).mp (congrArg Prod.fst unmet)
  cases guarded : command.guard with
  | none =>
    rw [guarded] at fails
    cases fails
  | some guard =>
    rw [guarded, Setting.evalGuard] at fails
    split at fails
    case h_1 => cases fails
    case h_2 value _ evaluated =>
      exact ⟨guard, value, rfl, congrArg Prod.fst evaluated, Except.ok.inj fails⟩

/-- Every move of a step is made in one of its rounds. -/
theorem tick_made {interp : Interpreter η σ ω} {move : Move}
    (made : move ∈ (interp.tick host now).moves) : ∃ count,
      ((interp.entry.rounds host now count).next host now).moves =
          (interp.entry.rounds host now count).moves ++ [move] ∧
        (interp.entry.rounds host now count).moves ++ [move] <+: (interp.tick host now).moves := by
  unfold tick at made ⊢
  split at made
  case isTrue => exact absurd made List.not_mem_nil
  case isFalse unfinished =>
    obtain ⟨count, later, same, _, making⟩ := Tick.rounds_made _ made List.not_mem_nil
    refine ⟨count, making, ?_⟩
    rw [if_neg unfinished, same, ← making]
    exact Tick.rounds_moves host now later _

/-- A fate is sealed by the step that tells of it. -/
theorem report_seals {interp : Interpreter η σ ω} (sound : interp.Sound) {index : Nat} {fate : Fate}
    (sealed : (index, fate) ∈ fates (interp.report host now).moves) :
    interp.Seals host now index fate := by
  obtain ⟨move, made, fated⟩ := List.mem_filterMap.mp sealed
  obtain ⟨count, making, among⟩ := tick_made made
  have steady : (interp.entry.rounds host now count).Steady (interp.cursor.getD 0) :=
    Tick.rounds_preserves Tick.round_steady count (entry_steady sound)
  have script := rounds_script host now count interp.entry
  have round := Tick.next_round host now (interp.entry.rounds host now count)
  generalize comes : interp.entry.rounds host now count = tick at making among steady script round
  generalize tick.next host now = next at making round
  cases round with
  | exhausted | still => simp at making
  | refused | started | vacant | failed | unfinished =>
    cases List.append_cancel_left making
    cases fated
  | skipped found unmet =>
    cases List.append_cancel_left making
    cases fated
    obtain ⟨guard, value, guarded, evaluated, falsy⟩ := guard_of_skip unmet
    exact .skipped ⟨count, _, comes, among⟩ (script ▸ found) guarded evaluated falsy
  | declined slot resumed =>
    obtain ⟨_, other, _, _, here, _⟩ := steady
    cases List.append_cancel_left making
    cases fated
    rw [here, Option.getD_some] at among ⊢
    exact .declined ⟨count, _, comes, among⟩ here slot (congrArg Prod.fst resumed)
  | done slot resumed =>
    obtain ⟨_, other, _, _, here, _⟩ := steady
    cases List.append_cancel_left making
    cases fated
    rw [here, Option.getD_some] at among ⊢
    exact .completed ⟨count, _, comes, among⟩ here slot (congrArg Prod.fst resumed)

end Seals

section Session

variable (host : Host (Builtin ⊕ η) σ ω)

theorem reports_passed (action : Action η ω) {interp : Interpreter (Builtin ⊕ η) σ ω}
    (sound : interp.Sound) :
    interp.Passes ((interp.reports host action).flatMap Report.moves)
      (interp.perform host action) := by
  cases action with
  | step now =>
    simp only [reports, perform, List.flatMap_cons, List.flatMap_nil, List.append_nil]
    exact report_passed host now sound
  | runToCompletion now limit => exact runReports_passed host now limit sound
  | reset =>
    simp only [perform, resetCommands, reports, List.flatMap_nil]
    exact .nothing _
  | evaluate | register | extend | disturb => exact .nothing _

theorem history_passed (actions : List (Action η ω)) {interp : Interpreter (Builtin ⊕ η) σ ω}
    (sound : interp.Sound) :
    interp.Passes ((interp.history host actions).flatMap Report.moves)
      (interp.after host actions) := by
  apply history_traced (P := Sound) (R := Passes) (fun _ => .nothing _) Passed.trans actions _ sound
  exact fun action _ middle sound =>
    ⟨(perform_sound host action sound).1, reports_passed host action sound⟩

/-- A step with its rounds: they end as it does, and they seal the fates it tells of. -/
structure Settled (host : Host η σ ω) (interp : Interpreter η σ ω) (now : Time) : Prop where
  ends : (interp.tick host now).point = .ended (interp.step host now).1
  leaves : (interp.tick host now).interp = (interp.step host now).2
  seals : ∀ index fate, (index, fate) ∈ fates (interp.report host now).moves →
    interp.Seals host now index fate
  counted : (interp.report host now).Counted

/-- In every session exactly the commands before the cursor have a fate, each one once and in order,
whatever failed and was tried again on the way. A fate is sealed in a step that the session makes,
by the guard or the answer in that step. As many commands are completed as steps say so, apart from
steps that break down after a completion. -/
theorem session_fates (script : Script) (extra : Registry (Builtin ⊕ η)) (world : ω)
    (actions : List (Action η ω)) :
    let first : Interpreter (Builtin ⊕ η) σ ω := create script extra world
    let stops := first.stops host actions
    let history := first.history host actions
    let moves := history.flatMap Report.moves
    (fates moves).map Prod.fst = List.range ((first.after host actions).cursor.getD 0) ∧
      history = stops.map (fun stop => stop.2.report host stop.1) ∧
      (∀ stop ∈ stops, stop.2.script = script ∧ Settled host stop.2 stop.1) ∧
      completions moves =
        history.countP Report.isCompletion + history.countP Report.isBrokenOff := by
  intro first stops history moves
  have sound : first.Sound := sound_fresh _ _ _
  have origin : ∀ stop ∈ stops, stop.2.Sound ∧ stop.2.script = script := by
    apply stops_from (P := fun middle => middle.Sound ∧ middle.script = script) _ actions
      ⟨sound, rfl⟩
    rintro action middle ⟨sound, same⟩
    exact ⟨(perform_sound host action sound).1, (after_script host [action] middle).trans same⟩
  have settled : ∀ stop ∈ stops, stop.2.script = script ∧ Settled host stop.2 stop.1 := by
    rintro ⟨now, middle⟩ stop
    obtain ⟨sound, same⟩ := origin _ stop
    obtain ⟨ends, leaves⟩ := tick_step host now sound
    exact ⟨same, ends, leaves, fun _ _ => report_seals sound, report_counted host now sound⟩
  have reported : history = stops.map fun stop => stop.2.report host stop.1 :=
    history_eq host actions first
  refine ⟨history_passed host actions sound, reported, settled, completions_flatMap ?_⟩
  rw [reported]
  exact List.forall_mem_map.mpr fun stop member => (settled stop member).2.counted

end Session

end Interpreter
end TickScript
