import TickScript.Proofs.Cursor
import TickScript.Proofs.Errands

/-! A command that fails to start after a completion. The failure is not an outcome
of the step; the next step tries the command again, in the names that the failed
attempt has left. It is reported only if it happens again. -/
namespace TickScript

variable {η σ ω : Type}

namespace Setting

variable (setting : Setting η σ ω)

/-- The fault of an attempt at a command, which is a start and a resume of what is started. -/
def fault? (command : Command) (scene : Scene ω) : Option Fault :=
  match setting.begin command scene with
  | (.error fault, _) => some fault
  | (.ok none, _) => none
  | (.ok (some suspension), scene) =>
    match (setting.resume suspension scene).1 with
    | .error fault => some fault
    | .ok _ => none

theorem launch_cursor_le (rest : List Command) (index : Nat) (scene : Scene ω) :
    index ≤ (setting.launch rest index scene).cursor := by
  induction rest generalizing index scene with
  | nil => exact Nat.le_refl _
  | cons command rest ih =>
    simp only [launch]
    split
    · exact Nat.le_refl _
    · exact Nat.le_of_succ_le (ih (index + 1) _)
    · exact Nat.le_refl _

theorem complete_cursor_lt (binding : Option String) (rest : List Command) (index : Nat)
    (value : Value) (scene : Scene ω) :
    index < (setting.complete binding rest index value scene).cursor := by
  have beyond := setting.launch_cursor_le rest (index + 1)
    ((scene.note (.completed index value)).bind? binding value)
  simp only [complete]
  split <;> exact beyond

theorem settle_cursor_le (flight : InFlight σ) (rest : List Command) (index : Nat)
    (goOn : Scene ω → Landing σ ω) (beyond : ∀ scene, index < (goOn scene).cursor)
    (scene : Scene ω) : index ≤ (setting.settle flight rest index goOn scene).cursor := by
  simp only [settle]
  split
  · exact Nat.le_refl _
  · exact Nat.le_refl _
  · exact Nat.le_of_lt (setting.complete_cursor_lt ..)
  · exact Nat.le_of_lt (beyond _)

theorem advance_cursor_le (rest : List Command) (index : Nat) (scene : Scene ω) :
    index ≤ (setting.advance rest index scene).cursor := by
  induction rest generalizing index scene with
  | nil => exact Nat.le_refl _
  | cons command rest ih =>
    simp only [advance]
    split
    · exact Nat.le_refl _
    · exact Nat.le_of_succ_le (ih (index + 1) _)
    · exact setting.settle_cursor_le _ _ _ _ (fun scene => ih (index + 1) scene) _

/-- A step ends with a fault at its first command just if the attempt at that command has it. -/
theorem advance_fault (command : Command) (rest : List Command) (index : Nat) (scene : Scene ω)
    (fault : Fault) :
    (setting.advance (command :: rest) index scene).outcome = .error fault ∧
        (setting.advance (command :: rest) index scene).cursor = index ↔
      setting.fault? command scene = some fault := by
  have beyond (scene : Scene ω) : index < (setting.advance rest (index + 1) scene).cursor :=
    setting.advance_cursor_le rest (index + 1) scene
  simp only [advance, fault?]
  cases setting.begin command scene with
  | mk outcome scene =>
    cases outcome with
    | error other => simp
    | ok started =>
      cases started with
      | none => simpa using fun _ => Nat.ne_of_gt (beyond _)
      | some suspension =>
        have unseen : setting.resume suspension (scene.note (.started index command.name)) =
            ((setting.resume suspension scene).1, (setting.resume suspension scene).2.1,
              (setting.resume suspension (scene.note (.started index command.name))).2.2) := rfl
        simp only [settle]
        rw [unseen]
        cases (setting.resume suspension scene).1 with
        | error other => simp
        | ok answer =>
          cases answer with
          | unfinished => simp
          | declined => simpa using fun _ => Nat.ne_of_gt (beyond _)
          | done value => simpa using fun _ => Nat.ne_of_gt (setting.complete_cursor_lt ..)

end Setting
namespace Tick

def Unrefused (moves : List Move) : Prop := ∀ index fault, Move.refused index fault ∉ moves

theorem Unrefused.nothing : Unrefused [] := fun _ _ => List.not_mem_nil

theorem Unrefused.snoc {moves : List Move} (unrefused : Unrefused moves) {move : Move}
    (other : ∀ index fault, move ≠ .refused index fault) : Unrefused (moves ++ [move]) :=
  fun index fault member => unrefused index fault (mem_of_mem_snoc member (other index fault))

/-- An interpreter stands at a command that has failed to start, with the names of that attempt. -/
def Halted (setting : Setting η σ ω) (script : Script) (index : Nat) (fault : Fault)
    (interp : Interpreter η σ ω) : Prop :=
  interp.cursor = some index ∧ interp.inFlight = none ∧ ∃ command found,
    script.get? index = some command ∧ (setting.begin command found).1 = .error fault ∧
      interp.scene.names = (setting.begin command found).2.names

/-- A step under way has not failed to start anything, and one that is over has ended with it. -/
def Accounted (setting : Setting η σ ω) (script : Script) (tick : Tick η σ ω) : Prop :=
  tick.interp.script = script ∧ tick.interp.registry = setting.registry ∧
    match tick.point with
    | .seeking _ _ => tick.interp.inFlight = none ∧ Unrefused tick.moves
    | .resuming => Unrefused tick.moves
    | .ended _ => ∀ index fault, .refused index fault ∈ tick.moves →
        Halted setting script index fault tick.interp

variable {host : Host η σ ω} {registry : Registry η} {now : Time} {script : Script}

theorem Unrefused.halted {moves : List Move} (unrefused : Unrefused moves)
    (setting : Setting η σ ω) (interp : Interpreter η σ ω) (index : Nat) (fault : Fault)
    (member : Move.refused index fault ∈ moves) : Halted setting script index fault interp :=
  absurd member (unrefused index fault)

theorem round_accounted {tick next : Tick η σ ω} (round : Round host now tick next)
    (accounted : Accounted ⟨host, registry, now⟩ script tick) :
    Accounted ⟨host, registry, now⟩ script next := by
  obtain ⟨rfl, rfl, account⟩ := accounted
  cases round with
  | exhausted beyond => exact ⟨rfl, rfl, account.2.halted _ _⟩
  | @refused index completed interp moves command fault scene found failed =>
    obtain ⟨empty, unrefused⟩ := account
    refine ⟨rfl, rfl, ?_⟩
    intro other reason member
    rcases List.mem_append.mp member with earlier | last
    · exact absurd earlier (unrefused other reason)
    · cases List.mem_singleton.mp last
      rw [Interpreter.setting] at failed
      refine ⟨rfl, empty, command, interp.scene, found, ?_, ?_⟩
      · rw [failed]
      · rw [failed]
        exact refusal_names ..
  | skipped found unmet => exact ⟨rfl, rfl, account.1, account.2.snoc (by simp)⟩
  | @started index completed interp moves command suspension scene found begun =>
    have still : Unrefused (moves ++ [.started index]) := account.2.snoc (by simp)
    cases completed with
    | false => exact ⟨rfl, rfl, still⟩
    | true => exact ⟨rfl, rfl, still.halted _ _⟩
  | vacant | failed | unfinished => exact ⟨rfl, rfl, (account.snoc (by simp)).halted _ _⟩
  | declined | done => exact ⟨rfl, rfl, rfl, account.snoc (by simp)⟩
  | still => exact ⟨rfl, rfl, account⟩

end Tick

namespace Interpreter

variable (host : Host η σ ω) (now : Time)

theorem entry_accounted (interp : Interpreter η σ ω) :
    interp.entry.Accounted (interp.setting host now) interp.script := by
  refine ⟨rfl, rfl, ?_⟩
  cases slot : interp.inFlight with
  | none =>
    simp only [entry, slot, Option.isSome_none, Bool.false_eq_true, if_false]
    exact ⟨trivial, Tick.Unrefused.nothing⟩
  | some flight =>
    simp only [entry, slot, Option.isSome_some, if_true]
    exact Tick.Unrefused.nothing

theorem tick_accounted (interp : Interpreter η σ ω) :
    (interp.tick host now).Accounted (interp.setting host now) interp.script := by
  unfold tick
  split
  · exact ⟨rfl, rfl, Tick.Unrefused.nothing.halted _ _⟩
  · exact Tick.rounds_preserves Tick.round_accounted _ (interp.entry_accounted host now)

/-- A step in which a command fails to start ends at this command, with nothing in flight. -/
theorem step_halted {interp : Interpreter η σ ω} (sound : interp.Sound) {index : Nat}
    {fault : Fault} (refused : .refused index fault ∈ (interp.tick host now).moves) :
    Tick.Halted (interp.setting host now) interp.script index fault (interp.step host now).2 := by
  obtain ⟨ended, same⟩ := tick_step host now sound
  obtain ⟨_, _, accounted⟩ := tick_accounted host now interp
  rw [ended, same] at accounted
  exact accounted index fault refused

def Reports (fault : Fault) (interp : Interpreter η σ ω) : Prop :=
  (interp.step host now).1 = .error fault ∧ (interp.step host now).2.cursor = interp.cursor

/-- With nothing in flight a step tries the command at the cursor first. -/
theorem reports_iff {interp : Interpreter η σ ω} {index : Nat} {command : Command}
    (here : interp.cursor = some index) (empty : interp.inFlight = none)
    (found : interp.script.get? index = some command) (fault : Fault) :
    interp.Reports host now fault ↔
      (interp.setting host now).fault? command interp.scene = some fault := by
  have unfinished : interp.isFinished = false := unfinished_at here found
  simp only [Reports, step, unfinished, Bool.false_eq_true, if_false, landing, here, empty,
    Option.getD_some, Tick.drop_of_get? found, Option.some.injEq]
  exact (interp.setting host now).advance_fault command _ index interp.scene fault

theorem step_setting (interp : Interpreter η σ ω) :
    (interp.step host now).2.setting host now = interp.setting host now := by
  unfold step
  split <;> rfl

/-- Blind commands fail again where the names they ask for have the same values as before. -/
theorem fault?_of_agree {host : Host η σ ω} (blind : host.Blind) {registry : Registry η}
    {now : Time} {command : Command} {found scene : Scene ω} {fault : Fault}
    (failed : ((Setting.mk host registry now).begin command found).1 = .error fault)
    (agree : ∀ name ∈ command.reads, scene.names.get? name = found.names.get? name) :
    (Setting.mk host registry now).fault? command scene = some fault := by
  have confined : Confined (· ∈ command.reads) (fun _ => True) command.exprs :=
    .command (fun _ member => member) (fun _ _ => trivial)
  obtain ⟨outcome, s, t, left, right, _⟩ :=
    Setting.begin_alike (blind.parallel registry now _) command confined agree
  rw [right] at failed
  cases outcome with
  | error other =>
    cases failed
    simp only [Setting.fault?, left]
  | ok started => contradiction

/-- A failed start, be it one that a completing step hides, is reported by the next step just if the
second attempt fails in the same way. It does if the failed attempt has left all names as they were
that the command asks for, and so always if none of them is bound by a command nested in it. -/
theorem hidden_failure_reported {script : Script} {extra : Registry (Builtin ⊕ Empty)} {world : ω}
    {actions : List (Action Empty ω)} {now : Time} {index : Nat} {error : ScriptError}
    {interp : Interpreter (Builtin ⊕ Empty) (Builtin.Task ⊕ Empty) ω}
    (reached : interp = (create script extra world).after Host.none.withBuiltins actions)
    (refused : .refused index (.script error) ∈ (interp.tick Host.none.withBuiltins now).moves) :
    let setting := interp.setting Host.none.withBuiltins now
    let next := (interp.step Host.none.withBuiltins now).2
    next.cursor = some index ∧ next.inFlight = none ∧ ∃ command found,
      script.get? index = some command ∧
      (setting.begin command found).1 = .error (.script error) ∧
      next.scene.names = (setting.begin command found).2.names ∧
      (next.Reports Host.none.withBuiltins now (.script error) ↔
        setting.fault? command next.scene = some (.script error)) ∧
      ((∀ name ∈ command.reads, next.scene.names.get? name = found.names.get? name) →
        next.Reports Host.none.withBuiltins now (.script error)) ∧
      ((∀ name ∈ command.reads, name ∉ command.nestedBindings) →
        next.Reports Host.none.withBuiltins now (.script error)) := by
  have sound : interp.Sound := by
    rw [reached]
    exact after_sound _ actions (sound_fresh _ _ _)
  have same : interp.script = script := by
    rw [reached]
    exact after_script _ actions _
  intro setting next
  obtain ⟨here, empty, command, found, there, failed, names⟩ := step_halted _ now sound refused
  have found_next : next.script.get? index = some command := by
    rw [step_script]
    exact there
  have reports := reports_iff Host.none.withBuiltins now here empty found_next (.script error)
  rw [step_setting] at reports
  have again (agree : ∀ name ∈ command.reads,
      next.scene.names.get? name = found.names.get? name) :
      next.Reports Host.none.withBuiltins now (.script error) :=
    reports.mpr (fault?_of_agree Builtin.host_blind failed agree)
  refine ⟨here, empty, command, found, same ▸ there, failed, names, reports, again, ?_⟩
  intro apart
  apply again
  intro name asked
  rw [names]
  exact setting.begin_frame command found (apart name asked)

def misspelt (guard : Option Expr) : Script where
  commands := [
    .positional "print" [.lit (.str "hi")],
    .keyword "frobnicate"
      [.call (.keyword "eq" [.lit (.int 1), .lit (.int 2)] [] none (some "flag"))] [] guard none]

/-- Without a guard the second attempt does not ask for the name that the first one has bound. -/
theorem hidden_failure_reported_misspelt :
    let interp : Interpreter (Builtin ⊕ Empty) (Builtin.Task ⊕ Empty) Unit :=
      create (misspelt none) Table.empty ()
    (interp.step Host.none.withBuiltins 0).1 = .ok .completed ∧
      .refused 1 (.script (.resolution "frobnicate")) ∈
        (interp.tick Host.none.withBuiltins 0).moves ∧
      (interp.step Host.none.withBuiltins 0).2.Reports Host.none.withBuiltins 0
        (.script (.resolution "frobnicate")) := by
  intro interp
  have moves : (interp.tick Host.none.withBuiltins 0).moves =
      [.started 0, .resumed 0 (.ok (.done .null)),
        .refused 1 (.script (.resolution "frobnicate"))] := rfl
  have refused : .refused 1 (.script (.resolution "frobnicate")) ∈
      (interp.tick Host.none.withBuiltins 0).moves := by
    rw [moves]
    exact .tail _ (.tail _ (.head _))
  have reached : interp = (create (misspelt none) Table.empty ()).after Host.none.withBuiltins [] :=
    rfl
  obtain ⟨_, _, command, found, there, _, _, _, _, apart⟩ := hidden_failure_reported reached refused
  cases there
  exact ⟨rfl, refused, apart (by decide)⟩

/-- A guard that the first attempt makes false hides the failure for good. -/
theorem hidden_failure_swallowed :
    let interp : Interpreter (Builtin ⊕ Empty) (Builtin.Task ⊕ Empty) Unit :=
      create (misspelt (some (.name "flag"))) Table.empty ()
    (interp.step Host.none.withBuiltins 0).1 = .ok .completed ∧
      .refused 1 (.script (.resolution "frobnicate")) ∈
        (interp.tick Host.none.withBuiltins 0).moves ∧
      ((interp.step Host.none.withBuiltins 0).2.step Host.none.withBuiltins 0).1 =
        .ok .finished := by
  intro interp
  have moves : (interp.tick Host.none.withBuiltins 0).moves =
      [.started 0, .resumed 0 (.ok (.done .null)),
        .refused 1 (.script (.resolution "frobnicate"))] := rfl
  refine ⟨rfl, ?_, rfl⟩
  rw [moves]
  exact .tail _ (.tail _ (.head _))

end Interpreter
end TickScript
