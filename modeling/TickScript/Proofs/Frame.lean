import TickScript.Proofs.Errands
import TickScript.Proofs.Sweep

/-! What steps leave alone in the namespace. Names are only ever added or bound again, and in
a step no name is bound but that of the command it completes and those of commands nested in
the ones it tries to start. -/
namespace TickScript

variable {η σ ω : Type}

/-- The names that moves may bind: the name of a command that is completed, and those of commands
nested in one that is tried. -/
inductive Touches (script : Script) (moves : List Move) (name : String) : Prop
  | completed {index value command} (done : .resumed index (.ok (.done value)) ∈ moves)
      (found : script.get? index = some command) (binding : command.binding = some name)
  | tried {index command} (tried : index ∈ tries moves) (found : script.get? index = some command)
      (nested : name ∈ command.nestedBindings)

namespace Touches

variable {script : Script} {moves : List Move} {name : String}

theorem append (touches : Touches script moves name) (others : List Move) :
    Touches script (moves ++ others) name := by
  cases touches with
  | completed done found binding => exact .completed (List.mem_append_left _ done) found binding
  | tried tried found nested =>
    refine .tried ?_ found nested
    rw [tries, List.filterMap_append]
    exact List.mem_append_left _ tried

theorem snoc {index : Nat} {command : Command} {move : Move} (tried : move.tried? = some index)
    (found : script.get? index = some command) (nested : name ∈ command.nestedBindings) :
    Touches script (moves ++ [move]) name := by
  refine .tried ?_ found nested
  rw [tries, List.filterMap_append]
  exact List.mem_append_right _ (List.mem_filterMap.mpr ⟨move, List.mem_singleton_self _, tried⟩)

end Touches

namespace Tick

def Confines (script : Script) (names : Namespace) (tick : Tick η σ ω) : Prop :=
  tick.interp.script = script ∧ names.Extends (Touches script tick.moves) tick.interp.scene.names

variable {host : Host η σ ω} {now : Time} {start : Nat}

theorem round_confines {script : Script} {names : Namespace} {tick next : Tick η σ ω}
    (round : Round host now tick next) (steady : tick.Steady start)
    (confines : tick.Confines script names) : next.Confines script names := by
  obtain ⟨rfl, extended⟩ := confines
  have further (others : List Move) : names.Extends
      (Touches tick.interp.script (tick.moves ++ others)) tick.interp.scene.names :=
    extended.mono fun _ touches => touches.append others
  have attempted {index : Nat} {command : Command} (move : Move) (tried : move.tried? = some index)
      (found : tick.interp.script.get? index = some command) :
      names.Extends (Touches tick.interp.script (tick.moves ++ [move]))
        ((tick.interp.setting host now).begin command tick.interp.scene).2.names :=
    (further [move]).trans (((tick.interp.setting host now).begin_extends command _).mono
      fun _ nested => .snoc tried found nested)
  cases round with
  | exhausted | still => exact ⟨rfl, extended⟩
  | @refused index completed interp moves command fault scene found failed =>
    have left := attempted (.refused index fault) rfl found
    rw [failed] at left
    refine ⟨rfl, ?_⟩
    rw [refusal_names]
    exact left
  | @skipped index completed interp moves command scene found unmet =>
    have left := attempted (.skipped index) rfl found
    rw [unmet] at left
    exact ⟨rfl, left⟩
  | @started index completed interp moves command suspension scene found begun =>
    have left := attempted (.started index) rfl found
    rw [begun] at left
    exact ⟨rfl, left⟩
  | vacant => exact ⟨rfl, further _⟩
  | failed slot resumed | unfinished slot resumed | declined slot resumed =>
    have same := congrArg (fun result => result.2.2.names) resumed
    exact ⟨rfl, same ▸ further _⟩
  | @done interp moves flight value suspension scene slot resumed =>
    have same : interp.scene.names = scene.names :=
      congrArg (fun result => result.2.2.names) resumed
    let moved := moves ++ [.resumed (interp.cursor.getD 0) (.ok (.done value))]
    have left : names.Extends (Touches interp.script moved) scene.names := same ▸ further _
    refine ⟨rfl, ?_⟩
    cases binding : flight.binding with
    | none => exact left
    | some name =>
      obtain ⟨_, _, sound, _⟩ := steady
      obtain ⟨index, command, here, found, bound⟩ := sound.aligned flight slot
      have at_cursor : interp.script.get? (interp.cursor.getD 0) = some command :=
        (congrArg (fun cursor => interp.script.get? (cursor.getD 0)) here).trans found
      have completed : Touches interp.script moved name :=
        .completed (List.mem_append_right _ (List.mem_singleton_self _)) at_cursor
          (bound.symm.trans binding)
      exact left.trans (.insert completed scene.names value)

end Tick

namespace Interpreter

variable (host : Host η σ ω) (now : Time)

/-- A step, whatever its outcome, binds nothing but what its moves may bind. -/
theorem step_extends {interp : Interpreter η σ ω} (sound : interp.Sound) :
    interp.scene.names.Extends (Touches interp.script (interp.tick host now).moves)
      (interp.step host now).2.scene.names := by
  have confines : (interp.tick host now).Confines interp.script interp.scene.names :=
    tick_induction host now sound ⟨rfl, .refl _⟩ ⟨rfl, .refl _⟩ Tick.round_confines
  obtain ⟨_, same⟩ := tick_step host now sound
  rw [Tick.Confines, same] at confines
  exact confines.2

section Session

variable (host : Host (Builtin ⊕ η) σ ω)

/-- Nothing that a host does removes a name. -/
theorem perform_extends (action : Action η ω) {interp : Interpreter (Builtin ⊕ η) σ ω}
    (sound : interp.Sound) :
    interp.scene.names.Extends (fun _ => True) (interp.perform host action).scene.names := by
  have stepped (now : Time) (later : Interpreter (Builtin ⊕ η) σ ω)
      (kept : later.Sound ∧ interp.scene.names.Extends (fun _ => True) later.scene.names) :
      (later.step host now).2.Sound ∧
        interp.scene.names.Extends (fun _ => True) (later.step host now).2.scene.names := by
    obtain ⟨sound, extended⟩ := kept
    obtain ⟨_, _, next, _⟩ := step_ends host now sound
    exact ⟨next, extended.trans ((step_extends host now sound).mono fun _ _ => trivial)⟩
  cases action with
  | step now => exact (stepped now interp ⟨sound, .refl _⟩).2
  | runToCompletion now limit =>
    exact (runToCompletion_preserves (stepped now) limit ⟨sound, .refl _⟩).2
  | evaluate now expr =>
    exact ((interp.setting host now).eval_extends expr interp.scene).mono fun _ _ => trivial
  | register | extend | reset | disturb => exact .refl _

theorem after_extends (actions : List (Action η ω)) {interp : Interpreter (Builtin ⊕ η) σ ω}
    (sound : interp.Sound) :
    interp.scene.names.Extends (fun _ => True) (interp.after host actions).scene.names := by
  have kept : (interp.after host actions).Sound ∧
      interp.scene.names.Extends (fun _ => True) (interp.after host actions).scene.names := by
    apply after_preserves (P := fun later => later.Sound ∧
      interp.scene.names.Extends (fun _ => True) later.scene.names) _ actions ⟨sound, .refl _⟩
    rintro action later ⟨sound, extended⟩
    exact ⟨(perform_sound host action sound).1, extended.trans (perform_extends host action sound)⟩
  exact kept.2

/-- In every session, evaluation binds none but the names of the commands within an expression, with
or without success, the start of a command none but those of commands nested in it, and a step none
but that of the command it completes and those nested in the commands it tries. No name is removed
by anything the host does, so the two that are bound at first are bound always. -/
theorem session_frame (script : Script) (extra : Registry (Builtin ⊕ η)) (world : ω)
    (actions : List (Action η ω)) :
    let interp := (create script extra world).after host actions
    (∀ (setting : Setting (Builtin ⊕ η) σ ω) expr (scene : Scene ω),
      scene.names.Extends (· ∈ expr.bindings) (setting.eval expr scene).2.names) ∧
    (∀ (setting : Setting (Builtin ⊕ η) σ ω) command (scene : Scene ω),
      scene.names.Extends (· ∈ command.nestedBindings) (setting.begin command scene).2.names) ∧
    (∀ now, interp.scene.names.Extends (Touches script (interp.tick host now).moves)
      (interp.step host now).2.scene.names) ∧
    (∀ action,
      interp.scene.names.Extends (fun _ => True) (interp.perform host action).scene.names) ∧
    interp.scene.names.contains "true" = true ∧ interp.scene.names.contains "false" = true := by
  intro interp
  have sound : interp.Sound := after_sound host actions (sound_fresh _ _ _)
  have same : interp.script = script := after_script host actions _
  refine ⟨fun setting => setting.eval_extends, fun setting => setting.begin_extends, ?_, ?_, ?_⟩
  · intro now
    exact same ▸ step_extends host now sound
  · intro action
    exact perform_extends host action sound
  · have extended := after_extends host actions
      (sound_fresh script (Registry.builtins.merge extra) world)
    exact ⟨extended.kept "true" rfl, extended.kept "false" rfl⟩

end Session

end Interpreter
end TickScript
