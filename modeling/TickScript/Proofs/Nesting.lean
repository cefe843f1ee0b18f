import TickScript.Builtin.Host
import TickScript.Probe
import TickScript.Proofs.Errands

/-! A command within an expression and the same command in a script of its own. Both
are begun alike and resumed once; what they make of the answer is compared here. They
fail alike, and they differ only where a command declines: a nested one then still
binds its name. -/
namespace TickScript

variable {η σ ω : Type}

namespace Setting

variable (setting : Setting η σ ω)

/-- What becomes of a command that is begun and resumed once: its answer, unless its guard does not
hold. -/
def attempt (command : Command) (scene : Scene ω) : Except Fault (Option Resume) × Scene ω :=
  match setting.begin command scene with
  | (.error fault, scene) => (.error fault, scene)
  | (.ok none, scene) => (.ok none, scene)
  | (.ok (some suspension), scene) =>
    let (outcome, _, scene) := setting.resume suspension scene
    (outcome.map some, scene)

/-- An attempt binds nothing but what is bound within the guard and the arguments. -/
theorem attempt_frame (command : Command) (scene : Scene ω) {name : String}
    (unbound : name ∉ command.nestedBindings) :
    (setting.attempt command scene).2.names.get? name = scene.names.get? name := by
  have frame := setting.begin_frame command scene unbound
  unfold attempt
  generalize setting.begin command scene = begun at frame
  obtain ⟨outcome, middle⟩ := begun
  cases outcome with
  | error fault => exact frame
  | ok started =>
    cases started with
    | none => exact frame
    | some suspension => exact frame

def nestedEnd (command : Command) : Except Fault (Option Resume) × Scene ω →
    Except Fault Value × Scene ω
  | (.error fault, scene) => (.error fault, scene)
  | (.ok none, scene) => (.ok .null, scene)
  | (.ok (some .unfinished), scene) => (.error (.script (notWithinTick command.name)), scene)
  | (.ok (some .declined), scene) => (.ok .null, scene.bind? command.binding .null)
  | (.ok (some (.done value)), scene) => (.ok value, scene.bind? command.binding value)

theorem eval_call (command : Command) (scene : Scene ω) :
    setting.eval (.call command) scene = nestedEnd command (setting.attempt command scene) := by
  simp only [eval, attempt, begin]
  generalize setting.enter (setting.prepare command scene) = begun
  obtain ⟨outcome, middle⟩ := begun
  cases outcome with
  | error fault => rfl
  | ok started =>
    cases started with
    | none => rfl
    | some suspension =>
      simp only [finishNested]
      generalize setting.resume suspension middle = resumed
      obtain ⟨outcome, left, last⟩ := resumed
      cases outcome with
      | error fault => rfl
      | ok answer => cases answer <;> rfl

def topLevelEnd (command : Command) : Except Fault (Option Resume) × Scene ω →
    Except Fault StepResult × Namespace
  | (.error fault, scene) => (.error fault, scene.names)
  | (.ok none, scene) => (.ok .finished, scene.names)
  | (.ok (some .unfinished), scene) => (.ok .stillRunning, scene.names)
  | (.ok (some .declined), scene) => (.ok .finished, scene.names)
  | (.ok (some (.done value)), scene) => (.ok .completed, (scene.bind? command.binding value).names)

theorem advance_last (command : Command) (index : Nat) (scene : Scene ω) :
    ((setting.advance [command] index scene).outcome,
        (setting.advance [command] index scene).scene.names) =
      topLevelEnd command (setting.attempt command scene) := by
  simp only [advance, attempt]
  generalize setting.begin command scene = begun
  obtain ⟨outcome, middle⟩ := begun
  cases outcome with
  | error fault => rfl
  | ok started =>
    cases started with
    | none => rfl
    | some suspension =>
      obtain ⟨noted, resumed, names⟩ :=
        setting.resume_note suspension middle (.started index command.name)
      have same : (setting.resume suspension middle).2.2.names = middle.names := rfl
      simp only [settle, resumed]
      generalize setting.resume suspension middle = answered at same
      obtain ⟨outcome, left, last⟩ := answered
      have both : noted.names = last.names := names.trans same.symm
      cases outcome with
      | error fault => exact congrArg _ both
      | ok answer =>
        cases answer with
        | unfinished | declined => exact congrArg _ both
        | done value =>
          simp only [complete, launch, topLevelEnd, Except.map]
          cases command.binding with
          | none => exact congrArg _ both
          | some name => exact congrArg (fun names => (_, names.insert name value)) both

end Setting

namespace Interpreter

variable (host : Host η σ ω) (now : Time)

/-- A step of a script that consists of one command makes an attempt at it. -/
theorem step_alone {command : Command} {interp : Interpreter η σ ω}
    (alone : interp.script.commands = [command]) (idle : interp.inFlight = none)
    (first : interp.cursor.getD 0 = 0) :
    ((interp.step host now).1, (interp.step host now).2.scene.names) =
      Setting.topLevelEnd command ((interp.setting host now).attempt command interp.scene) := by
  have unfinished : interp.isFinished = false := by
    cases here : interp.cursor with
    | none => simp only [isFinished, here, Option.any_none]
    | some index =>
      rw [here] at first
      simp only [Option.getD_some] at first
      simp [isFinished, here, first, Script.size, alone]
  simp only [step, unfinished, Bool.false_eq_true, if_false, landing, idle, first, alone,
    List.drop_zero]
  exact Setting.advance_last _ command 0 interp.scene

/-- A command that needs no second tick comes to the same end within an expression as in a script of
its own: if either fails, both fail with the same fault. They leave the same names, with one
exception: a command that declines binds null to its name within an expression, and nothing at the
top level. Apart from that only a command that is done binds its name. -/
theorem nested_and_alone {command : Command} {interp : Interpreter η σ ω}
    (alone : interp.script.commands = [command]) (idle : interp.inFlight = none)
    (first : interp.cursor.getD 0 = 0)
    (prompt : ((interp.setting host now).attempt command interp.scene).1 ≠ .ok (some .unfinished)) :
    let (answer, left) := (interp.setting host now).attempt command interp.scene
    let nested := interp.evaluate host now (.call command)
    let top := interp.step host now
    (∀ fault, nested.1 = .error fault ↔ top.1 = .error fault) ∧
      (∀ name ∉ command.nestedBindings,
        left.names.get? name = interp.scene.names.get? name) ∧
      match answer with
      | .ok (some (.done value)) =>
        nested.2.scene.names = (left.bind? command.binding value).names ∧
          top.2.scene.names = (left.bind? command.binding value).names
      | .ok (some .declined) =>
        nested.2.scene.names = (left.bind? command.binding .null).names ∧
          top.2.scene.names = left.names
      | _ => nested.2.scene.names = left.names ∧ top.2.scene.names = left.names := by
  have frame (name : String) (unbound : name ∉ command.nestedBindings) :=
    (interp.setting host now).attempt_frame command interp.scene unbound
  have stepped := interp.step_alone host now alone idle first
  simp only [evaluate, Setting.eval_call]
  generalize (interp.setting host now).attempt command interp.scene = attempt
    at prompt frame stepped ⊢
  obtain ⟨answer, left⟩ := attempt
  obtain ⟨outcome, names⟩ := Prod.mk.inj stepped
  simp only [outcome, names]
  cases answer with
  | error fault => exact ⟨fun _ => by simp [Setting.nestedEnd], frame, rfl, rfl⟩
  | ok met =>
    cases met with
    | none => exact ⟨fun _ => by simp [Setting.nestedEnd], frame, rfl, rfl⟩
    | some resumed =>
      cases resumed with
      | unfinished => exact absurd rfl prompt
      | declined => exact ⟨fun _ => by simp [Setting.nestedEnd], frame, rfl, rfl⟩
      | done value => exact ⟨fun _ => by simp [Setting.nestedEnd], frame, rfl, rfl⟩

def declining : Command := .keyword "declines" [.name "true"] [] none (some "x")

def declines : Interpreter (Builtin ⊕ Probe) (Builtin.Task ⊕ Probe.Task) Probe.World :=
  create ⟨[declining]⟩ (Table.ofList [("declines", .inr (.declinesAfter 0))]) {}

theorem nested_and_alone_declining :
    let nested := declines.evaluate Probe.host.withBuiltins 0 (.call declining)
    let top := declines.step Probe.host.withBuiltins 0
    (∀ fault, nested.1 = .error fault ↔ top.1 = .error fault) ∧
      nested.2.scene.names = Namespace.initial.insert "x" .null ∧
      top.2.scene.names = .initial := by
  have prompt : ((declines.setting Probe.host.withBuiltins 0).attempt declining
      declines.scene).1 ≠ .ok (some .unfinished) := nofun
  have alone : declines.script.commands = [declining] := rfl
  obtain ⟨faults, _, names⟩ := nested_and_alone Probe.host.withBuiltins 0 alone rfl rfl prompt
  exact ⟨faults, names⟩

/-- The two ends of a command differ where it declines. -/
theorem declined_binding_differs :
    let nested := declines.evaluate Probe.host.withBuiltins 0 (.call declining)
    let top := declines.step Probe.host.withBuiltins 0
    ((declines.setting Probe.host.withBuiltins 0).attempt declining declines.scene).1 =
        .ok (some .declined) ∧
      nested.2.scene.names.get? "x" = some .null ∧ top.2.scene.names.get? "x" = none :=
  ⟨rfl, rfl, rfl⟩

end Interpreter

end TickScript
