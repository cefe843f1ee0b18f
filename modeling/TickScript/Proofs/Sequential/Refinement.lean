import TickScript.Proofs.Cursor
import TickScript.Proofs.Sequential.Evaluation

/-! Steps against a sequential run. The command in flight after a step has been
prepared at the end of the tick before its own, so between two steps the
interpreter is ahead of the sequential run by one prepared command: its call is due,
and the commands after it have not been touched. -/
namespace TickScript

variable {η σ ω : Type}

namespace Setting

/-- A step that seeks a command launches one and settles it in the same tick. -/
theorem advance_launch (setting : Setting η σ ω) (script : Script) (rest : List Command)
    (index : Nat) (remaining : script.commands.drop index = rest) (scene : Scene ω) :
    let launch := setting.launch rest index scene
    let following := script.commands.drop (launch.cursor + 1)
    setting.advance rest index scene =
      match launch.outcome with
      | .error fault => ⟨.error fault, launch.cursor, none, launch.scene⟩
      | .ok none => ⟨.ok .finished, launch.cursor, none, launch.scene⟩
      | .ok (some flight) => setting.settle flight following launch.cursor
          (setting.advance following (launch.cursor + 1)) launch.scene := by
  induction rest generalizing index scene with
  | nil => rfl
  | cons command rest ih =>
    obtain ⟨_, following⟩ := Tick.get?_of_drop_cons remaining
    simp only [launch, advance]
    cases setting.begin command scene with
    | mk outcome scene =>
      cases outcome with
      | error fault => rfl
      | ok started =>
        cases started with
        | none => exact ih (index + 1) following _
        | some suspension => simp only [following]

end Setting

namespace Interpreter

def steps (host : Host η σ ω) : List Time → Interpreter η σ ω →
    List (Except Fault StepResult) × Interpreter η σ ω
  | [], interp => ([], interp)
  | now :: rest, interp =>
    let (outcome, next) := interp.step host now
    let (outcomes, last) := steps host rest next
    (outcome :: outcomes, last)

end Interpreter

namespace Sequential

section Ready

variable (host : Host η σ ω) (functions : η → Invocation → Except ScriptError Value)
  (noted : η → Invocation → ω → ω) (world : ω) (script : Script) (registry : Registry η)
  (last : Trail η)

/-- Where a launch stands in a sequential run, with the number of completions that are ahead: after
the last command, or at a started one whose call is due. -/
inductive Ready : Nat → Nat → Option (InFlight σ) → Scene ω → Prop
  | ended {scene} (shows : Shows noted world last scene) : Ready 0 script.size none scene
  | started {completions index flight scene trail middle value}
      (inside : index < script.size) (shows : Shows noted world trail scene)
      (due : Due host noted world flight trail middle value)
      (rest : run functions registry (script.commands.drop (index + 1)) middle =
        .ok (completions, last)) :
      Ready (completions + 1) index (some flight) scene

/-- An interpreter between two steps, with so many completions ahead. -/
structure Stands (completions : Nat) (interp : Interpreter η σ ω) : Prop where
  sameScript : interp.script = script
  sameRegistry : interp.registry = registry
  ready : ∃ index, interp.cursor = some index ∧
    Ready host functions noted world script registry last completions index interp.inFlight
      interp.scene

end Ready

variable {host : Host η σ ω} {functions : η → Invocation → Except ScriptError Value}
  {noted : η → Invocation → ω → ω} {world : ω} {script : Script} {registry : Registry η}
  {last : Trail η}

/-- A launch over what remains of a sequential run does not fail. -/
theorem launch_ready (immediate : AllImmediate host registry functions noted) (now : Time)
    (rest : List Command) (index completions : Nat)
    (remaining : script.commands.drop index = rest) (inside : index ≤ script.size)
    {trail : Trail η} {scene : Scene ω} (shows : Shows noted world trail scene)
    (ran : run functions registry rest trail = .ok (completions, last)) :
    let launch := (Setting.mk host registry now).launch rest index scene
    ∃ inFlight, launch.outcome = .ok inFlight ∧
      Ready host functions noted world script registry last completions launch.cursor inFlight
        launch.scene := by
  induction rest generalizing index scene trail with
  | nil =>
    obtain ⟨rfl, rfl⟩ := pure_ok ran
    have whole : script.size ≤ index := List.drop_eq_nil_iff.mp remaining
    obtain rfl : index = script.size := Nat.le_antisymm inside whole
    exact ⟨none, rfl, .ended (shows.note _)⟩
  | cons command rest ih =>
    obtain ⟨found, following⟩ := Tick.get?_of_drop_cons remaining
    have here : index < script.size := (List.getElem?_eq_some_iff.mp found).1
    simp only [run] at ran
    obtain ⟨result, middle, performed, ran⟩ := bind_ok ran
    obtain ⟨counted, final, counting, counts⟩ := bind_ok ran
    obtain ⟨rfl, rfl⟩ := pure_ok counts
    simp only [Setting.launch]
    cases result with
    | none =>
      obtain ⟨left, skipped, showing⟩ := begin_skipped now immediate shows performed
      simp only [skipped]
      exact ih (index + 1) following here (showing.note _) counting
    | some value =>
      obtain ⟨suspension, prior, ⟨left, started, showing⟩, due⟩ :=
        begin_started now immediate shows performed
      simp only [started]
      subst following
      exact ⟨_, rfl, .started here (showing.note _) due counting⟩

/-- The tick of a prepared command completes it and prepares the next one. -/
theorem settle_ready (immediate : AllImmediate host registry functions noted) (now : Time)
    {index completions : Nat} {flight : InFlight σ} {scene : Scene ω}
    (ready : Ready host functions noted world script registry last (completions + 1) index
      (some flight) scene) (goOn : Scene ω → Landing σ ω) :
    let landing := (Setting.mk host registry now).settle flight
      (script.commands.drop (index + 1)) index goOn scene
    landing.outcome = .ok .completed ∧
      Ready host functions noted world script registry last completions landing.cursor
        landing.inFlight landing.scene := by
  cases ready with
  | @started _ _ _ _ _ _ value inside shows due rest =>
    obtain ⟨_, left, resumed, showing⟩ := due registry now scene shows
    obtain ⟨inFlight, launched, ready⟩ := launch_ready immediate now _ (index + 1) completions rfl
      inside (showing.bind?_note (.completed index value)) rest
    simp only [Setting.settle, resumed, Setting.complete, launched]
    exact ⟨trivial, ready⟩

/-- A first tick prepares a command and completes it, and then prepares the next one. -/
theorem advance_ready (immediate : AllImmediate host registry functions noted) (now : Time)
    (rest : List Command) (index completions : Nat)
    (remaining : script.commands.drop index = rest) (inside : index ≤ script.size)
    {trail : Trail η} {scene : Scene ω} (shows : Shows noted world trail scene)
    (ran : run functions registry rest trail = .ok (completions, last)) :
    let landing := (Setting.mk host registry now).advance rest index scene
    landing.outcome = .ok (if completions = 0 then .finished else .completed) ∧
      Ready host functions noted world script registry last (completions - 1) landing.cursor
        landing.inFlight landing.scene := by
  obtain ⟨inFlight, launched, ready⟩ :=
    launch_ready immediate now rest index completions remaining inside shows ran
  rw [Setting.advance_launch _ script rest index remaining scene]
  generalize (Setting.mk host registry now).launch rest index scene = launch at launched ready ⊢
  obtain ⟨outcome, cursor, scene⟩ := launch
  subst launched
  cases inFlight with
  | none =>
    cases ready with
    | ended shows => exact ⟨rfl, .ended shows⟩
  | some flight =>
    cases completions with
    | zero => cases ready
    | succ completions => exact settle_ready immediate now ready _

theorem stands_of_landing {now : Time} {interp : Interpreter η σ ω} {completions : Nat}
    {result : StepResult} (sameScript : interp.script = script)
    (sameRegistry : interp.registry = registry) (unfinished : interp.isFinished = false)
    (outcome : (interp.landing host now).outcome = .ok result)
    (ready : Ready host functions noted world script registry last completions
      (interp.landing host now).cursor (interp.landing host now).inFlight
      (interp.landing host now).scene) :
    (interp.step host now).1 = .ok result ∧
      Stands host functions noted world script registry last completions
        (interp.step host now).2 := by
  simp only [Interpreter.step, unfinished, Bool.false_eq_true, if_false]
  exact ⟨outcome, sameScript, sameRegistry, _, rfl, ready⟩

theorem Stands.isFinished {completions : Nat} {interp : Interpreter η σ ω}
    (stands : Stands host functions noted world script registry last completions interp) :
    interp.isFinished = decide (completions = 0) := by
  obtain ⟨rfl, _, index, here, ready⟩ := stands
  simp only [Interpreter.isFinished, here, Option.any_some]
  generalize interp.inFlight = slot at ready
  cases ready with
  | ended => simp
  | started inside => simpa using inside

theorem Stands.step (immediate : AllImmediate host registry functions noted) (now : Time)
    {completions : Nat} {interp : Interpreter η σ ω}
    (stands : Stands host functions noted world script registry last (completions + 1) interp) :
    (interp.step host now).1 = .ok .completed ∧
      Stands host functions noted world script registry last completions
        (interp.step host now).2 := by
  have unfinished := stands.isFinished
  obtain ⟨rfl, rfl, index, here, ready⟩ := stands
  cases slot : interp.inFlight with
  | none =>
    rw [slot] at ready
    cases ready
  | some flight =>
    rw [slot] at ready
    obtain ⟨outcome, ready⟩ := settle_ready immediate now ready
      ((interp.setting host now).advance (interp.script.commands.drop (index + 1)) (index + 1))
    refine stands_of_landing rfl rfl (by simpa using unfinished) ?_ ?_
    all_goals simp only [Interpreter.landing, slot, here, Option.getD_some]
    · exact outcome
    · exact ready

/-- The first step launches the first command and runs its tick at once. A script without
completions is finished by it. -/
theorem step_fresh (world : ω) (immediate : AllImmediate host registry functions noted)
    (now : Time) {completions : Nat}
    (ran : run functions registry script.commands { names := .initial } = .ok (completions, last)) :
    let interp : Interpreter η σ ω := .fresh script registry world
    (interp.step host now).1 = .ok (if completions = 0 then .finished else .completed) ∧
      Stands host functions noted world script registry last (completions - 1)
        (interp.step host now).2 := by
  intro interp
  have shows : Shows noted world { names := .initial } interp.scene := ⟨rfl, rfl⟩
  obtain ⟨outcome, ready⟩ := advance_ready immediate now script.commands 0 completions rfl
    (Nat.zero_le _) shows ran
  exact stands_of_landing rfl rfl rfl outcome ready

theorem Stands.finished {interp : Interpreter η σ ω}
    (stands : Stands host functions noted world script registry last 0 interp) (now : Time) :
    interp.step host now = (.ok .finished, interp) := by
  have finished := stands.isFinished
  simp only [decide_true] at finished
  simp only [Interpreter.step, finished, if_true]

theorem Stands.ended {interp : Interpreter η σ ω}
    (stands : Stands host functions noted world script registry last 0 interp) :
    interp.scene.names = last.names ∧ interp.scene.world = replay noted world last.calls ∧
      interp.inFlight = none := by
  obtain ⟨_, _, index, _, ready⟩ := stands
  generalize interp.inFlight = slot at ready ⊢
  cases ready with
  | ended shows => exact ⟨shows.names, shows.world, rfl⟩

def outcomes (steps completions : Nat) : List (Except Fault StepResult) :=
  List.replicate (min steps completions) (.ok .completed) ++
    List.replicate (steps - completions) (.ok .finished)

theorem outcomes_zero (steps : Nat) : outcomes steps 0 = List.replicate steps (.ok .finished) := by
  simp only [outcomes, Nat.min_zero, List.replicate_zero, List.nil_append, Nat.sub_zero]

theorem outcomes_succ (steps completions : Nat) :
    outcomes (steps + 1) (completions + 1) = .ok .completed :: outcomes steps completions := by
  have fewer : min (steps + 1) (completions + 1) = min steps completions + 1 := by omega
  simp only [outcomes, fewer, List.replicate_succ, List.cons_append, Nat.add_sub_add_right]

/-- Each step takes one completion off those that are ahead, as long as there are some. -/
theorem Stands.steps (immediate : AllImmediate host registry functions noted)
    (times : List Time) {completions : Nat} {interp : Interpreter η σ ω}
    (stands : Stands host functions noted world script registry last completions interp) :
    (interp.steps host times).1 = outcomes times.length completions ∧
      Stands host functions noted world script registry last (completions - times.length)
        (interp.steps host times).2 := by
  induction times generalizing completions interp with
  | nil => exact ⟨by simp [Interpreter.steps, outcomes], stands⟩
  | cons now rest ih =>
    simp only [Interpreter.steps, List.length_cons]
    cases completions with
    | zero =>
      obtain ⟨following, standing⟩ := ih stands
      rw [Nat.zero_sub] at standing ⊢
      rw [stands.finished now, following, outcomes_zero, outcomes_zero]
      exact ⟨rfl, standing⟩
    | succ completions =>
      obtain ⟨completed, standing⟩ := stands.step immediate now
      obtain ⟨following, standing⟩ := ih standing
      rw [completed, following, outcomes_succ, Nat.add_sub_add_right]
      exact ⟨rfl, standing⟩

end Sequential

namespace Interpreter

open TickScript.Sequential

/-- Steps carry out a script as a sequential run does, whenever each of them is made. A run with
completions takes a step for each of them and is finished right after the last; one without any is
finished by its first step. In the end the names are bound as in the sequential run, the functions
have been called with the same invocations in the same order, and steps change nothing more. -/
theorem steps_refine_run {η σ ω : Type} {host : Host η σ ω} {registry : Registry η}
    {functions : η → Invocation → Except ScriptError Value} {noted : η → Invocation → ω → ω}
    {script : Script} {completions : Nat} {last : Trail η}
    (immediate : AllImmediate host registry functions noted)
    (ran : run functions registry script.commands { names := .initial } = .ok (completions, last))
    (world : ω) (times : List Time) :
    let (outcomes, interp) := steps host times (fresh script registry world)
    outcomes = List.replicate (min times.length completions) (.ok .completed) ++
        List.replicate (times.length - completions) (.ok .finished) ∧
      interp.isFinished = decide (max completions 1 ≤ times.length) ∧
      (interp.isFinished = true →
        interp.scene.names = last.names ∧ interp.scene.world = replay noted world last.calls ∧
          interp.inFlight = none ∧ ∀ now, interp.step host now = (.ok .finished, interp)) := by
  cases times with
  | nil =>
    have begins : (fresh script registry world : Interpreter η σ ω).isFinished = false := rfl
    have early : decide (max completions 1 ≤ 0) = false := decide_eq_false (by omega)
    simp only [steps, List.length_nil, Nat.zero_min, Nat.zero_sub, List.replicate_zero,
      List.append_nil, begins, early, Bool.false_eq_true, false_implies, and_self]
  | cons now rest =>
    obtain ⟨first, standing⟩ := step_fresh world immediate now ran
    obtain ⟨following, standing⟩ := standing.steps immediate rest
    simp only [steps, List.length_cons]
    refine ⟨?_, ?_, ?_⟩
    · change _ = Sequential.outcomes (rest.length + 1) completions
      rw [first, following]
      cases completions with
      | zero => rw [outcomes_zero, outcomes_zero]; rfl
      | succ completions => exact (outcomes_succ rest.length completions).symm
    · rw [standing.isFinished]
      exact decide_eq_decide.mpr (by omega)
    · intro finished
      have none_ahead : completions - 1 - rest.length = 0 := by
        rw [standing.isFinished] at finished
        exact of_decide_eq_true finished
      rw [none_ahead] at standing
      obtain ⟨names, worlds, empty⟩ := standing.ended
      exact ⟨names, worlds, empty, fun now => standing.finished now⟩

def echo (_ : Unit) (invocation : Invocation) : Except ScriptError Value :=
  .ok (invocation.args.headD .null)

def echoes : Script where
  commands := [
    .keyword "echo" [.lit (.bool false)] [] none (some "quiet"),
    .keyword "echo" [] [] (some (.name "quiet")) none,
    .positional "echo" [.call (.keyword "echo" [.name "true"] [] none (some "loud"))]]

def echoed : Trail Unit where
  names := (Namespace.initial.insert "quiet" (.bool false)).insert "loud" (.bool true)
  calls := [((), { name := "echo", args := [.bool false] }),
    ((), { name := "echo", args := [.bool true] }), ((), { name := "echo", args := [.bool true] })]

/-- Two of the three commands are completed, and the third step has nothing left to do. -/
theorem steps_refine_run_echoes :
    let (outcomes, interp) :=
      steps (Host.recorder echo) [0, 3, 5] (fresh echoes (Table.ofList [("echo", ())]) [])
    outcomes = [.ok .completed, .ok .completed, .ok .finished] ∧
      interp.isFinished = true ∧ interp.scene.names = echoed.names ∧
      interp.scene.world = echoed.calls := by
  have immediate : AllImmediate (Host.recorder echo) (Table.ofList [("echo", ())]) echo
      (fun handler invocation world => world ++ [(handler, invocation)]) :=
    fun _ handler _ => Host.recorder_isImmediate echo handler
  have ran : run echo (Table.ofList [("echo", ())]) echoes.commands { names := .initial } =
      .ok (2, echoed) := rfl
  obtain ⟨outcomes, finished, ended⟩ := steps_refine_run immediate ran [] [0, 3, 5]
  obtain ⟨names, world, _⟩ := ended finished
  exact ⟨outcomes, finished, names, world⟩

end Interpreter
end TickScript
