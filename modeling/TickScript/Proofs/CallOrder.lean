import TickScript.Proofs.Recording
import TickScript.Proofs.Sequential.Evaluation
import TickScript.Proofs.Siblings

/-! The calls that an evaluation makes and their order. The rules below list them without
starts and resumes: the calls of the guard, then of the arguments from left to right, then of
the named arguments, then the one call of the command itself. An evaluation that fails has
made the calls up to the failing point, which are the first ones of every evaluation that
gets past it. -/
namespace TickScript

variable {η σ ω : Type}

/-- What names, command names and calls come to. A call may change the world. -/
structure Answers (η ω : Type) where
  name : Namespace → String → Except ScriptError Value
  handler : String → Except ScriptError η
  call : η → Invocation → ω → Except ScriptError Value × ω

namespace Answers

mutual

/-- An expression has a value after these calls. -/
inductive Evaluates (answers : Answers η ω) :
    Scene ω → Expr → List (η × Invocation) → Value → Scene ω → Prop
  | lit {scene value} : Evaluates answers scene (.lit value) [] value scene
  | name {scene text value} (resolved : answers.name scene.names text = .ok value) :
      Evaluates answers scene (.name text) [] value scene
  | skipped {scene command calls left}
      (prepared : Prepares answers scene command calls none left) :
      Evaluates answers scene (.call command) calls .null left
  | called {scene command calls invocation ready handler value world}
      (prepared : Prepares answers scene command calls (some invocation) ready)
      (known : answers.handler command.name = .ok handler)
      (answered : answers.call handler invocation ready.world = (.ok value, world)) :
      Evaluates answers scene (.call command) (calls ++ [(handler, invocation)]) value
        ({ ready with world }.bind? command.binding value)

inductive EvaluatesAll (answers : Answers η ω) :
    Scene ω → List Expr → List (η × Invocation) → List Value → Scene ω → Prop
  | nil {scene} : EvaluatesAll answers scene [] [] [] scene
  | cons {scene expr rest calls others value values middle left}
      (first : Evaluates answers scene expr calls value middle)
      (next : EvaluatesAll answers middle rest others values left) :
      EvaluatesAll answers scene (expr :: rest) (calls ++ others) (value :: values) left

/-- The guard and the arguments of a command have values, or the guard does not hold and there is no
invocation. -/
inductive Prepares (answers : Answers η ω) :
    Scene ω → Command → List (η × Invocation) → Option Invocation → Scene ω → Prop
  | unmet {scene command calls guards left}
      (guarded : EvaluatesAll answers scene command.guard.toList calls guards left)
      (fails : guards.all Value.holds = false) :
      Prepares answers scene command calls none left
  | met {scene command first second third guards args named guarded middle left}
      (guard : EvaluatesAll answers scene command.guard.toList first guards guarded)
      (holds : guards.all Value.holds = true)
      (positional : EvaluatesAll answers guarded command.args second args middle)
      (keyed : EvaluatesAll answers middle (command.named.map Prod.snd) third named left) :
      Prepares answers scene command (first ++ second ++ third)
        (some (command.invocation args named)) left

end

mutual

/-- An expression fails after these calls. If it is a call that fails, it is the last of them. -/
inductive Stops (answers : Answers η ω) :
    Scene ω → Expr → List (η × Invocation) → ScriptError → Scene ω → Prop
  | unresolved {scene text error} (failed : answers.name scene.names text = .error error) :
      Stops answers scene (.name text) [] error scene
  | unprepared {scene command calls error left}
      (failed : StopsPreparing answers scene command calls error left) :
      Stops answers scene (.call command) calls error left
  | unknown {scene command calls invocation error left}
      (prepared : Prepares answers scene command calls (some invocation) left)
      (missing : answers.handler command.name = .error error) :
      Stops answers scene (.call command) calls error left
  | refused {scene command calls invocation ready handler error world}
      (prepared : Prepares answers scene command calls (some invocation) ready)
      (known : answers.handler command.name = .ok handler)
      (answered : answers.call handler invocation ready.world = (.error error, world)) :
      Stops answers scene (.call command) (calls ++ [(handler, invocation)]) error
        { ready with world }

inductive StopsAll (answers : Answers η ω) :
    Scene ω → List Expr → List (η × Invocation) → ScriptError → Scene ω → Prop
  | here {scene expr rest calls error left} (failed : Stops answers scene expr calls error left) :
      StopsAll answers scene (expr :: rest) calls error left
  | later {scene expr rest calls others value error middle left}
      (first : Evaluates answers scene expr calls value middle)
      (failed : StopsAll answers middle rest others error left) :
      StopsAll answers scene (expr :: rest) (calls ++ others) error left

inductive StopsPreparing (answers : Answers η ω) :
    Scene ω → Command → List (η × Invocation) → ScriptError → Scene ω → Prop
  | guard {scene command calls error left}
      (failed : StopsAll answers scene command.guard.toList calls error left) :
      StopsPreparing answers scene command calls error left
  | positional {scene command first second guards error guarded left}
      (guard : EvaluatesAll answers scene command.guard.toList first guards guarded)
      (holds : guards.all Value.holds = true)
      (failed : StopsAll answers guarded command.args second error left) :
      StopsPreparing answers scene command (first ++ second) error left
  | keyed {scene command first second third guards args error guarded middle left}
      (guard : EvaluatesAll answers scene command.guard.toList first guards guarded)
      (holds : guards.all Value.holds = true)
      (positional : EvaluatesAll answers guarded command.args second args middle)
      (failed : StopsAll answers middle (command.named.map Prod.snd) third error left) :
      StopsPreparing answers scene command (first ++ second ++ third) error left

end

/-- Other answers that give the same ones wherever these do not fail. -/
structure Mends (answers mended : Answers η ω) : Prop where
  name : ∀ names text value,
    answers.name names text = .ok value → mended.name names text = .ok value
  handler : ∀ name handler,
    answers.handler name = .ok handler → mended.handler name = .ok handler
  call : ∀ handler invocation world value after,
    answers.call handler invocation world = (.ok value, after) →
      mended.call handler invocation world = (.ok value, after)

theorem Mends.refl (answers : Answers η ω) : answers.Mends answers :=
  ⟨fun _ _ _ same => same, fun _ _ same => same, fun _ _ _ _ _ same => same⟩

section Mended

variable {answers mended : Answers η ω}

mutual

/-- What succeeds does the same with mended answers. -/
theorem Evaluates.unique (mends : answers.Mends mended) :
    ∀ {scene expr calls others value other left last},
    Evaluates answers scene expr calls value left →
      Evaluates mended scene expr others other last →
        calls = others ∧ value = other ∧ left = last
  | _, _, _, _, _, _, _, _, .lit, second => by
    cases second
    exact ⟨rfl, rfl, rfl⟩
  | _, _, _, _, _, _, _, _, .name resolved, second => by
    cases second with
    | name also =>
      cases (mends.name _ _ _ resolved).symm.trans also
      exact ⟨rfl, rfl, rfl⟩
  | _, _, _, _, _, _, _, _, .skipped prepared, second => by
    cases second with
    | skipped also =>
      obtain ⟨rfl, _, rfl⟩ := Prepares.unique mends prepared also
      exact ⟨rfl, rfl, rfl⟩
    | called also =>
      obtain ⟨_, impossible, _⟩ := Prepares.unique mends prepared also
      contradiction
  | _, _, _, _, _, _, _, _, .called prepared known answered, second => by
    cases second with
    | skipped also =>
      obtain ⟨_, impossible, _⟩ := Prepares.unique mends prepared also
      contradiction
    | called also same result =>
      obtain ⟨rfl, invoked, rfl⟩ := Prepares.unique mends prepared also
      cases invoked
      cases (mends.handler _ _ known).symm.trans same
      cases (mends.call _ _ _ _ _ answered).symm.trans result
      exact ⟨rfl, rfl, rfl⟩

theorem EvaluatesAll.unique (mends : answers.Mends mended) :
    ∀ {scene exprs calls others values results left last},
    EvaluatesAll answers scene exprs calls values left →
      EvaluatesAll mended scene exprs others results last →
        calls = others ∧ values = results ∧ left = last
  | _, _, _, _, _, _, _, _, .nil, second => by
    cases second
    exact ⟨rfl, rfl, rfl⟩
  | _, _, _, _, _, _, _, _, .cons first rest, second => by
    cases second with
    | cons also following =>
      obtain ⟨rfl, rfl, rfl⟩ := Evaluates.unique mends first also
      obtain ⟨rfl, rfl, rfl⟩ := EvaluatesAll.unique mends rest following
      exact ⟨rfl, rfl, rfl⟩

theorem Prepares.unique (mends : answers.Mends mended) :
    ∀ {scene command calls others invocation other left last},
    Prepares answers scene command calls invocation left →
      Prepares mended scene command others other last →
        calls = others ∧ invocation = other ∧ left = last
  | _, _, _, _, _, _, _, _, .unmet guarded fails, second => by
    cases second with
    | unmet also _ =>
      obtain ⟨rfl, _, rfl⟩ := EvaluatesAll.unique mends guarded also
      exact ⟨rfl, rfl, rfl⟩
    | met also holds _ _ =>
      obtain ⟨_, rfl, _⟩ := EvaluatesAll.unique mends guarded also
      rw [fails] at holds
      contradiction
  | _, _, _, _, _, _, _, _, .met guard holds positional keyed, second => by
    cases second with
    | unmet also fails =>
      obtain ⟨_, rfl, _⟩ := EvaluatesAll.unique mends guard also
      rw [holds] at fails
      contradiction
    | met also _ following last =>
      obtain ⟨rfl, rfl, rfl⟩ := EvaluatesAll.unique mends guard also
      obtain ⟨rfl, rfl, rfl⟩ := EvaluatesAll.unique mends positional following
      obtain ⟨rfl, rfl, rfl⟩ := EvaluatesAll.unique mends keyed last
      exact ⟨rfl, rfl, rfl⟩

end

mutual

/-- What fails has made the first calls of all that gets past the failing point. -/
theorem Stops.calls_prefix (mends : answers.Mends mended) :
    ∀ {scene expr calls full error value left last},
    Stops answers scene expr calls error left → Evaluates mended scene expr full value last →
      calls <+: full
  | _, _, _, _, _, _, _, _, .unresolved _, _ => List.nil_prefix
  | _, _, _, _, _, _, _, _, .unprepared failed, whole => by
    cases whole with
    | skipped prepared => exact StopsPreparing.calls_prefix mends failed prepared
    | called prepared =>
      exact (StopsPreparing.calls_prefix mends failed prepared).trans (List.prefix_append _ _)
  | _, _, _, _, _, _, _, _, .unknown prepared _, whole => by
    cases whole with
    | skipped also =>
      obtain ⟨_, impossible, _⟩ := Prepares.unique mends prepared also
      contradiction
    | called also =>
      obtain ⟨rfl, _, _⟩ := Prepares.unique mends prepared also
      exact List.prefix_append _ _
  | _, _, _, _, _, _, _, _, .refused prepared known _, whole => by
    cases whole with
    | skipped also =>
      obtain ⟨_, impossible, _⟩ := Prepares.unique mends prepared also
      contradiction
    | called also same _ =>
      obtain ⟨rfl, invoked, _⟩ := Prepares.unique mends prepared also
      cases invoked
      cases (mends.handler _ _ known).symm.trans same
      exact List.prefix_refl _

theorem StopsAll.calls_prefix (mends : answers.Mends mended) :
    ∀ {scene exprs calls full error values left last},
    StopsAll answers scene exprs calls error left →
      EvaluatesAll mended scene exprs full values last → calls <+: full
  | _, _, _, _, _, _, _, _, .here failed, whole => by
    cases whole with
    | cons first rest =>
      exact (Stops.calls_prefix mends failed first).trans (List.prefix_append _ _)
  | _, _, _, _, _, _, _, _, .later first failed, whole => by
    cases whole with
    | cons also rest =>
      obtain ⟨rfl, _, rfl⟩ := Evaluates.unique mends first also
      exact (List.prefix_append_right_inj _).mpr (StopsAll.calls_prefix mends failed rest)

theorem StopsPreparing.calls_prefix (mends : answers.Mends mended) :
    ∀ {scene command calls full error invocation left last},
    StopsPreparing answers scene command calls error left →
      Prepares mended scene command full invocation last → calls <+: full
  | _, _, _, _, _, _, _, _, .guard failed, whole => by
    cases whole with
    | unmet guarded _ => exact StopsAll.calls_prefix mends failed guarded
    | met guard _ _ _ =>
      rw [List.append_assoc]
      exact (StopsAll.calls_prefix mends failed guard).trans (List.prefix_append _ _)
  | _, _, _, _, _, _, _, _, .positional guard holds failed, whole => by
    cases whole with
    | unmet also fails =>
      obtain ⟨_, rfl, _⟩ := EvaluatesAll.unique mends guard also
      rw [holds] at fails
      contradiction
    | met also _ positional _ =>
      obtain ⟨rfl, _, rfl⟩ := EvaluatesAll.unique mends guard also
      rw [List.append_assoc]
      exact (List.prefix_append_right_inj _).mpr
        ((StopsAll.calls_prefix mends failed positional).trans (List.prefix_append _ _))
  | _, _, _, _, _, _, _, _, .keyed guard holds positional failed, whole => by
    cases whole with
    | unmet also fails =>
      obtain ⟨_, rfl, _⟩ := EvaluatesAll.unique mends guard also
      rw [holds] at fails
      contradiction
    | met also _ following keyed =>
      obtain ⟨rfl, _, rfl⟩ := EvaluatesAll.unique mends guard also
      obtain ⟨rfl, _, rfl⟩ := EvaluatesAll.unique mends positional following
      exact (List.prefix_append_right_inj _).mpr (StopsAll.calls_prefix mends failed keyed)

end

end Mended

/-- Answers that never fail: they put null, or a handler of their own, where others fail. -/
def mended (answers : Answers η ω) (fallback : η) : Answers η ω where
  name names text := .ok (((answers.name names text).toOption).getD .null)
  handler name := .ok (((answers.handler name).toOption).getD fallback)
  call handler invocation world :=
    let (result, after) := answers.call handler invocation world
    (.ok (result.toOption.getD .null), after)

section Unfailing

variable (answers : Answers η ω) (fallback : η)

theorem mends_mended : answers.Mends (answers.mended fallback) where
  name names text value same := by simp only [mended, same, Except.toOption, Option.getD_some]
  handler name handler same := by simp only [mended, same, Except.toOption, Option.getD_some]
  call handler invocation world value after same := by
    simp only [mended, same, Except.toOption, Option.getD_some]

/-- A prepared command has a value, for its call does not fail. -/
theorem mended_calls {scene ready : Scene ω} {command : Command} {calls : List (η × Invocation)}
    {invocation : Option Invocation}
    (prepared : Prepares (answers.mended fallback) scene command calls invocation ready) :
    ∃ calls value left,
      Evaluates (answers.mended fallback) scene (.call command) calls value left :=
  match invocation, prepared with
  | none, prepared => ⟨_, _, _, .skipped prepared⟩
  | some _, prepared => ⟨_, _, _, .called prepared rfl rfl⟩

/-- A command is prepared once its guard and its arguments have values. -/
theorem mended_prepares_of {command : Command} {scene : Scene ω}
    (guard : ∃ calls values left,
      EvaluatesAll (answers.mended fallback) scene command.guard.toList calls values left)
    (positional : ∀ scene, ∃ calls values left,
      EvaluatesAll (answers.mended fallback) scene command.args calls values left)
    (keyed : ∀ scene, ∃ calls values left,
      EvaluatesAll (answers.mended fallback) scene (command.named.map Prod.snd) calls values left) :
    ∃ calls invocation left,
      Prepares (answers.mended fallback) scene command calls invocation left := by
  obtain ⟨first, guards, guarded, guard⟩ := guard
  cases holds : guards.all Value.holds with
  | false => exact ⟨first, none, guarded, .unmet guard holds⟩
  | true =>
    obtain ⟨second, args, middle, positional⟩ := positional guarded
    obtain ⟨third, named, left, keyed⟩ := keyed middle
    exact ⟨_, _, left, .met guard holds positional keyed⟩

mutual

/-- With answers that never fail every expression has a value. -/
theorem mended_evaluates (expr : Expr) (scene : Scene ω) :
    ∃ calls value left, Evaluates (answers.mended fallback) scene expr calls value left := by
  cases expr with
  | lit value => exact ⟨[], value, scene, .lit⟩
  | name text => exact ⟨[], _, scene, .name rfl⟩
  | call command =>
    obtain ⟨_, _, _, prepared⟩ := mended_prepares command scene
    exact mended_calls answers fallback prepared

theorem mended_prepares (command : Command) (scene : Scene ω) :
    ∃ calls invocation left,
      Prepares (answers.mended fallback) scene command calls invocation left := by
  cases command with
  | positional name args =>
    exact mended_prepares_of answers fallback ⟨_, _, _, .nil⟩ (mended_evaluatesAll args)
      fun _ => ⟨_, _, _, .nil⟩
  | keyword name args named guard binding =>
    exact mended_prepares_of answers fallback (mended_evaluatesGuard guard scene)
      (mended_evaluatesAll args) (mended_evaluatesNamed named)

theorem mended_evaluatesGuard (guard : Option Expr) (scene : Scene ω) :
    ∃ calls values left,
      EvaluatesAll (answers.mended fallback) scene guard.toList calls values left := by
  cases guard with
  | none => exact ⟨_, _, _, .nil⟩
  | some expr =>
    obtain ⟨_, _, _, evaluated⟩ := mended_evaluates expr scene
    exact ⟨_, _, _, .cons evaluated .nil⟩

theorem mended_evaluatesAll (exprs : List Expr) (scene : Scene ω) :
    ∃ calls values left, EvaluatesAll (answers.mended fallback) scene exprs calls values left := by
  cases exprs with
  | nil => exact ⟨_, _, _, .nil⟩
  | cons expr rest =>
    obtain ⟨_, _, middle, first⟩ := mended_evaluates expr scene
    obtain ⟨_, _, _, following⟩ := mended_evaluatesAll rest middle
    exact ⟨_, _, _, .cons first following⟩

theorem mended_evaluatesNamed (named : List (String × Expr)) (scene : Scene ω) :
    ∃ calls values left,
      EvaluatesAll (answers.mended fallback) scene (named.map Prod.snd) calls values left := by
  cases named with
  | nil => exact ⟨_, _, _, .nil⟩
  | cons entry rest =>
    obtain ⟨name, expr⟩ := entry
    obtain ⟨_, _, middle, first⟩ := mended_evaluates expr scene
    obtain ⟨_, _, _, following⟩ := mended_evaluatesNamed rest middle
    exact ⟨_, _, _, .cons first following⟩

end

end Unfailing

theorem Prepares.name {answers : Answers η ω} {scene left : Scene ω} {command : Command}
    {calls : List (η × Invocation)} {invocation : Invocation}
    (prepared : Prepares answers scene command calls (some invocation) left) :
    invocation.name = command.name := by
  cases prepared
  rfl

end Answers

/-- The host that calls a command when it is resumed and notes the call. A call may change the world
and depend on it. -/
def Host.logging (act : η → Invocation → ω → Except ScriptError Value × ω) :
    Host η (η × Invocation) (ω × List (η × Invocation)) where
  start handler invocation _ world := ⟨.ok (handler, invocation), world, []⟩
  resume call _ world :=
    let (result, after) := act call.1 call.2 world.1
    ⟨Resume.ofCall result, call, (after, world.2 ++ [call]), []⟩

def Answers.actual (registry : Registry η)
    (act : η → Invocation → ω → Except ScriptError Value × ω) : Answers η ω where
  name := Namespace.resolve
  handler := registry.resolve
  call := act

namespace Setting

/-- An evaluation has added calls to the log, and it has succeeded or failed with them. -/
def Logs {α : Type} (scene : Scene (ω × List (η × Invocation)))
    (succeeds : List (η × Invocation) → α → Scene ω → Prop)
    (fails : List (η × Invocation) → ScriptError → Scene ω → Prop) :
    Except Fault α × Scene (ω × List (η × Invocation)) → Prop
  | (.ok value, left) => ∃ calls,
      left.world.2 = scene.world.2 ++ calls ∧ succeeds calls value left.unrecorded
  | (.error (.script error), left) => ∃ calls,
      left.world.2 = scene.world.2 ++ calls ∧ fails calls error left.unrecorded
  | (.error (.breakdown _), _) => False

section Logging

variable {α β : Type} {scene middle left : Scene (ω × List (η × Invocation))}
  {before calls : List (η × Invocation)}

/-- The calls of two parts, one after the other, if the first one succeeds. -/
theorem Logs.andThen {succeeds : List (η × Invocation) → α → Scene ω → Prop}
    {achieves : List (η × Invocation) → β → Scene ω → Prop}
    {fails stops : List (η × Invocation) → ScriptError → Scene ω → Prop}
    {result : Except Fault α × Scene (ω × List (η × Invocation))}
    {next : α → Scene (ω × List (η × Invocation)) →
      Except Fault β × Scene (ω × List (η × Invocation))}
    (log : middle.world.2 = scene.world.2 ++ before) (logs : Logs middle succeeds fails result)
    (failed : ∀ calls error left, fails calls error left → stops (before ++ calls) error left)
    (following : ∀ calls value left, left.world.2 = scene.world.2 ++ (before ++ calls) →
      succeeds calls value left.unrecorded → Logs scene achieves stops (next value left)) :
    Logs scene achieves stops (Setting.andThen result next) := by
  obtain ⟨fault | value, left⟩ := result
  · cases fault with
    | breakdown cause => exact logs
    | script error =>
      obtain ⟨calls, later, fails⟩ := logs
      exact ⟨before ++ calls, by rw [later, log, List.append_assoc], failed calls error _ fails⟩
  · obtain ⟨calls, later, succeeds⟩ := logs
    exact following calls value left (by rw [later, log, List.append_assoc]) succeeds

open Answers

variable (act : η → Invocation → ω → Except ScriptError Value × ω) (registry : Registry η)
  (now : Time)

theorem invoke_logging (invocation : Invocation) (scene : Scene (ω × List (η × Invocation))) :
    (Setting.mk (Host.logging act) registry now).invoke invocation scene =
      match registry.resolve invocation.name with
      | .error error => (.error (.script error), scene)
      | .ok handler => (.ok (handler, invocation), scene) := by
  simp only [invoke]
  cases registry.resolve invocation.name <;> rfl

/-- The call of a started command is made at once. -/
theorem finishNested_logging (command : Command) (call : η × Invocation)
    (scene : Scene (ω × List (η × Invocation))) :
    let called : Scene (ω × List (η × Invocation)) :=
      { scene with world := ((act call.1 call.2 scene.world.1).2, scene.world.2 ++ [call]) }
    (Setting.mk (Host.logging act) registry now).finishNested command call scene =
      match (act call.1 call.2 scene.world.1).1 with
      | .ok value => (.ok value, called.bind? command.binding value)
      | .error error => (.error (.script error), called) := by
  simp only [finishNested, resume, Host.logging]
  cases (act call.1 call.2 scene.world.1).1 <;> rfl

/-- A prepared command is called, unless its name is unknown. -/
theorem call_logs {command : Command}
    (prepared : Logs scene (Prepares (.actual registry act) scene.unrecorded command)
      (StopsPreparing (.actual registry act) scene.unrecorded command)
      ((Setting.mk (Host.logging act) registry now).prepare command scene)) :
    Logs scene (Evaluates (.actual registry act) scene.unrecorded (.call command))
      (Stops (.actual registry act) scene.unrecorded (.call command))
      ((Setting.mk (Host.logging act) registry now).eval (.call command) scene) := by
  rw [eval_call_eq]
  refine .andThen (List.append_nil _).symm prepared (fun _ _ _ failed => .unprepared failed) ?_
  intro calls invocation ready log prepared
  cases invocation with
  | none => exact ⟨calls, log, .skipped prepared⟩
  | some invocation =>
    simp only [invoke_logging, prepared.name]
    cases known : registry.resolve command.name with
    | error error => exact ⟨calls, log, .unknown prepared known⟩
    | ok handler =>
      have logged : ready.world.2 ++ [(handler, invocation)] =
          scene.world.2 ++ (calls ++ [(handler, invocation)]) := by
        rw [log, List.nil_append, List.append_assoc]
      simp only [andThen, finishNested_logging]
      cases answered : act handler invocation ready.world.1 with
      | mk result world =>
        cases result with
        | error error => exact ⟨_, logged, .refused prepared known answered⟩
        | ok value =>
          have done := Evaluates.called prepared known answered
          cases binding : command.binding <;> rw [binding] at done <;> exact ⟨_, logged, done⟩

/-- A command is prepared as its guard and its arguments are evaluated. -/
theorem prepare_logs_of {command : Command}
    (guarded : Logs scene
      (fun calls holds left => ∃ guards, guards.all Value.holds = holds ∧
        EvaluatesAll (.actual registry act) scene.unrecorded command.guard.toList calls guards left)
      (StopsAll (.actual registry act) scene.unrecorded command.guard.toList)
      ((Setting.mk (Host.logging act) registry now).evalGuard command.guard scene))
    (positional : ∀ scene, Logs scene
      (EvaluatesAll (.actual registry act) scene.unrecorded command.args)
      (StopsAll (.actual registry act) scene.unrecorded command.args)
      ((Setting.mk (Host.logging act) registry now).evalAll command.args scene))
    (keyed : ∀ scene, Logs scene
      (fun calls entries left => ∃ values, entries = (command.named.map Prod.fst).zip values ∧
        EvaluatesAll (.actual registry act) scene.unrecorded (command.named.map Prod.snd) calls
          values left)
      (StopsAll (.actual registry act) scene.unrecorded (command.named.map Prod.snd))
      ((Setting.mk (Host.logging act) registry now).evalNamed command.named scene)) :
    Logs scene (Prepares (.actual registry act) scene.unrecorded command)
      (StopsPreparing (.actual registry act) scene.unrecorded command)
      ((Setting.mk (Host.logging act) registry now).prepare command scene) := by
  rw [prepare_eq]
  refine .andThen (List.append_nil _).symm guarded (fun _ _ _ failed => .guard failed) ?_
  rintro first holding middle log ⟨guards, holds, guarded⟩
  cases holding with
  | false => exact ⟨first, log, .unmet guarded holds⟩
  | true =>
    refine .andThen log (positional middle)
      (fun _ _ _ failed => .positional guarded holds failed) ?_
    intro second args later log evaluated
    refine .andThen log (keyed later)
      (fun _ _ _ failed => .keyed guarded holds evaluated failed) ?_
    rintro third entries left log ⟨named, rfl, following⟩
    exact ⟨_, log, .met guarded holds evaluated following⟩

mutual

theorem eval_logs (expr : Expr) (scene : Scene (ω × List (η × Invocation))) :
    Logs scene (Evaluates (.actual registry act) scene.unrecorded expr)
      (Stops (.actual registry act) scene.unrecorded expr)
      ((Setting.mk (Host.logging act) registry now).eval expr scene) := by
  cases expr with
  | lit value => exact ⟨[], (List.append_nil _).symm, .lit⟩
  | name text =>
    simp only [eval]
    cases resolved : scene.names.resolve text with
    | error error => exact ⟨[], (List.append_nil _).symm, .unresolved resolved⟩
    | ok value => exact ⟨[], (List.append_nil _).symm, .name resolved⟩
  | call command => exact call_logs act registry now (prepare_logs command scene)

theorem prepare_logs (command : Command) (scene : Scene (ω × List (η × Invocation))) :
    Logs scene (Prepares (.actual registry act) scene.unrecorded command)
      (StopsPreparing (.actual registry act) scene.unrecorded command)
      ((Setting.mk (Host.logging act) registry now).prepare command scene) := by
  cases command with
  | positional name args =>
    refine prepare_logs_of act registry now ?_ (evalAll_logs args) fun _ => ?_
    · exact ⟨[], (List.append_nil _).symm, [], rfl, .nil⟩
    · exact ⟨[], (List.append_nil _).symm, [], rfl, .nil⟩
  | keyword name args named guard binding =>
    exact prepare_logs_of act registry now (evalGuard_logs guard scene) (evalAll_logs args)
      (evalNamed_logs named)

theorem evalGuard_logs (guard : Option Expr) (scene : Scene (ω × List (η × Invocation))) :
    Logs scene
      (fun calls holds left => ∃ guards, guards.all Value.holds = holds ∧
        EvaluatesAll (.actual registry act) scene.unrecorded guard.toList calls guards left)
      (StopsAll (.actual registry act) scene.unrecorded guard.toList)
      ((Setting.mk (Host.logging act) registry now).evalGuard guard scene) := by
  cases guard with
  | none => exact ⟨[], (List.append_nil _).symm, [], rfl, .nil⟩
  | some expr =>
    rw [evalGuard_some]
    refine .andThen (List.append_nil _).symm (eval_logs expr scene)
      (fun _ _ _ failed => .here failed) fun calls value left log evaluated => ?_
    have single := EvaluatesAll.cons evaluated .nil
    rw [List.append_nil] at single
    exact ⟨calls, log, [value], Bool.and_true _, single⟩

theorem evalAll_logs (exprs : List Expr) (scene : Scene (ω × List (η × Invocation))) :
    Logs scene (EvaluatesAll (.actual registry act) scene.unrecorded exprs)
      (StopsAll (.actual registry act) scene.unrecorded exprs)
      ((Setting.mk (Host.logging act) registry now).evalAll exprs scene) := by
  cases exprs with
  | nil => exact ⟨[], (List.append_nil _).symm, .nil⟩
  | cons expr rest =>
    rw [evalAll_cons]
    refine .andThen (List.append_nil _).symm (eval_logs expr scene)
      (fun _ _ _ failed => .here failed) fun calls value middle log first => ?_
    refine .andThen log (evalAll_logs rest middle) (fun _ _ _ failed => .later first failed)
      fun others values left log following => ?_
    exact ⟨_, log, .cons first following⟩

theorem evalNamed_logs (named : List (String × Expr))
    (scene : Scene (ω × List (η × Invocation))) :
    Logs scene
      (fun calls entries left => ∃ values, entries = (named.map Prod.fst).zip values ∧
        EvaluatesAll (.actual registry act) scene.unrecorded (named.map Prod.snd) calls values left)
      (StopsAll (.actual registry act) scene.unrecorded (named.map Prod.snd))
      ((Setting.mk (Host.logging act) registry now).evalNamed named scene) := by
  cases named with
  | nil => exact ⟨[], (List.append_nil _).symm, [], rfl, .nil⟩
  | cons entry rest =>
    obtain ⟨name, expr⟩ := entry
    rw [evalNamed_cons]
    refine .andThen (List.append_nil _).symm (eval_logs expr scene)
      (fun _ _ _ failed => .here failed) fun calls value middle log first => ?_
    refine .andThen log (evalNamed_logs rest middle) (fun _ _ _ failed => .later first failed) ?_
    rintro others entries left log ⟨values, rfl, following⟩
    exact ⟨_, log, value :: values, rfl, .cons first following⟩

end

end Logging

/-- The siblings below a command are evaluated one after the other. A name stands for what the
commands before it have bound, and not for what those after it bind. -/
structure Threads (setting : Setting η σ ω) : Prop where
  siblings : ∀ {command scene invocation left},
    setting.prepare command scene = (.ok (some invocation), left) →
      ∃ guards args named, guards.length = command.guard.toList.length ∧
        args.length = command.args.length ∧ guards.all Value.holds = true ∧
          setting.evalAll command.siblings scene = (.ok (guards ++ args ++ named), left) ∧
            invocation = command.invocation args named
  sees : ∀ {front command between text behind scene values left},
    setting.evalAll (front ++ .call command :: (between ++ .name text :: behind)) scene =
        (.ok values, left) →
      command.binding = some (Namespace.asked text) →
        (∀ expr ∈ between, Namespace.asked text ∉ expr.bindings) →
          values[front.length + (between.length + 1)]? = values[front.length]? ∨
            (setting.evalGuard command.guard (setting.evalAll front scene).2).1 = .ok false
  misses : ∀ {front text behind scene values left},
    setting.evalAll (front ++ .name text :: behind) scene = (.ok values, left) →
      (∀ expr ∈ front, Namespace.asked text ∉ expr.bindings) →
        ∃ value, scene.names.resolve text = .ok value ∧ values[front.length]? = some value

/-- An evaluation that succeeds adds to the log, for every nested command that it comes to, the
calls of the guard and, if it holds, of the arguments and of the named arguments, and then its own
call, and no others. One that fails adds the calls up to the failing point, the first ones of every
evaluation that gets past it. -/
theorem evaluation_ordered (act : η → Invocation → ω → Except ScriptError Value × ω)
    (registry : Registry η) (now : Time) :
    let setting : Setting η (η × Invocation) (ω × List (η × Invocation)) :=
      ⟨Host.logging act, registry, now⟩
    let actual := Answers.actual registry act
    setting.Threads ∧ ∀ expr scene,
      (∀ value left, setting.eval expr scene = (.ok value, left) → ∃ calls,
        left.world.2 = scene.world.2 ++ calls ∧
          actual.Evaluates scene.unrecorded expr calls value left.unrecorded ∧
            ∀ others other last, actual.Evaluates scene.unrecorded expr others other last →
              others = calls) ∧
        ∀ fault left, setting.eval expr scene = (.error fault, left) → ∃ error calls,
          fault = .script error ∧ left.world.2 = scene.world.2 ++ calls ∧
            actual.Stops scene.unrecorded expr calls error left.unrecorded ∧
              (∀ mended full value last, actual.Mends mended →
                mended.Evaluates scene.unrecorded expr full value last → calls <+: full) ∧
                ∀ fallback, actual.Mends (actual.mended fallback) ∧ ∃ full value last,
                  (actual.mended fallback).Evaluates scene.unrecorded expr full value last := by
  intro setting actual
  refine ⟨⟨prepare_siblings, name_sees, name_misses⟩, fun expr scene => ?_⟩
  have logs := eval_logs act registry now expr scene
  refine ⟨fun value left ends => ?_, fun fault left ends => ?_⟩
  · rw [ends] at logs
    obtain ⟨calls, log, evaluates⟩ := logs
    refine ⟨calls, log, evaluates, fun others other last also => ?_⟩
    exact (Answers.Evaluates.unique (.refl actual) evaluates also).1.symm
  · rw [ends] at logs
    cases fault with
    | breakdown cause => exact logs.elim
    | script error =>
      obtain ⟨calls, log, stops⟩ := logs
      refine ⟨error, calls, rfl, log, stops, fun mended full value last mends whole => ?_, ?_⟩
      · exact Answers.Stops.calls_prefix mends stops whole
      · exact fun fallback => ⟨actual.mends_mended fallback,
          actual.mended_evaluates fallback expr scene.unrecorded⟩

end Setting

end TickScript
