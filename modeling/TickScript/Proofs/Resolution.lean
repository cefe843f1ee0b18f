import TickScript.Proofs.Cursor
import TickScript.Proofs.Discretion
import TickScript.Script.Names

/-! Commands that nobody knows. Whatever a run looks up is among the names that a walk
through its script meets, so a look through the names beforehand finds all commands
that can turn out to be unknown. -/
namespace TickScript

variable {η σ ω : Type}

/-- A fault that calls a command unknown speaks of one of the given names, and this name has no
handler. -/
def Fault.Truthful (registry : Registry η) (names : List String) (fault : Fault) : Prop :=
  ∀ name, fault = .script (.resolution name) → name ∈ names ∧ registry.contains name = false

namespace Fault.Truthful

variable {registry : Registry η} {names others : List String} {fault : Fault}

theorem other (known : ∀ name, fault ≠ .script (.resolution name)) :
    fault.Truthful registry names :=
  fun name unknown => absurd unknown (known name)

theorem mono (truthful : fault.Truthful registry names) (within : names ⊆ others) :
    fault.Truthful registry others :=
  fun name unknown => (truthful name unknown).imp (fun member => within member) id

end Fault.Truthful

theorem Registry.missing_of_resolve {registry : Registry η} {name : String} {error : ScriptError}
    (failed : registry.resolve name = .error error) :
    error = .resolution name ∧ registry.contains name = false := by
  unfold Registry.resolve at failed
  split at failed
  · contradiction
  case h_2 none_there =>
    cases failed
    exact ⟨rfl, by simp only [Table.contains, none_there, Option.isSome_none]⟩

theorem Namespace.resolve_error {names : Namespace} {text : String} {error : ScriptError}
    (failed : names.resolve text = .error error) :
    ∃ expr reason, error = .evaluation expr reason := by
  unfold Namespace.resolve at failed
  split at failed
  · dsimp only at failed
    split at failed
    · contradiction
    · cases failed
      exact ⟨_, _, rfl⟩
  · contradiction

namespace Setting

variable {setting : Setting η σ ω}

theorem prepare_name {command : Command} {scene : Scene ω} {invocation : Invocation}
    (prepared : (setting.prepare command scene).1 = .ok (some invocation)) :
    invocation.name = command.name := by
  cases command with
  | positional name args =>
    simp only [prepare] at prepared
    split at prepared <;> cases prepared
    rfl
  | keyword name args named guard binding =>
    simp only [prepare] at prepared
    split at prepared <;> try cases prepared
    split at prepared <;> try cases prepared
    split at prepared <;> cases prepared
    rfl

theorem invoke_truthful (discreet : setting.host.Discreet) {invocation : Invocation}
    {scene : Scene ω} {fault : Fault}
    (failed : (setting.invoke invocation scene).1 = .error fault) :
    fault.Truthful setting.registry [invocation.name] := by
  unfold invoke at failed
  split at failed
  case h_1 error missing =>
    cases failed
    obtain ⟨rfl, unknown⟩ := Registry.missing_of_resolve missing
    rintro name ⟨⟩
    exact ⟨List.mem_singleton_self _, unknown⟩
  case h_2 handler _ =>
    refine .other fun name unknown => ?_
    exact discreet.start handler invocation _ _ name (unknown ▸ failed)

theorem resume_truthful (discreet : setting.host.Discreet) {suspension : σ} {scene : Scene ω}
    {fault : Fault} (failed : (setting.resume suspension scene).1 = .error fault)
    (names : List String) : fault.Truthful setting.registry names :=
  .other fun name unknown => discreet.resume suspension _ _ name (unknown ▸ failed)

theorem finishNested_truthful (discreet : setting.host.Discreet) {command : Command}
    {suspension : σ} {scene : Scene ω} {fault : Fault}
    (failed : (setting.finishNested command suspension scene).1 = .error fault)
    (names : List String) : fault.Truthful setting.registry names := by
  unfold finishNested at failed
  split at failed
  case h_1 resumed =>
    cases failed
    exact resume_truthful discreet (congrArg Prod.fst resumed) names
  case h_2 =>
    cases failed
    refine .other ?_
    intro name
    simp [notWithinTick]
  all_goals contradiction

theorem enter_truthful (discreet : setting.host.Discreet) {command : Command} {scene : Scene ω}
    {fault : Fault}
    (within : ∀ fault, (setting.prepare command scene).1 = .error fault →
      fault.Truthful setting.registry command.walk)
    (failed : (setting.enter (setting.prepare command scene)).1 = .error fault) :
    fault.Truthful setting.registry command.walk := by
  have own : command.name ∈ command.walk := by
    cases command <;> exact List.mem_cons_self
  generalize result : setting.prepare command scene = pair at within failed
  obtain ⟨outcome, middle⟩ := pair
  cases outcome with
  | error other =>
    cases failed
    exact within _ rfl
  | ok prepared =>
    cases prepared with
    | none => contradiction
    | some invocation =>
      simp only [enter] at failed
      split at failed
      case h_1 started =>
        cases failed
        have met : (setting.prepare command scene).1 = .ok (some invocation) :=
          congrArg Prod.fst result
        have same : invocation.name = command.name := prepare_name met
        have truthful := invoke_truthful discreet (congrArg Prod.fst started)
        rw [same] at truthful
        exact truthful.mono (List.cons_subset.mpr ⟨own, List.nil_subset _⟩)
      case h_2 => contradiction

mutual

/-- Evaluation calls no command unknown but those that a walk through the expression meets. -/
theorem eval_truthful (discreet : setting.host.Discreet) (expr : Expr) {scene : Scene ω}
    {fault : Fault} (failed : (setting.eval expr scene).1 = .error fault) :
    fault.Truthful setting.registry expr.walk := by
  cases expr with
  | lit value => contradiction
  | name name =>
    simp only [eval] at failed
    split at failed
    · contradiction
    case h_2 unbound =>
      cases failed
      obtain ⟨_, _, rfl⟩ := Namespace.resolve_error unbound
      exact .other nofun
  | call command =>
    have begun (fault : Fault)
        (failed : (setting.enter (setting.prepare command scene)).1 = .error fault) :
        fault.Truthful setting.registry command.walk :=
      enter_truthful discreet (fun _ => prepare_truthful discreet command) failed
    simp only [eval] at failed
    split at failed
    case h_1 entered =>
      cases failed
      exact begun _ (congrArg Prod.fst entered)
    case h_2 => contradiction
    case h_3 => exact finishNested_truthful discreet failed _

theorem prepare_truthful (discreet : setting.host.Discreet) (command : Command)
    {scene : Scene ω} {fault : Fault}
    (failed : (setting.prepare command scene).1 = .error fault) :
    fault.Truthful setting.registry command.walk := by
  cases command with
  | positional name args =>
    simp only [prepare] at failed
    split at failed
    case h_1 evaluated =>
      cases failed
      exact (evalAll_truthful discreet args (congrArg Prod.fst evaluated)).mono
        (List.subset_cons_self ..)
    case h_2 => contradiction
  | keyword name args named guard binding =>
    simp only [prepare] at failed
    split at failed
    case h_1 evaluated =>
      cases failed
      refine (evalGuard_truthful discreet guard (congrArg Prod.fst evaluated)).mono ?_
      exact List.subset_cons_of_subset _ (List.subset_append_right ..)
    case h_2 => contradiction
    case h_3 =>
      split at failed
      case h_1 evaluated =>
        cases failed
        refine (evalAll_truthful discreet args (congrArg Prod.fst evaluated)).mono ?_
        refine List.subset_cons_of_subset _ ?_
        rw [List.append_assoc]
        exact List.subset_append_left ..
      case h_2 =>
        split at failed
        case h_1 evaluated =>
          cases failed
          refine (evalNamed_truthful discreet named (congrArg Prod.fst evaluated)).mono ?_
          refine List.subset_cons_of_subset _ (List.subset_append_of_subset_left _ ?_)
          exact List.subset_append_right ..
        case h_2 => contradiction

theorem evalGuard_truthful (discreet : setting.host.Discreet) (guard : Option Expr)
    {scene : Scene ω} {fault : Fault}
    (failed : (setting.evalGuard guard scene).1 = .error fault) :
    fault.Truthful setting.registry (Expr.walkGuard guard) := by
  cases guard with
  | none => contradiction
  | some guard =>
    simp only [evalGuard] at failed
    split at failed
    case h_1 evaluated =>
      cases failed
      exact eval_truthful discreet guard (congrArg Prod.fst evaluated)
    case h_2 => contradiction

theorem evalAll_truthful (discreet : setting.host.Discreet) (exprs : List Expr)
    {scene : Scene ω} {fault : Fault}
    (failed : (setting.evalAll exprs scene).1 = .error fault) :
    fault.Truthful setting.registry (Expr.walkAll exprs) := by
  cases exprs with
  | nil => contradiction
  | cons expr rest =>
    simp only [evalAll] at failed
    split at failed
    case h_1 evaluated =>
      cases failed
      exact (eval_truthful discreet expr (congrArg Prod.fst evaluated)).mono
        (List.subset_append_left ..)
    case h_2 =>
      split at failed
      case h_1 evaluated =>
        cases failed
        exact (evalAll_truthful discreet rest (congrArg Prod.fst evaluated)).mono
          (List.subset_append_right ..)
      case h_2 => contradiction

theorem evalNamed_truthful (discreet : setting.host.Discreet) (named : List (String × Expr))
    {scene : Scene ω} {fault : Fault}
    (failed : (setting.evalNamed named scene).1 = .error fault) :
    fault.Truthful setting.registry (Expr.walkNamed named) := by
  cases named with
  | nil => contradiction
  | cons entry rest =>
    obtain ⟨name, expr⟩ := entry
    simp only [evalNamed] at failed
    split at failed
    case h_1 evaluated =>
      cases failed
      exact (eval_truthful discreet expr (congrArg Prod.fst evaluated)).mono
        (List.subset_append_left ..)
    case h_2 =>
      split at failed
      case h_1 evaluated =>
        cases failed
        exact (evalNamed_truthful discreet rest (congrArg Prod.fst evaluated)).mono
          (List.subset_append_right ..)
      case h_2 => contradiction

end

theorem begin_truthful (discreet : setting.host.Discreet) (command : Command) {scene : Scene ω}
    {fault : Fault} (failed : (setting.begin command scene).1 = .error fault) :
    fault.Truthful setting.registry command.walk :=
  enter_truthful discreet (fun _ => prepare_truthful discreet command) failed

end Setting

namespace Tick

/-- A step under way that has not ended with an unknown command but one that is not registered,
although the script has it. -/
def Truthful (script : Script) (registry : Registry η) (tick : Tick η σ ω) : Prop :=
  tick.interp.script = script ∧ tick.interp.registry = registry ∧
    ∀ name, tick.point = .ended (.error (.script (.resolution name))) →
      name ∈ script.unknownCommands registry.contains

theorem round_truthful {host : Host η σ ω} (discreet : host.Discreet) {now : Time} {script : Script}
    {registry : Registry η} {tick next : Tick η σ ω} (round : Round host now tick next)
    (truthful : tick.Truthful script registry) : next.Truthful script registry := by
  obtain ⟨rfl, rfl, reported⟩ := truthful
  cases round with
  | @refused index completed interp moves command fault scene found failed =>
    refine ⟨rfl, rfl, ?_⟩
    intro name ended
    have unknown : fault = .script (.resolution name) := by
      cases fault with
      | breakdown cause => cases ended
      | script error =>
        cases completed with
        | true => cases ended
        | false =>
          cases ended
          rfl
    have discreet : (interp.setting host now).host.Discreet := discreet
    obtain ⟨met, missing⟩ :=
      Setting.begin_truthful discreet command (congrArg Prod.fst failed) name unknown
    exact Script.mem_unknownCommands.mpr ⟨⟨command, List.mem_of_getElem? found, met⟩, missing⟩
  | @failed interp moves flight fault suspension scene slot resumed =>
    refine ⟨rfl, rfl, ?_⟩
    intro name ended
    have discreet : (interp.setting host now).host.Discreet := discreet
    have truthful := Setting.resume_truthful discreet (congrArg Prod.fst resumed) []
    cases ended
    exact absurd (truthful name rfl).1 List.not_mem_nil
  | @exhausted index completed interp moves beyond =>
    refine ⟨rfl, rfl, ?_⟩
    intro name ended
    cases completed <;> cases ended
  | @started index completed interp moves command suspension scene found begun =>
    refine ⟨rfl, rfl, ?_⟩
    intro name ended
    cases completed <;> cases ended
  | skipped | vacant | unfinished | declined | done => exact ⟨rfl, rfl, nofun⟩
  | still => exact ⟨rfl, rfl, reported⟩

end Tick

namespace Interpreter

theorem step_registry (host : Host η σ ω) (now : Time) (interp : Interpreter η σ ω) :
    (interp.step host now).2.registry = interp.registry := by
  unfold step
  split <;> rfl

/-- A command that a step calls unknown is in the script and has no handler. -/
theorem step_truthful {host : Host η σ ω} (discreet : host.Discreet) (now : Time)
    {interp : Interpreter η σ ω} (sound : interp.Sound) {name : String}
    (failed : (interp.step host now).1 = .error (.script (.resolution name))) :
    name ∈ interp.script.unknownCommands interp.registry.contains := by
  have truthful : (interp.tick host now).Truthful interp.script interp.registry := by
    unfold tick
    split
    · exact ⟨rfl, rfl, nofun⟩
    · refine Tick.rounds_preserves (Tick.round_truthful discreet) _ ⟨rfl, rfl, ?_⟩
      intro name ended
      unfold entry at ended
      split at ended <;> contradiction
  obtain ⟨ended, _⟩ := tick_step host now sound
  exact truthful.2.2 name (by rw [ended, failed])

section Session

variable {host : Host (Builtin ⊕ η) σ ω}

/-- No action takes a name off the registry. -/
theorem perform_contains (action : Action η ω) {interp : Interpreter (Builtin ⊕ η) σ ω}
    {name : String} (known : interp.registry.contains name = true) :
    (interp.perform host action).registry.contains name = true := by
  have stepped (now : Time) (later : Interpreter (Builtin ⊕ η) σ ω)
      (known : later.registry.contains name = true) :
      (later.step host now).2.registry.contains name = true := by
    rw [step_registry]
    exact known
  cases action with
  | step now => exact stepped now interp known
  | runToCompletion now limit =>
    exact runToCompletion_preserves (P := fun later => later.registry.contains name = true)
      (stepped now) limit known
  | register other handler => exact Table.contains_insert.mpr (.inr known)
  | extend other => exact Table.contains_insertAll known
  | reset => exact Table.contains_insertAll known
  | evaluate | disturb => exact known

/-- A step that finds a command unknown finds one that the script has and that no handler is
registered for. So nothing is ever unknown once every command of the script is known, whatever is
registered or reset later. -/
theorem unknown_checked {host : Host η σ ω} (discreet : host.Discreet) (script : Script)
    (extra : Registry (Builtin ⊕ η)) (world : ω) (actions : List (Action η ω)) :
    let interp := (create script extra world).after host.withBuiltins actions
    (∀ action, ∀ report ∈ interp.reports host.withBuiltins action, ∀ name,
        report.outcome = .error (.script (.resolution name)) →
          name ∈ script.unknownCommands interp.registry.contains) ∧
      ∀ known : Registry (Builtin ⊕ η), script.unknownCommands known.contains = [] →
        (∀ name, known.contains name = true → interp.registry.contains name = true) →
        ∀ later, ∀ report ∈ interp.history host.withBuiltins later, ∀ name,
          report.outcome ≠ .error (.script (.resolution name)) := by
  intro interp
  have everywhere : host.withBuiltins.Discreet := Builtin.host_discreet.either discreet
  have sound : interp.Sound := after_sound _ actions (sound_fresh _ _ _)
  have same : interp.script = script := after_script _ actions _
  constructor
  case left =>
    intro action report member name failed
    have origin : ∃ (middle : Interpreter _ _ ω) (now : Time),
        (middle.Sound ∧ middle.script = script ∧ middle.registry = interp.registry) ∧
          report = middle.report host.withBuiltins now := by
      cases action with
      | step now => exact ⟨interp, now, ⟨sound, same, rfl⟩, List.mem_singleton.mp member⟩
      | runToCompletion now limit =>
        have stepped (middle : Interpreter _ _ ω)
            (kept : middle.Sound ∧ middle.script = script ∧ middle.registry = interp.registry) :
            (middle.step host.withBuiltins now).2.Sound ∧
              (middle.step host.withBuiltins now).2.script = script ∧
              (middle.step host.withBuiltins now).2.registry = interp.registry := by
          obtain ⟨_, _, next, _⟩ := step_ends host.withBuiltins now kept.1
          exact ⟨next, (step_script ..).trans kept.2.1, (step_registry ..).trans kept.2.2⟩
        obtain ⟨middle, kept, made⟩ := runReports_from stepped limit ⟨sound, same, rfl⟩ _ member
        exact ⟨middle, now, kept, made⟩
      | evaluate | register | extend | reset | disturb => nomatch member
    obtain ⟨middle, now, ⟨sound, of_script, of_registry⟩, rfl⟩ := origin
    have missing := step_truthful everywhere now sound failed
    rwa [of_script, of_registry] at missing
  case right =>
    intro known complete within later report member name failed
    have origin : ∃ (middle : Interpreter _ _ ω) (now : Time),
        (middle.Sound ∧ middle.script = script ∧
          ∀ name, known.contains name = true → middle.registry.contains name = true) ∧
          report = middle.report host.withBuiltins now := by
      refine history_from ?_ later ⟨sound, same, within⟩ report member
      rintro action middle ⟨sound, same, within⟩
      refine ⟨(perform_sound _ action sound).1, (after_script _ [action] middle).trans same, ?_⟩
      exact fun name there => perform_contains action (within name there)
    obtain ⟨middle, now, ⟨sound, of_script, registered⟩, rfl⟩ := origin
    have missing := step_truthful everywhere now sound failed
    rw [of_script] at missing
    obtain ⟨used, unregistered⟩ := Script.mem_unknownCommands.mp missing
    have unknown : name ∈ script.unknownCommands known.contains := by
      refine Script.mem_unknownCommands.mpr ⟨used, ?_⟩
      cases there : known.contains name with
      | false => rfl
      | true =>
        rw [registered name there] at unregistered
        contradiction
    rw [complete] at unknown
    exact List.not_mem_nil unknown

def stray : Script where
  commands := [
    .positional "print" [.lit (.str "hi")],
    .keyword "print" [] [("by", .call (.positional "frobnicate" []))] none none]

theorem unknown_checked_stray :
    let first : Interpreter (Builtin ⊕ Empty) (Builtin.Task ⊕ Empty) Unit :=
      create stray Table.empty ()
    let interp := first.after Host.none.withBuiltins [.step 0]
    let mended := first.after Host.none.withBuiltins
      [.step 0, .register "frobnicate" (.inl (.operation .print))]
    (interp.step Host.none.withBuiltins 0).1 = .error (.script (.resolution "frobnicate")) ∧
      "frobnicate" ∈ stray.unknownCommands interp.registry.contains ∧
      stray.unknownCommands mended.registry.contains = [] ∧
      ∀ report ∈ mended.history Host.none.withBuiltins [.step 0, .step 1], ∀ name,
        report.outcome ≠ .error (.script (.resolution name)) := by
  intro first interp mended
  have discreet : (Host.none : Host Empty Empty Unit).Discreet := ⟨nofun, nofun⟩
  have failed : (interp.step Host.none.withBuiltins 0).1 =
      .error (.script (.resolution "frobnicate")) := rfl
  have complete : stray.unknownCommands mended.registry.contains = [] := rfl
  refine ⟨failed, ?_, complete, ?_⟩
  · exact (unknown_checked discreet stray Table.empty () [.step 0]).1 (.step 0) _
      (List.mem_singleton_self _) _ failed
  · exact (unknown_checked discreet stray Table.empty ()
      [.step 0, .register "frobnicate" (.inl (.operation .print))]).2 mended.registry complete
      (fun _ there => there) [.step 0, .step 1]

end Session

end Interpreter

end TickScript
