import TickScript.Proofs.Parallel

/-! The commands that an evaluation runs on its way. Each of them is started and resumed
once, one after the other, and nothing else moves the evaluation on: the names it leaves
are the ones it found, with what these commands have bound written over them. So the names
that no such command binds are left alone. -/
namespace TickScript

/-- A nested command that has been started, with the answer to its one resume. -/
structure Errand where
  command : Command
  answer : Except Fault Resume

namespace Errand

/-- The value of a nested command; one that declines is null. -/
def value? (errand : Errand) : Option Value :=
  match errand.answer with
  | .ok (.done value) => some value
  | .ok .declined => some .null
  | _ => none

def bound? (errand : Errand) : Option (String × Value) :=
  errand.command.binding.bind fun name => errand.value?.map fun value => (name, value)

theorem bound?_binding {errand : Errand} {entry : String × Value}
    (bound : errand.bound? = some entry) : errand.command.binding = some entry.1 := by
  obtain ⟨name, binding, made⟩ := Option.bind_eq_some_iff.mp bound
  obtain ⟨value, _, rfl⟩ := Option.map_eq_some_iff.mp made
  exact binding

end Errand

namespace Setting

variable {η σ ω : Type}

section Errands

mutual

def errands (setting : Setting η σ ω) : Expr → Scene ω → List Errand
  | .lit _, _ => []
  | .name _, _ => []
  | .call command, scene =>
    setting.prepareErrands command scene ++
      match setting.enter (setting.prepare command scene) with
      | (.ok (some suspension), scene) => [⟨command, (setting.resume suspension scene).1⟩]
      | _ => []

def prepareErrands (setting : Setting η σ ω) : Command → Scene ω → List Errand
  | .positional _ args, scene => setting.allErrands args scene
  | .keyword _ args named guard _, scene =>
    setting.guardErrands guard scene ++
      match setting.evalGuard guard scene with
      | (.ok true, scene) =>
        setting.allErrands args scene ++
          match setting.evalAll args scene with
          | (.ok _, scene) => setting.namedErrands named scene
          | _ => []
      | _ => []

def guardErrands (setting : Setting η σ ω) : Option Expr → Scene ω → List Errand
  | none, _ => []
  | some guard, scene => setting.errands guard scene

def allErrands (setting : Setting η σ ω) : List Expr → Scene ω → List Errand
  | [], _ => []
  | expr :: rest, scene =>
    setting.errands expr scene ++
      match setting.eval expr scene with
      | (.ok _, scene) => setting.allErrands rest scene
      | _ => []

def namedErrands (setting : Setting η σ ω) : List (String × Expr) → Scene ω → List Errand
  | [], _ => []
  | (_, expr) :: rest, scene =>
    setting.errands expr scene ++
      match setting.eval expr scene with
      | (.ok _, scene) => setting.namedErrands rest scene
      | _ => []

end

end Errands

/-- The way from one scene to another: handlers that start nothing, and errands for commands of a
kind, each one resumed on the spot. -/
inductive Spans (setting : Setting η σ ω) (kind : Command → Prop) :
    Scene ω → List Errand → Scene ω → Prop
  | nothing {scene} : Spans setting kind scene [] scene
  | refused {invocation scene fault left}
      (refused : setting.invoke invocation scene = (.error fault, left)) :
      Spans setting kind scene [] left
  | errand {command invocation suspension scene middle} (included : kind command)
      (started : setting.invoke invocation scene = (.ok suspension, middle)) :
      Spans setting kind scene [⟨command, (setting.resume suspension middle).1⟩]
        (setting.finishNested command suspension middle).2
  | append {scene middle left errands others} (first : Spans setting kind scene errands middle)
      (second : Spans setting kind middle others left) :
      Spans setting kind scene (errands ++ others) left

variable (setting : Setting η σ ω) {kind : Command → Prop}

def Includes (kind : Command → Prop) (exprs : List Expr) : Prop :=
  ∀ command, .call command ∈ exprs → kind command

theorem Includes.append {exprs others : List Expr} (includes : Includes kind (exprs ++ others)) :
    Includes kind exprs ∧ Includes kind others :=
  ⟨fun command member => includes command (List.mem_append_left _ member),
    fun command member => includes command (List.mem_append_right _ member)⟩

variable {setting} in
/-- A prepared command is run to its end, if it is started at all. -/
theorem Spans.call {command : Command} {scene : Scene ω} (included : kind command)
    (prepared : setting.Spans kind scene (setting.prepareErrands command scene)
      (setting.prepare command scene).2) :
    setting.Spans kind scene (setting.errands (.call command) scene)
      (setting.eval (.call command) scene).2 := by
  simp only [errands, eval]
  generalize setting.prepare command scene = result at prepared ⊢
  obtain ⟨outcome, middle⟩ := result
  cases outcome with
  | error fault => exact prepared.append .nothing
  | ok invocation =>
    cases invocation with
    | none => exact prepared.append .nothing
    | some invocation =>
      simp only [enter]
      generalize started : setting.invoke invocation middle = result
      obtain ⟨outcome, left⟩ := result
      cases outcome with
      | error fault => exact prepared.append (.refused started)
      | ok suspension => exact prepared.append (.errand included started)

mutual

theorem eval_spans (expr : Expr) (includes : Includes kind expr.within) (scene : Scene ω) :
    setting.Spans kind scene (setting.errands expr scene) (setting.eval expr scene).2 := by
  cases expr with
  | lit value => exact .nothing
  | name name =>
    simp only [errands, eval]
    split <;> exact .nothing
  | call command =>
    refine .call (includes command List.mem_cons_self) (prepare_spans command ?_ scene)
    exact fun other member => includes other (List.mem_cons_of_mem _ member)

theorem prepare_spans (command : Command) (includes : Includes kind command.exprs)
    (scene : Scene ω) :
    setting.Spans kind scene (setting.prepareErrands command scene)
      (setting.prepare command scene).2 := by
  cases command with
  | positional name args =>
    have evaluated := evalAll_spans args includes scene
    simp only [prepareErrands, prepare]
    generalize setting.evalAll args scene = result at evaluated ⊢
    obtain ⟨outcome, scene⟩ := result
    cases outcome <;> exact evaluated
  | keyword name args named guard binding =>
    obtain ⟨inGuard, inRest⟩ := includes.append
    obtain ⟨inArgs, inNamed⟩ := inRest.append
    have guarded := evalGuard_spans guard inGuard scene
    simp only [prepareErrands, prepare]
    generalize setting.evalGuard guard scene = result at guarded ⊢
    obtain ⟨outcome, scene⟩ := result
    cases outcome with
    | error fault => exact guarded.append .nothing
    | ok holds =>
      cases holds with
      | false => exact guarded.append .nothing
      | true =>
        refine guarded.append ?_
        have evaluated := evalAll_spans args inArgs scene
        simp only
        generalize setting.evalAll args scene = result at evaluated ⊢
        obtain ⟨outcome, scene⟩ := result
        cases outcome with
        | error fault => exact evaluated.append .nothing
        | ok values =>
          refine evaluated.append ?_
          have evaluated := evalNamed_spans named inNamed scene
          simp only
          generalize setting.evalNamed named scene = result at evaluated ⊢
          obtain ⟨outcome, scene⟩ := result
          cases outcome <;> exact evaluated

theorem evalGuard_spans (guard : Option Expr) (includes : Includes kind (Expr.withinGuard guard))
    (scene : Scene ω) :
    setting.Spans kind scene (setting.guardErrands guard scene)
      (setting.evalGuard guard scene).2 := by
  cases guard with
  | none => exact .nothing
  | some guard =>
    have evaluated := eval_spans guard includes scene
    simp only [guardErrands, evalGuard]
    generalize setting.eval guard scene = result at evaluated ⊢
    obtain ⟨outcome, scene⟩ := result
    cases outcome <;> exact evaluated

theorem evalAll_spans (exprs : List Expr) (includes : Includes kind (Expr.withinAll exprs))
    (scene : Scene ω) :
    setting.Spans kind scene (setting.allErrands exprs scene)
      (setting.evalAll exprs scene).2 := by
  cases exprs with
  | nil => exact .nothing
  | cons expr rest =>
    obtain ⟨inFirst, inRest⟩ := includes.append
    have evaluated := eval_spans expr inFirst scene
    simp only [allErrands, evalAll]
    generalize setting.eval expr scene = result at evaluated ⊢
    obtain ⟨outcome, scene⟩ := result
    cases outcome with
    | error fault => exact evaluated.append .nothing
    | ok value =>
      refine evaluated.append ?_
      have evaluated := evalAll_spans rest inRest scene
      simp only
      generalize setting.evalAll rest scene = result at evaluated ⊢
      obtain ⟨outcome, scene⟩ := result
      cases outcome <;> exact evaluated

theorem evalNamed_spans (named : List (String × Expr))
    (includes : Includes kind (Expr.withinNamed named)) (scene : Scene ω) :
    setting.Spans kind scene (setting.namedErrands named scene)
      (setting.evalNamed named scene).2 := by
  cases named with
  | nil => exact .nothing
  | cons entry rest =>
    obtain ⟨name, expr⟩ := entry
    obtain ⟨inFirst, inRest⟩ := includes.append
    have evaluated := eval_spans expr inFirst scene
    simp only [namedErrands, evalNamed]
    generalize setting.eval expr scene = result at evaluated ⊢
    obtain ⟨outcome, scene⟩ := result
    cases outcome with
    | error fault => exact evaluated.append .nothing
    | ok value =>
      refine evaluated.append ?_
      have evaluated := evalNamed_spans rest inRest scene
      simp only
      generalize setting.evalNamed rest scene = result at evaluated ⊢
      obtain ⟨outcome, scene⟩ := result
      cases outcome <;> exact evaluated

end

theorem finishNested_names (command : Command) (suspension : σ) (scene : Scene ω) :
    (setting.finishNested command suspension scene).2.names =
      scene.names.insertAll ([⟨command, (setting.resume suspension scene).1⟩].filterMap
        Errand.bound?) := by
  have same : (setting.resume suspension scene).2.2.names = scene.names := rfl
  simp only [finishNested, List.filterMap_cons, List.filterMap_nil, Errand.bound?, Errand.value?]
  generalize setting.resume suspension scene = resumed at same ⊢
  obtain ⟨outcome, left, last⟩ := resumed
  rw [← same]
  cases outcome with
  | error fault => cases command.binding <;> rfl
  | ok answer => cases command.binding <;> cases answer <;> rfl

/-- Errands write what they bind over the names, one after the other. -/
theorem Spans.names {setting : Setting η σ ω} {scene left : Scene ω} {errands : List Errand}
    (spans : setting.Spans kind scene errands left) :
    left.names = scene.names.insertAll (errands.filterMap Errand.bound?) := by
  induction spans with
  | nothing => rfl
  | @refused invocation scene fault left refused =>
    have names := setting.invoke_names invocation scene
    rw [refused] at names
    exact names
  | @errand command invocation suspension scene middle included started =>
    have names := setting.invoke_names invocation scene
    rw [started] at names
    rw [finishNested_names, names]
  | append first second ih₁ ih₂ =>
    rw [ih₂, ih₁, List.filterMap_append, Table.insertAll_append]

theorem Spans.each {setting : Setting η σ ω} {scene left : Scene ω} {errands : List Errand}
    (spans : setting.Spans kind scene errands left) : ∀ errand ∈ errands, kind errand.command := by
  induction spans with
  | nothing | refused => exact nofun
  | errand included started =>
    intro errand member
    rw [List.mem_singleton.mp member]
    exact included
  | append first second ih₁ ih₂ => exact List.forall_mem_append.mpr ⟨ih₁, ih₂⟩

/-- To begin a command binds what the errands for its guard and its arguments bind. -/
theorem begin_names (command : Command) (scene : Scene ω) :
    (setting.begin command scene).2.names =
      scene.names.insertAll ((setting.prepareErrands command scene).filterMap Errand.bound?) := by
  have spans : setting.Spans (fun _ => True) scene (setting.prepareErrands command scene)
      (setting.prepare command scene).2 :=
    setting.prepare_spans command (fun _ _ => trivial) scene
  rw [← spans.names]
  simp only [begin]
  generalize setting.prepare command scene = prepared
  obtain ⟨outcome, middle⟩ := prepared
  cases outcome with
  | error fault => rfl
  | ok invocation =>
    cases invocation with
    | none => rfl
    | some invocation =>
      have names := setting.invoke_names invocation middle
      simp only [enter]
      generalize setting.invoke invocation middle = started at names ⊢
      obtain ⟨outcome, left⟩ := started
      cases outcome <;> exact names

end Setting

def Expr.bindings (expr : Expr) : List String := expr.within.filterMap Expr.bound?

/-- A namespace in which none but the given names are bound again or added, and none is removed. -/
structure Namespace.Extends (binds : String → Prop) (before after : Namespace) : Prop where
  frame : ∀ name, ¬ binds name → after.get? name = before.get? name
  kept : ∀ name, before.contains name = true → after.contains name = true
  size : before.size ≤ after.size

namespace Namespace.Extends

variable {binds wider : String → Prop} {before middle after : Namespace}

theorem refl (names : Namespace) : Extends binds names names :=
  ⟨fun _ _ => rfl, fun _ there => there, Nat.le_refl _⟩

theorem trans (first : Extends binds before middle) (second : Extends binds middle after) :
    Extends binds before after where
  frame name unbound := (second.frame name unbound).trans (first.frame name unbound)
  kept name there := second.kept name (first.kept name there)
  size := Nat.le_trans first.size second.size

theorem mono (extended : Extends binds before after) (includes : ∀ name, binds name → wider name) :
    Extends wider before after where
  frame name unbound := extended.frame name (mt (includes name) unbound)
  kept := extended.kept
  size := extended.size

theorem insert {name : String} (bound : binds name) (names : Namespace) (value : Value) :
    Extends binds names (names.insert name value) where
  frame other unbound := by
    have different : other ≠ name := fun same => unbound (same ▸ bound)
    rw [Table.get?_insert, if_neg different]
  kept other there := Table.contains_insert.mpr (.inr there)
  size := Table.size_le_insert names name value

theorem insertAll {entries : List (String × Value)} (bound : ∀ entry ∈ entries, binds entry.1)
    (names : Namespace) : Extends binds names (names.insertAll entries) := by
  induction entries generalizing names with
  | nil => exact refl names
  | cons entry rest ih =>
    obtain ⟨here, following⟩ := List.forall_mem_cons.mp bound
    exact (insert here names entry.2).trans (ih following _)

/-- Errands bind the names of their commands. -/
theorem errands {errands : List Errand}
    (bound : ∀ errand ∈ errands, ∀ name, errand.command.binding = some name → binds name)
    (names : Namespace) :
    Extends binds names (names.insertAll (errands.filterMap Errand.bound?)) := by
  refine insertAll (fun entry member => ?_) names
  obtain ⟨errand, among, made⟩ := List.mem_filterMap.mp member
  exact bound errand among entry.1 (Errand.bound?_binding made)

end Namespace.Extends

namespace Setting

variable {η σ ω : Type} (setting : Setting η σ ω)

/-- An expression binds none but the names of the commands within it, whether it has a value or
not. -/
theorem eval_extends (expr : Expr) (scene : Scene ω) :
    scene.names.Extends (· ∈ expr.bindings) (setting.eval expr scene).2.names := by
  have spans : setting.Spans (fun command => .call command ∈ expr.within) scene
      (setting.errands expr scene) (setting.eval expr scene).2 :=
    setting.eval_spans expr (fun _ member => member) scene
  rw [spans.names]
  refine .errands (fun errand member name binding => ?_) _
  exact List.mem_filterMap.mpr ⟨_, spans.each errand member, binding⟩

/-- The attempt to start a command binds none but the names of the commands nested in it. -/
theorem begin_extends (command : Command) (scene : Scene ω) :
    scene.names.Extends (· ∈ command.nestedBindings) (setting.begin command scene).2.names := by
  have spans : setting.Spans (fun other => .call other ∈ command.exprs) scene
      (setting.prepareErrands command scene) (setting.prepare command scene).2 :=
    setting.prepare_spans command (fun _ member => member) scene
  rw [begin_names]
  refine .errands (fun errand member name binding => ?_) _
  exact List.mem_filterMap.mpr ⟨_, spans.each errand member, binding⟩

theorem begin_frame (command : Command) (scene : Scene ω) {name : String}
    (unbound : name ∉ command.nestedBindings) :
    (setting.begin command scene).2.names.get? name = scene.names.get? name :=
  (setting.begin_extends command scene).frame name unbound

end Setting

end TickScript
