import TickScript.Proofs.Errands
import TickScript.Proofs.Retry

/-! The binding of a command that is done, and what the same step makes of it. The step goes
on to start a command that follows, and a command nested in one of those it tries may bind
the same name again; nothing else can. -/
namespace TickScript

variable {η σ ω : Type}

namespace Setting

variable (setting : Setting η σ ω)

def launchErrands : List Command → Nat → Scene ω → List Errand
  | [], _, _ => []
  | command :: rest, index, scene =>
    setting.prepareErrands command scene ++
      match setting.begin command scene with
      | (.ok none, scene) =>
        launchErrands rest (index + 1) (scene.note (.skipped index command.name))
      | _ => []

theorem launch_names (commands : List Command) (index : Nat) (scene : Scene ω) :
    (setting.launch commands index scene).scene.names =
      scene.names.insertAll
        ((setting.launchErrands commands index scene).filterMap Errand.bound?) := by
  induction commands generalizing index scene with
  | nil => rfl
  | cons command rest ih =>
    have names := setting.begin_names command scene
    simp only [launch, launchErrands, List.filterMap_append, Table.insertAll_append]
    rw [← names]
    generalize setting.begin command scene = begun
    obtain ⟨outcome, middle⟩ := begun
    cases outcome with
    | error fault => rfl
    | ok started =>
      cases started with
      | none => exact ih (index + 1) _
      | some suspension => rfl

/-- The errands of a search are for commands nested in those that it tries to start. -/
theorem launchErrands_within (commands : List Command) (index : Nat) (scene : Scene ω) :
    ∀ errand ∈ setting.launchErrands commands index scene, ∃ offset command,
      commands[offset]? = some command ∧ .call errand.command ∈ command.exprs ∧
        index + offset ≤ (setting.launch commands index scene).cursor := by
  induction commands generalizing index scene with
  | nil => exact nofun
  | cons command rest ih =>
    intro errand member
    have reached := setting.launch_cursor_le (command :: rest) index scene
    have spans : setting.Spans (fun other => .call other ∈ command.exprs) scene
        (setting.prepareErrands command scene) (setting.prepare command scene).2 :=
      setting.prepare_spans command (fun _ member => member) scene
    simp only [launchErrands] at member
    rcases List.mem_append.mp member with own | later
    · exact ⟨0, command, rfl, spans.each errand own, reached⟩
    · simp only [launch]
      generalize setting.begin command scene = begun at later ⊢
      obtain ⟨outcome, middle⟩ := begun
      cases outcome with
      | error fault => contradiction
      | ok started =>
        cases started with
        | some suspension => contradiction
        | none =>
          obtain ⟨offset, other, there, inside, before⟩ := ih (index + 1) _ errand later
          exact ⟨offset + 1, other, there, inside, by simp only; omega⟩

/-- The scene in which the search goes on once a command is done. -/
def settled (command : Command) (index : Nat) (value : Value) (scene : Scene ω) : Scene ω :=
  (scene.note (.completed index value)).bind? command.binding value

theorem settled_bound {command : Command} {name : String} (binding : command.binding = some name)
    (index : Nat) (value : Value) (scene : Scene ω) :
    (settled command index value scene).names.get? name = some value := by
  simp only [settled, binding, Scene.bind?, Scene.bind, Table.get?_insert, if_true]

def search (script : Script) (command : Command) (index : Nat) (value : Value) (scene : Scene ω) :
    Launch σ ω :=
  setting.launch (script.commands.drop (index + 1)) (index + 1) (settled command index value scene)

end Setting

namespace Tick

/-- A step under way goes on as a search does, and is where the search ends if it is over. -/
def Follows (host : Host η σ ω) (now : Time) (search : Launch σ ω) (tick : Tick η σ ω) : Prop :=
  match tick.point with
  | .seeking next completed => completed = true ∧
      search = (tick.interp.setting host now).launch (tick.interp.script.commands.drop next) next
        tick.interp.scene
  | .resuming => False
  | .ended _ =>
      tick.interp.cursor = some search.cursor ∧ tick.interp.scene.names = search.scene.names

variable {host : Host η σ ω} {now : Time} {start : Nat}

theorem round_follows {search : Launch σ ω} {tick next : Tick η σ ω}
    (round : Round host now tick next) (follows : tick.Follows host now search) :
    next.Follows host now search := by
  cases round with
  | @exhausted index completed interp moves beyond =>
    obtain ⟨rfl, rfl⟩ := follows
    have none_left : interp.script.commands.drop index = [] :=
      List.drop_eq_nil_of_le (List.getElem?_eq_none_iff.mp beyond)
    simp only [none_left]
    exact ⟨rfl, rfl⟩
  | @refused index completed interp moves command fault scene found failed =>
    obtain ⟨rfl, rfl⟩ := follows
    simp only [drop_of_get? found, Setting.launch, failed]
    exact ⟨rfl, refusal_names ..⟩
  | skipped found unmet =>
    obtain ⟨rfl, rfl⟩ := follows
    simp only [drop_of_get? found, Setting.launch, unmet]
    exact ⟨rfl, rfl⟩
  | started found begun =>
    obtain ⟨rfl, rfl⟩ := follows
    simp only [drop_of_get? found, Setting.launch, begun]
    exact ⟨rfl, rfl⟩
  | vacant | failed | unfinished | declined | done => exact follows.elim
  | still => exact follows

def Completes (setting : Setting η σ ω) (script : Script) (tick : Tick η σ ω) : Prop :=
  tick.interp.script = script ∧ tick.interp.registry = setting.registry ∧
    ∀ index value, .resumed index (.ok (.done value)) ∈ tick.moves →
      ∃ command suspension scene, script.get? index = some command ∧
        (setting.resume suspension scene).1 = .ok (.done value) ∧
        tick.Follows setting.host setting.now
          (setting.search script command index value (setting.resume suspension scene).2.2)

theorem round_completes {registry : Registry η} {script : Script} {tick next : Tick η σ ω}
    (round : Round host now tick next) (steady : tick.Steady start)
    (completes : tick.Completes ⟨host, registry, now⟩ script) :
    next.Completes ⟨host, registry, now⟩ script := by
  obtain ⟨rfl, rfl, completed⟩ := completes
  have earlier (index : Nat) (value : Value)
      (member : .resumed index (.ok (.done value)) ∈ tick.moves) :
      ∃ command suspension scene, tick.interp.script.get? index = some command ∧
        ((tick.interp.setting host now).resume suspension scene).1 = .ok (.done value) ∧
        next.Follows host now ((tick.interp.setting host now).search tick.interp.script command
          index value ((tick.interp.setting host now).resume suspension scene).2.2) := by
    obtain ⟨command, suspension, scene, found, done, follows⟩ := completed index value member
    exact ⟨command, suspension, scene, found, done, round_follows round follows⟩
  cases round with
  | exhausted | still => exact ⟨rfl, rfl, earlier⟩
  | refused | skipped | started | vacant | failed | unfinished | declined =>
    refine ⟨rfl, rfl, fun index value member => ?_⟩
    exact earlier index value (mem_of_mem_snoc member (by simp))
  | @done interp moves flight value suspension scene slot resumed =>
    refine ⟨rfl, rfl, ?_⟩
    intro index other member
    rcases List.mem_append.mp member with before | last
    · exact earlier index other before
    · cases List.mem_singleton.mp last
      obtain ⟨_, here, sound, _, at_here, _⟩ := steady
      obtain ⟨other, command, at_other, found, binding⟩ := sound.aligned flight slot
      have same : interp.cursor.getD 0 = other := by rw [at_other, Option.getD_some]
      have answered : ((interp.setting host now).resume flight.suspension interp.scene).1 =
          .ok (.done value) := congrArg Prod.fst resumed
      have left : ((interp.setting host now).resume flight.suspension interp.scene).2.2 = scene :=
        congrArg (fun result => result.2.2) resumed
      refine ⟨command, flight.suspension, interp.scene, same ▸ found, answered, rfl, ?_⟩
      simp only [Setting.search, Setting.settled, ← binding]
      exact congrArg (fun left => (interp.setting host now).launch _ _
        ((left.note (.completed (interp.cursor.getD 0) value)).bind? flight.binding value)) left

end Tick

namespace Interpreter

variable (host : Host η σ ω) (now : Time)

/-- A step that completes a command ends where the search for the next one does. -/
theorem step_search {interp : Interpreter η σ ω} (sound : interp.Sound) {index : Nat}
    {value : Value} (done : .resumed index (.ok (.done value)) ∈ (interp.tick host now).moves) :
    ∃ command suspension scene, interp.script.get? index = some command ∧
      ((interp.setting host now).resume suspension scene).1 = .ok (.done value) ∧
      let search := (interp.setting host now).search interp.script command index value
        ((interp.setting host now).resume suspension scene).2.2
      (interp.step host now).2.cursor = some search.cursor ∧
        (interp.step host now).2.scene.names = search.scene.names := by
  have completes : (interp.tick host now).Completes (interp.setting host now) interp.script :=
    tick_induction host now sound ⟨rfl, rfl, nofun⟩ ⟨rfl, rfl, nofun⟩ Tick.round_completes
  obtain ⟨ended, same⟩ := tick_step host now sound
  obtain ⟨command, suspension, scene, found, answered, follows⟩ := completes.2.2 index value done
  simp only [Tick.Follows, ended, same] at follows
  exact ⟨command, suspension, scene, found, answered, follows⟩

/-- Once a command with a name is done, its value is bound to that name. The same step then tries to
start commands that follow, and it ends with the name bound to the last value that a command nested
in one of these has bound to it in turn, or else to the value of the command that is done. -/
theorem completion_bound {host : Host (Builtin ⊕ η) σ ω} {script : Script}
    {extra : Registry (Builtin ⊕ η)} {world : ω} {actions : List (Action η ω)} {now : Time}
    {interp : Interpreter (Builtin ⊕ η) σ ω} {index : Nat} {command : Command} {name : String}
    {value : Value} (reached : interp = (create script extra world).after host actions)
    (found : script.get? index = some command) (binding : command.binding = some name)
    (done : .resumed index (.ok (.done value)) ∈ (interp.tick host now).moves) :
    let setting := interp.setting host now
    let next := (interp.step host now).2
    ∃ suspension scene, (setting.resume suspension scene).1 = .ok (.done value) ∧
      let left := (setting.resume suspension scene).2.2
      let search := setting.search script command index value left
      let errands := setting.launchErrands (script.commands.drop (index + 1)) (index + 1)
        (Setting.settled command index value left)
      next.cursor = some search.cursor ∧ next.scene.names = search.scene.names ∧
        next.scene.names.get? name =
          some (((errands.filterMap Errand.bound?).reverse.lookup name).getD value) ∧
        (∀ errand ∈ errands, ∃ later other, index < later ∧ later ≤ search.cursor ∧
          script.get? later = some other ∧ .call errand.command ∈ other.exprs) ∧
        ((∀ later other, index < later → later ≤ search.cursor → script.get? later = some other →
          name ∉ other.nestedBindings) → next.scene.names.get? name = some value) := by
  have sound : interp.Sound := by
    rw [reached]
    exact after_sound host actions (sound_fresh _ _ _)
  have same : interp.script = script := by
    rw [reached]
    exact after_script host actions _
  intro setting next
  obtain ⟨other, suspension, scene, there, answered, here, names⟩ := step_search host now sound done
  rw [same] at there here names
  cases found.symm.trans there
  refine ⟨suspension, scene, answered, ?_⟩
  intro left search errands
  have valued : next.scene.names.get? name =
      some (((errands.filterMap Errand.bound?).reverse.lookup name).getD value) := by
    rw [names, Setting.search, Setting.launch_names, Table.get?_insertAll,
      Setting.settled_bound binding, Option.or_some]
  have within : ∀ errand ∈ errands, ∃ later other, index < later ∧ later ≤ search.cursor ∧
      script.get? later = some other ∧ .call errand.command ∈ other.exprs := by
    intro errand member
    obtain ⟨offset, other, there, nested, before⟩ :=
      setting.launchErrands_within _ _ _ errand member
    refine ⟨index + 1 + offset, other, by omega, before, ?_, nested⟩
    rw [Script.get?, ← List.getElem?_drop]
    exact there
  refine ⟨here, names, valued, within, ?_⟩
  intro unbound
  have none_binds : (errands.filterMap Errand.bound?).reverse.lookup name = none := by
    refine List.lookup_eq_none_iff.mpr ?_
    intro entry member
    apply bne_iff_ne.mpr
    intro same
    obtain ⟨errand, among, made⟩ := List.mem_filterMap.mp (List.mem_reverse.mp member)
    obtain ⟨later, other, after, before, there, nested⟩ := within errand among
    have binds : errand.command.binding = some name := by
      rw [Errand.bound?_binding made, same]
    exact unbound later other after before there (List.mem_filterMap.mpr ⟨_, nested, binds⟩)
  rw [valued, none_binds, Option.getD_none]

def rebinding (name : String) : Script where
  commands := [
    .keyword "eq" [.lit (.int 1), .lit (.int 1)] [] none (some "x"),
    .positional "print"
      [.call (.keyword "eq" [.lit (.int 1), .lit (.int 2)] [] none (some name))]]

/-- The nested command binds another name, so the first value stays. -/
theorem completion_bound_apart :
    let interp : Interpreter (Builtin ⊕ Empty) (Builtin.Task ⊕ Empty) Unit :=
      create (rebinding "y") Table.empty ()
    (interp.step Host.none.withBuiltins 0).1 = .ok .completed ∧
      .resumed 0 (.ok (.done (.bool true))) ∈ (interp.tick Host.none.withBuiltins 0).moves ∧
      (interp.step Host.none.withBuiltins 0).2.scene.names.get? "x" = some (.bool true) := by
  intro interp
  have moves : (interp.tick Host.none.withBuiltins 0).moves =
      [.started 0, .resumed 0 (.ok (.done (.bool true))), .started 1] := rfl
  have done : .resumed 0 (.ok (.done (.bool true))) ∈
      (interp.tick Host.none.withBuiltins 0).moves := by
    rw [moves]
    exact .tail _ (.head _)
  have reached : interp = (create (rebinding "y") Table.empty ()).after Host.none.withBuiltins [] :=
    rfl
  obtain ⟨_, _, _, _, _, _, _, stays⟩ := completion_bound reached rfl rfl done
  refine ⟨rfl, done, stays ?_⟩
  intro later other after _ found
  match later with
  | 1 =>
    cases found
    decide
  | _ + 2 => simp [rebinding, Script.get?] at found

/-- The nested command binds the same name within the step. -/
theorem completion_overwritten :
    let interp : Interpreter (Builtin ⊕ Empty) (Builtin.Task ⊕ Empty) Unit :=
      create (rebinding "x") Table.empty ()
    (interp.step Host.none.withBuiltins 0).1 = .ok .completed ∧
      .resumed 0 (.ok (.done (.bool true))) ∈ (interp.tick Host.none.withBuiltins 0).moves ∧
      (interp.step Host.none.withBuiltins 0).2.scene.names.get? "x" = some (.bool false) := by
  intro interp
  have moves : (interp.tick Host.none.withBuiltins 0).moves =
      [.started 0, .resumed 0 (.ok (.done (.bool true))), .started 1] := rfl
  refine ⟨rfl, ?_, rfl⟩
  rw [moves]
  exact .tail _ (.head _)

end Interpreter

end TickScript
