import TickScript.Proofs.Deeds
import TickScript.Proofs.Errands
import TickScript.Proofs.Sweep

/-! How often a command is resumed. Whatever a session does with the commands it starts is a
list of deeds in order, and these are all the starts and resumes in the ledger of its host. -/
namespace TickScript

variable {η σ ω : Type}

/-- Nested commands are run on the way from one scene to another. -/
structure Scene.Nests (deeds : List Deed) (scene left : Scene (ω × Ledger)) : Prop where
  entries : left.world.2.entries = scene.world.2.entries ++ deeds.flatMap Deed.entries
  moves : deeds.filterMap Deed.move? = []
  orderly : ∀ held, Orderly ⟨scene.world.2.next, held⟩ deeds ⟨left.world.2.next, held⟩

namespace Scene.Nests

theorem nothing {scene left : Scene (ω × Ledger)} (same : left.world.2 = scene.world.2) :
    Nests [] scene left where
  entries := by rw [same, List.flatMap_nil, List.append_nil]
  moves := rfl
  orderly held := by
    rw [same]
    exact .nothing

theorem trans {scene middle left : Scene (ω × Ledger)} {deeds others : List Deed}
    (first : Nests deeds scene middle) (second : Nests others middle left) :
    Nests (deeds ++ others) scene left where
  entries := by
    rw [second.entries, first.entries, List.flatMap_append, List.append_assoc]
  moves := by rw [List.filterMap_append, first.moves, second.moves, List.append_nil]
  orderly held := (first.orderly held).trans (second.orderly held)

end Scene.Nests

@[simp] theorem Scene.bind?_world (scene : Scene ω) (binding : Option String) (value : Value) :
    (scene.bind? binding value).world = scene.world := by
  cases binding <;> rfl

namespace Setting

variable (setting : Setting η σ ω)

theorem invoke_begins (invocation : Invocation) (scene : Scene (ω × Ledger)) :
    scene.world.2.Begins (setting.numbered.invoke invocation scene).2.world.2
      (setting.numbered.invoke invocation scene).1 := by
  simp only [invoke, numbered]
  cases setting.registry.resolve invocation.name with
  | error error => exact rfl
  | ok handler => exact setting.host.numbered_begins handler invocation _ scene.world

theorem finishNested_ledger (command : Command) (suspension : Nat × σ)
    (scene : Scene (ω × Ledger)) :
    (setting.numbered.finishNested command suspension scene).2.world.2 =
      scene.world.2.resume suspension.1 (setting.numbered.resume suspension scene).1 := by
  have noted : (setting.numbered.resume suspension scene).2.2.world.2 =
      scene.world.2.resume suspension.1 (setting.numbered.resume suspension scene).1 := rfl
  simp only [finishNested]
  generalize setting.numbered.resume suspension scene = resumed at noted ⊢
  obtain ⟨outcome, left, last⟩ := resumed
  rw [← noted]
  cases outcome with
  | error fault => rfl
  | ok answer => cases answer <;> simp only [Scene.bind?_world]

/-- A resumed command keeps its number, and its answer is noted. -/
theorem resume_noted {suspension left : Nat × σ} {scene later : Scene (ω × Ledger)}
    {answer : Except Fault Resume}
    (resumed : setting.numbered.resume suspension scene = (answer, left, later)) :
    left.1 = suspension.1 ∧ later.world.2 = scene.world.2.resume suspension.1 answer := by
  cases resumed
  exact ⟨rfl, rfl⟩

variable {setting} in
/-- A nested command is resumed once, right after it has been started. -/
theorem Spans.nests {kind : Command → Prop} {scene left : Scene (ω × Ledger)}
    {errands : List Errand} (spans : setting.numbered.Spans kind scene errands left) :
    ∃ deeds, Scene.Nests deeds scene left := by
  induction spans with
  | nothing => exact ⟨[], .nothing rfl⟩
  | @refused invocation scene fault left refused =>
    have begins := setting.invoke_begins invocation scene
    rw [refused] at begins
    exact ⟨[], .nothing begins⟩
  | @errand command invocation suspension scene middle included started =>
    have begins := setting.invoke_begins invocation scene
    rw [started] at begins
    obtain ⟨number, begun⟩ := begins
    have ledger := setting.finishNested_ledger command suspension middle
    refine ⟨[.nested scene.world.2.next (setting.numbered.resume suspension middle).1], ?_, rfl, ?_⟩
    · rw [ledger, begun, number]
      simp [Ledger.resume, Ledger.begin, Deed.entries]
    · intro held
      rw [ledger, begun]
      exact Orderly.nothing.nested _
  | append first second ih₁ ih₂ =>
    obtain ⟨deeds, first⟩ := ih₁
    obtain ⟨others, second⟩ := ih₂
    exact ⟨deeds ++ others, first.trans second⟩

/-- Nested commands come first, then the command is started unless it is skipped or refused. -/
theorem begin_nests (command : Command) (scene : Scene (ω × Ledger)) :
    ∃ deeds middle, Scene.Nests deeds scene middle ∧
      match (setting.numbered.begin command scene).1 with
      | .ok (some suspension) => suspension.1 = middle.world.2.next ∧
          (setting.numbered.begin command scene).2.world.2 = middle.world.2.begin
      | _ => (setting.numbered.begin command scene).2.world.2 = middle.world.2 := by
  have spans : setting.numbered.Spans (fun _ => True) scene _
      (setting.numbered.prepare command scene).2 :=
    setting.numbered.prepare_spans command (fun _ _ => trivial) scene
  obtain ⟨deeds, nests⟩ := spans.nests
  refine ⟨deeds, (setting.numbered.prepare command scene).2, nests, ?_⟩
  simp only [begin]
  generalize setting.numbered.prepare command scene = prepared
  obtain ⟨outcome, middle⟩ := prepared
  cases outcome with
  | error fault => rfl
  | ok invocation =>
    cases invocation with
    | none => rfl
    | some invocation =>
      have begins := setting.invoke_begins invocation middle
      simp only [enter]
      generalize setting.numbered.invoke invocation middle = started at begins ⊢
      obtain ⟨outcome, left⟩ := started
      cases outcome <;> exact begins

end Setting

def Move.engages : Move → Bool
  | .started _ | .resumed .. => true
  | .skipped _ | .refused .. | .vacant => false

namespace Interpreter

def ledger (interp : Interpreter η (Nat × σ) (ω × Ledger)) : Ledger := interp.scene.world.2

def held? (interp : Interpreter η (Nat × σ) (ω × Ledger)) : Option (Nat × Nat) :=
  interp.inFlight.map fun flight => (interp.cursor.getD 0, flight.suspension.1)

def custody (interp : Interpreter η (Nat × σ) (ω × Ledger)) : Custody :=
  ⟨interp.ledger.next, interp.held?⟩

/-- Deeds are all that is noted in the ledger from one interpreter to another, and those at the top
level are the given moves. -/
structure Does (deeds : List Deed) (before : Interpreter η (Nat × σ) (ω × Ledger))
    (moves : List Move) (after : Interpreter η (Nat × σ) (ω × Ledger)) : Prop where
  entries : after.ledger.entries = before.ledger.entries ++ deeds.flatMap Deed.entries
  moves : deeds.filterMap Deed.move? = moves.filter Move.engages
  orderly : Orderly before.custody deeds after.custody

def Acts (before : Interpreter η (Nat × σ) (ω × Ledger)) (moves : List Move)
    (after : Interpreter η (Nat × σ) (ω × Ledger)) : Prop :=
  ∃ deeds, Does deeds before moves after

section Acts

variable {before middle after : Interpreter η (Nat × σ) (ω × Ledger)} {moves others : List Move}

theorem Acts.trans (first : before.Acts moves middle) (second : middle.Acts others after) :
    before.Acts (moves ++ others) after := by
  obtain ⟨deeds, first⟩ := first
  obtain ⟨later, second⟩ := second
  refine ⟨deeds ++ later, ?_, ?_, first.orderly.trans second.orderly⟩
  · rw [second.entries, first.entries, List.flatMap_append, List.append_assoc]
  · rw [List.filterMap_append, List.filter_append, first.moves, second.moves]

theorem Acts.nested {deeds : List Deed} {scene : Scene (ω × Ledger)}
    (nests : Scene.Nests deeds before.scene scene) (noted : after.ledger = scene.world.2)
    (same : after.held? = before.held?) (apart : moves.filter Move.engages = []) :
    before.Acts moves after := by
  refine ⟨deeds, ?_, ?_, ?_⟩
  · rw [noted]
    exact nests.entries
  · rw [nests.moves, apart]
  · rw [custody, custody, noted, same]
    exact nests.orderly _

theorem Acts.aside (noted : after.ledger = before.ledger) (same : after.held? = before.held?)
    (apart : moves.filter Move.engages = []) : before.Acts moves after :=
  .nested (.nothing rfl) noted same apart

theorem Acts.registered (registry : Registry η) : before.Acts [] { before with registry } :=
  .aside rfl rfl rfl

theorem Acts.started {deeds : List Deed} {scene : Scene (ω × Ledger)} {index : Nat}
    (nests : Scene.Nests deeds before.scene scene) (vacant : before.held? = none)
    (noted : after.ledger = scene.world.2.begin)
    (held : after.held? = some (index, scene.world.2.next)) :
    before.Acts [.started index] after := by
  refine ⟨deeds ++ [.started index scene.world.2.next], ?_, ?_, ?_⟩
  · rw [noted, Ledger.begin, nests.entries, List.flatMap_append, List.append_assoc]
    rfl
  · rw [List.filterMap_append, nests.moves]
    rfl
  · rw [custody, custody, vacant, noted, held]
    exact (nests.orderly none).started index

theorem Acts.resumed {index id : Nat} {answer : Except Fault Resume}
    (held : before.held? = some (index, id)) (noted : after.ledger = before.ledger.resume id answer)
    (left : after.held? = if isFinal answer then none else some (index, id)) :
    before.Acts [.resumed index answer] after := by
  refine ⟨[.resumed index id answer], ?_, rfl, ?_⟩
  · rw [noted]
    rfl
  · rw [custody, custody, held, noted, left]
    exact Orderly.nothing.resumed answer

theorem held?_none (empty : before.inFlight = none) : before.held? = none := by
  rw [held?, empty, Option.map_none]

theorem held?_some {flight : InFlight (Nat × σ)} (slot : before.inFlight = some flight) :
    before.held? = some (before.cursor.getD 0, flight.suspension.1) := by
  rw [held?, slot, Option.map_some]

/-- Without a command in flight the cursor does not matter. -/
theorem held?_unmoved (empty : before.inFlight = none) (same : after.inFlight = before.inFlight) :
    after.held? = before.held? := by
  rw [held?_none empty, held?_none (same.trans empty)]

end Acts

end Interpreter

namespace Tick

variable {host : Host η σ ω} {now : Time} {start : Nat}

/-- A round does one thing at the top level at most. -/
theorem round_acts {tick next : Tick η (Nat × σ) (ω × Ledger)}
    (round : Round host.numbered now tick next) (steady : tick.Steady start) :
    ∃ moves, next.moves = tick.moves ++ moves ∧ tick.interp.Acts moves next.interp := by
  have begins (interp : Interpreter η (Nat × σ) (ω × Ledger)) (command : Command) :=
    (Setting.mk host interp.registry now).begin_nests command interp.scene
  have keeps {interp : Interpreter η (Nat × σ) (ω × Ledger)} {flight : InFlight (Nat × σ)}
      {left : Nat × σ} {scene : Scene (ω × Ledger)} {answer : Except Fault Resume}
      (slot : interp.inFlight = some flight) (number : left.1 = flight.suspension.1)
      (noted : scene.world.2 = interp.ledger.resume flight.suspension.1 answer)
      (pending : isFinal answer = false) :
      interp.Acts [.resumed (interp.cursor.getD 0) answer]
        { interp with scene, inFlight := some { flight with suspension := left } } := by
    refine .resumed (Interpreter.held?_some slot) noted ?_
    rw [Interpreter.held?_some rfl, number, pending, if_neg Bool.false_ne_true]
  cases round with
  | exhausted =>
    refine ⟨[], (List.append_nil _).symm, .aside rfl ?_ rfl⟩
    exact Interpreter.held?_unmoved steady.2.2.1 rfl
  | @refused index completed interp moves command fault scene found failed =>
    obtain ⟨deeds, middle, nests, noted⟩ := begins interp command
    rw [show (Setting.mk host interp.registry now).numbered.begin command interp.scene = _
      from failed] at noted
    refine ⟨[.refused index fault], rfl,
      .nested nests ?_ (Interpreter.held?_unmoved steady.2.2.1 rfl) rfl⟩
    cases fault with
    | script error => cases completed <;> exact noted
    | breakdown cause => exact noted
  | @skipped index completed interp moves command scene found unmet =>
    obtain ⟨deeds, middle, nests, noted⟩ := begins interp command
    rw [show (Setting.mk host interp.registry now).numbered.begin command interp.scene = _
      from unmet] at noted
    exact ⟨[.skipped index], rfl,
      .nested nests noted (Interpreter.held?_unmoved steady.2.2.1 rfl) rfl⟩
  | @started index completed interp moves command suspension scene found begun =>
    obtain ⟨deeds, middle, nests, noted⟩ := begins interp command
    rw [show (Setting.mk host interp.registry now).numbered.begin command interp.scene = _
      from begun] at noted
    obtain ⟨number, noted⟩ := noted
    refine ⟨[.started index], rfl,
      .started nests (Interpreter.held?_none steady.2.2.1) noted ?_⟩
    rw [← number]
    rfl
  | vacant => exact ⟨[.vacant], rfl, .aside rfl rfl rfl⟩
  | @failed interp moves flight fault suspension scene slot resumed =>
    obtain ⟨number, noted⟩ := (Setting.mk host interp.registry now).resume_noted resumed
    exact ⟨_, rfl, keeps slot number noted rfl⟩
  | @unfinished interp moves flight suspension scene slot resumed =>
    obtain ⟨number, noted⟩ := (Setting.mk host interp.registry now).resume_noted resumed
    exact ⟨_, rfl, keeps slot number noted rfl⟩
  | @declined interp moves flight suspension scene slot resumed =>
    obtain ⟨_, noted⟩ := (Setting.mk host interp.registry now).resume_noted resumed
    exact ⟨_, rfl, .resumed (Interpreter.held?_some slot) noted rfl⟩
  | @done interp moves flight value suspension scene slot resumed =>
    obtain ⟨_, noted⟩ := (Setting.mk host interp.registry now).resume_noted resumed
    refine ⟨_, rfl, .resumed (Interpreter.held?_some slot) (.trans ?_ noted) rfl⟩
    exact congrArg Prod.snd (Scene.bind?_world ..)
  | still => exact ⟨[], (List.append_nil _).symm, .aside rfl rfl rfl⟩

end Tick

namespace Interpreter

section Step

variable (host : Host η σ ω) (now : Time)

theorem step_acts {interp : Interpreter η (Nat × σ) (ω × Ledger)} (sound : interp.Sound) :
    interp.Acts (interp.report host.numbered now).moves (interp.step host.numbered now).2 := by
  have acts : interp.Acts (interp.tick host.numbered now).moves
      (interp.tick host.numbered now).interp := by
    apply tick_induction host.numbered now sound
      (P := fun tick => interp.Acts tick.moves tick.interp)
    case entered | finished => exact .aside rfl rfl rfl
    case kept =>
      intro tick next round steady acts
      obtain ⟨moves, made, later⟩ := Tick.round_acts round steady
      rw [made]
      exact acts.trans later
  rw [(tick_step host.numbered now sound).2] at acts
  exact acts

/-- The deeds of a step, which resumes in the order of the script, resume no command twice. -/
theorem Does.once {before after : Interpreter η (Nat × σ) (ω × Ledger)} {deeds : List Deed}
    {moves : List Move} (does : before.Does deeds moves after) (issued : before.custody.Issued)
    (increasing : (resumes moves).Pairwise (· < ·)) : (deeds.filterMap Deed.resumed?).Nodup := by
  have engaged : resumes moves = (moves.filter Move.engages).filterMap Move.resumed? := by
    rw [resumes, List.filterMap_filter]
    congr 1
    funext move
    cases move <;> rfl
  rw [engaged, ← does.moves, List.filterMap_filterMap] at increasing
  have climbs := List.pairwise_filterMap.mp increasing
  have apart := (does.orderly.apart issued).2.2
  refine List.pairwise_filterMap.mpr ((climbs.and apart).imp ?_)
  rintro earlier later ⟨climbs, precedes⟩ id first other second same
  cases earlier with
  | nested | started => contradiction
  | resumed index id answer =>
    cases later with
    | nested | started => contradiction
    | resumed next other answer =>
      cases first
      cases second
      have above : index < next := climbs index rfl next rfl
      have equal : index = next := precedes.stays _ rfl _ rfl same
      exact Nat.ne_of_lt above equal

/-- What a step demands of its host: it ends, it tries to start each command of the script at most
once, it resumes no more commands than are left, and it resumes none of them twice. -/
structure Once (interp : Interpreter η (Nat × σ) (ω × Ledger)) : Prop where
  ended : (interp.unnumbered.tick host now).point = .ended (interp.unnumbered.step host now).1
  tries : (tries (interp.unnumbered.report host now).moves).Pairwise (· < ·)
  resumes : (resumes (interp.unnumbered.report host now).moves).length ≤
    interp.script.size - interp.cursor.getD 0
  once : ∃ deeds, interp.Does deeds (interp.unnumbered.report host now).moves
      (interp.step host.numbered now).2 ∧ (deeds.filterMap Deed.resumed?).Nodup

theorem step_once {interp : Interpreter η (Nat × σ) (ω × Ledger)} (sound : interp.Sound)
    (issued : interp.custody.Issued) : interp.Once host now := by
  obtain ⟨bound, inside, swept⟩ := tick_swept host now sound.unnumbered
  obtain ⟨deeds, does⟩ := step_acts host now sound
  rw [← report_unnumbered host now sound] at does
  constructor
  case ended => exact (tick_step host now sound.unnumbered).1
  case tries => exact swept.tries.increasing
  case resumes =>
    have within := swept.resumes.length_le
    exact Nat.le_sub_of_add_le' (Nat.le_trans within inside)
  case once => exact ⟨deeds, does, does.once issued swept.resumes.increasing⟩

end Step

section Session

variable (host : Host (Builtin ⊕ η) σ ω)

theorem perform_acts (action : Action η ω)
    {interp : Interpreter (Builtin ⊕ η) (Nat × σ) (ω × Ledger)} (sound : interp.Sound) :
    interp.Acts ((interp.reports host.numbered action.numbered).flatMap Report.moves)
      (interp.perform host.numbered action.numbered) := by
  cases action with
  | step now =>
    have acts := step_acts host now sound
    simpa only [Action.numbered, reports, List.flatMap_cons, List.flatMap_nil, List.append_nil]
  | runToCompletion now limit =>
    apply runReports_traced (P := Sound) (R := Acts) (fun _ => .aside rfl rfl rfl) Acts.trans _
      limit sound
    intro middle sound
    obtain ⟨_, _, next, _⟩ := step_ends host.numbered now sound
    exact ⟨next, step_acts host now sound⟩
  | evaluate now expr =>
    have spans : (interp.unnumbered.setting host now).numbered.Spans (fun _ => True) interp.scene _
        ((interp.unnumbered.setting host now).numbered.eval expr interp.scene).2 :=
      Setting.eval_spans _ expr (fun _ _ => trivial) interp.scene
    obtain ⟨deeds, nests⟩ := spans.nests
    exact .nested nests rfl rfl rfl
  | register | extend | reset => exact .registered _
  | disturb => exact .aside rfl rfl rfl

theorem history_acts (actions : List (Action η ω))
    {interp : Interpreter (Builtin ⊕ η) (Nat × σ) (ω × Ledger)} (sound : interp.Sound) :
    interp.Acts
      ((interp.history host.numbered (actions.map Action.numbered)).flatMap Report.moves)
      (interp.after host.numbered (actions.map Action.numbered)) := by
  apply history_traced (P := Sound) (R := Acts) (fun _ => .aside rfl rfl rfl) Acts.trans _ _ sound
  intro action member middle sound
  obtain ⟨plain, _, rfl⟩ := List.mem_map.mp member
  exact ⟨(perform_sound host.numbered plain.numbered sound).1, perform_acts host plain sound⟩

/-- In every session that is held with numbers, which is the same session as without, commands are
started and resumed in good order. A nested command is resumed once, in the evaluation that starts
it. A command at the top level is resumed until it gives a final answer, before any other one there,
and never again. Every step resumes it at most once, and ends. -/
theorem session_resumptions (script : Script) (extra : Registry (Builtin ⊕ η)) (world : ω)
    (actions : List (Action η ω)) :
    let plain : Interpreter (Builtin ⊕ η) σ ω := create script extra world
    let numbered : Interpreter (Builtin ⊕ η) (Nat × σ) (ω × Ledger) :=
      create script extra (world, {})
    let interp := numbered.after host.numbered (actions.map Action.numbered)
    interp.unnumbered = plain.after host actions ∧
      (∃ deeds, numbered.Does deeds ((plain.history host actions).flatMap Report.moves) interp ∧
        Disciplined deeds interp.held?) ∧
      ∀ now, interp.Once host now := by
  intro plain numbered interp
  have sound : numbered.Sound := sound_fresh _ _ _
  have same : numbered.unnumbered = plain := rfl
  obtain ⟨reached, reports⟩ := session_unnumbered host actions sound
  obtain ⟨deeds, does⟩ := history_acts host actions sound
  rw [← reports, same] at does
  have issued : numbered.custody.Issued := nofun
  refine ⟨reached.symm, ⟨deeds, does, does.orderly.disciplined rfl⟩, ?_⟩
  intro now
  exact step_once host now (after_sound _ _ sound) (does.orderly.apart issued).1

/-- The argument is computed, and done with, before the command is started. -/
example :
    let script : Script :=
      ⟨[.positional "print" [.call (.positional "eq" [.lit (.int 1), .lit (.int 2)])]]⟩
    let numbered : Interpreter (Builtin ⊕ Empty) (Nat × (Builtin.Task ⊕ Empty)) (Unit × Ledger) :=
      create script Table.empty ((), {})
    (numbered.step Host.none.withBuiltins.numbered 0).2.ledger.entries =
      [.began 0, .resumed 0 (.ok (.done (.bool false))), .began 1,
        .resumed 1 (.ok (.done .null))] :=
  rfl

end Session

end Interpreter
end TickScript
