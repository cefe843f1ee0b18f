import TickScript.Proofs.Recording

/-! A command whose guard does not hold. Nothing of it is touched but the guard: with another
command of the same guard in its place, known or unknown, every session in which the guard
never holds goes the same way. -/
namespace TickScript

variable {η σ τ ω ψ : Type}

def Script.replace (script : Script) (index : Nat) (other : Command) : Script :=
  ⟨script.commands.set index other⟩

/-- An event without the name of the command at an index, if it tells that this one is skipped. -/
def Event.veil (index : Nat) : Event → Event
  | .skipped other name => .skipped other (if other = index then "" else name)
  | event => event

/-- Scenes that differ at most in the name under which the command at an index is skipped. -/
structure Scene.SameBut (index : Nat) (s t : Scene ω) : Prop where
  names : t.names = s.names
  world : t.world = s.world
  log : t.log.map (Event.veil index) = s.log.map (Event.veil index)

namespace Scene.SameBut

variable {index : Nat} {s t : Scene ω}

theorem note (same : SameBut index s t) {event other : Event}
    (veiled : other.veil index = event.veil index) :
    SameBut index (s.note event) (t.note other) where
  names := same.names
  world := same.world
  log := by simp only [Scene.note, List.map_cons, same.log, veiled]

theorem noteAll (same : SameBut index s t) (world : ω) (events : List Event) :
    SameBut index ({ s with world }.noteAll events) ({ t with world }.noteAll events) where
  names := same.names
  world := rfl
  log := by simp only [Scene.noteAll, List.map_append, same.log]

end Scene.SameBut

namespace Setting

variable (setting : Setting η σ ω)

/-- A setting goes on alike in scenes that differ only in the log. -/
theorem sameBut_parallel (index : Nat) :
    Parallel setting setting (Scene.SameBut index) id (fun _ => True) (fun _ => True) := by
  refine setting.parallel_self (fun same => ⟨same.names, same.world⟩)
    (fun world events _ _ same => same.noteAll world events) ?_
  intro name value s t same
  exact ⟨by simp only [Scene.bind, same.names], same.world, same.log⟩

/-- If the guard of a command does not hold or fails, there is no more to the command. -/
theorem begin_unmet {command : Command} {scene left : Scene ω} {answer : Except Fault Bool}
    (guarded : setting.evalGuard command.guard scene = (answer, left))
    (shut : answer ≠ .ok true) :
    setting.begin command scene = (answer.map fun _ => none, left) := by
  cases command with
  | positional name args =>
    cases guarded
    contradiction
  | keyword name args named guard binding =>
    simp only [Command.guard] at guarded
    simp only [begin, prepare, guarded]
    cases answer with
    | error fault => rfl
    | ok holds =>
      cases holds with
      | false => rfl
      | true => contradiction

end Setting

/-- The answer of the guard of the command at an index, if a round evaluates it. -/
def Tick.guard? (host : Host η σ ω) (now : Time) (index : Nat) (tick : Tick η σ ω) :
    Option (Except Fault Bool) :=
  match tick.point with
  | .seeking other _ =>
    if other = index then
      (tick.interp.script.get? index).map fun command =>
        ((tick.interp.setting host now).evalGuard command.guard tick.interp.scene).1
    else none
  | _ => none

namespace Interpreter

def guards (host : Host η σ ω) (now : Time) (index : Nat) (interp : Interpreter η σ ω) :
    List (Except Fault Bool) :=
  (List.range (2 * interp.script.size + 1)).filterMap fun count =>
    (interp.entry.rounds host now count).guard? host now index

def sessionGuards (host : Host (Builtin ⊕ η) σ ω) (index : Nat) (actions : List (Action η ω))
    (interp : Interpreter (Builtin ⊕ η) σ ω) : List (Except Fault Bool) :=
  (interp.stops host actions).flatMap fun stop => stop.2.guards host stop.1 index

/-- A round in which the guard at an index does not hold. -/
def Shut (host : Host η σ ω) (index : Nat) (now : Time) (tick : Tick η σ ω) : Prop :=
  tick.guard? host now index ≠ some (.ok true)

theorem permits_shut {host : Host η σ ω} {now : Time} {index : Nat} {interp : Interpreter η σ ω}
    (shut : .ok true ∉ interp.guards host now index) :
    interp.Permits (Shut host index) host now := by
  intro count within holds
  exact shut (List.mem_filterMap.mpr ⟨count, List.mem_range.mpr within, holds⟩)

/-- The same guards are evaluated, with the same answers, where the script is the same. -/
theorem guards_coupled {pair : Pairing σ τ ω ψ} {host : Host η σ ω} {other : Host η τ ψ}
    (lockstep : pair.Lockstep host other (fun _ _ => True)) (unchanged : pair.twin = pair.script)
    {first : Interpreter η σ ω} {second : Interpreter η τ ψ} (same : pair.Matches first second)
    (now : Time) (index : Nat) :
    second.guards other now index = first.guards host now index := by
  have answers (one : Tick η σ ω) (two : Tick η τ ψ) (abreast : pair.Abreast one two) :
      two.guard? other now index = one.guard? host now index := by
    obtain ⟨⟨kept, t, relates, equal⟩, point, _⟩ := abreast
    simp only [Tick.guard?, point, equal, Pairing.second, unchanged, ← kept]
    cases one.point with
    | resuming | ended => rfl
    | seeking at_index completed =>
      simp only
      split
      · congr 1
        funext command
        obtain ⟨outcome, s, t, left, right, _⟩ := Setting.evalGuard_alike
          (lockstep.parallel one.interp.registry now) command.guard (.anything _) relates
        simp only [setting, left, right]
      · rfl
  obtain ⟨size, _⟩ := lockstep.isFinished same
  simp only [guards, size]
  congr 1
  funext count
  exact answers _ _ (lockstep.rounds count (fun _ _ => trivial) same.entry)

def skipping (σ ω : Type) (script : Script) (index : Nat) (other : Command) :
    Pairing σ σ ω ω where
  script := script
  twin := script.replace index other
  related := Scene.SameBut index
  form := id

theorem skipping_lockstep (host : Host η σ ω) {script : Script} {index : Nat}
    {command other : Command} (found : script.get? index = some command)
    (same_guard : other.guard = command.guard) :
    (skipping σ ω script index other).Lockstep host host (Shut host index) where
  size := List.length_set
  parallel registry now := Setting.sameBut_parallel ⟨host, registry, now⟩ index
  note event s t same := same.note rfl
  begins := by
    intro now place completed interp moves present t shut unchanged there same
    have kept : interp.script = script := unchanged
    clear unchanged
    have parallel : Setting.Parallel (interp.setting host now) (interp.setting host now)
        (Scene.SameBut index) id (fun _ => True) (fun _ => True) :=
      Setting.sameBut_parallel _ index
    by_cases here : place = index
    · subst here
      cases found.symm.trans there
      refine ⟨other, List.getElem?_set_self (List.getElem?_eq_some_iff.mp found).1, ?_⟩
      obtain ⟨answer, s, t, left, right, same⟩ :=
        Setting.evalGuard_alike parallel command.guard (.anything _) same
      have unmet : answer ≠ .ok true := by
        simpa only [Shut, Tick.guard?, if_true, kept, found, Option.map_some, left, ne_eq,
          Option.some.injEq] using shut
      rw [← same_guard] at right
      refine ⟨_, s, t, Setting.begin_unmet _ left unmet, ?_, same, ?_⟩
      · refine (Setting.begin_unmet (interp.setting host now) right unmet).trans ?_
        cases answer <;> rfl
      · cases answer with
        | error fault => trivial
        | ok holds => exact same.note (by simp only [Event.veil, if_true])
    · have untouched : (script.replace index other).get? place = some present := by
        rw [Script.get?, Script.replace, List.getElem?_set_ne (Ne.symm here)]
        exact there
      have skips (event : Event) (s t : Scene ω) (same : Scene.SameBut index s t) :
          Scene.SameBut index (s.note event) (t.note event) :=
        same.note rfl
      refine ⟨present, untouched, ?_⟩
      exact Pairing.twins_self parallel skips place present same

section Session

variable {host : Host (Builtin ⊕ η) σ ω} {script : Script} {index : Nat} {command other : Command}
  {extra : Registry (Builtin ⊕ η)} {world : ω} {actions : List (Action η ω)}

theorem session_skipping (found : script.get? index = some command)
    (same_guard : other.guard = command.guard)
    (shut : .ok true ∉ (create script extra world).sessionGuards host index actions) :
    (skipping σ ω script index other).Coupled ((create script extra world).after host actions)
        ((create (script.replace index other) extra world).after host actions) ∧
      (create (script.replace index other) extra world : Interpreter _ σ ω).history host actions =
        (create script extra world).history host actions := by
  have disturbed (change : ω → ω) {s t : Scene ω} (same : s.SameBut index t) :
      Scene.SameBut index { s with world := change s.world } { t with world := change t.world } :=
    ⟨same.names, congrArg change same.world, same.log⟩
  have paired : List.Forall₂ (skipping σ ω script index other).Beside actions actions :=
    Pairing.beside_self disturbed actions
  have permitted : ∀ stop ∈ (create script extra world).stops host actions,
      stop.2.Permits (Shut host index) host stop.1 := by
    intro stop member
    exact permits_shut fun holds => shut (List.mem_flatMap.mpr ⟨stop, member, holds⟩)
  have begun : (skipping σ ω script index other).Coupled (create script extra world)
      (create (script.replace index other) extra world : Interpreter (Builtin ⊕ η) σ ω) :=
    ⟨⟨rfl, _, ⟨rfl, rfl, rfl⟩, rfl⟩, sound_fresh _ _ _, sound_fresh _ _ _⟩
  obtain ⟨coupled, reports, _⟩ :=
    (skipping_lockstep host found same_guard).session paired permitted begun
  exact ⟨coupled, reports⟩

/-- The same guards are evaluated, with the same answers, when the calls are recorded. -/
theorem sessionGuards_recorded :
    ∀ answer ∈ (create script extra (world, [])).sessionGuards host.recorded index
        (actions.map Action.recorded),
      answer ∈ (create script extra world).sessionGuards host index actions := by
  intro answer member
  obtain ⟨later, among, given⟩ := List.mem_flatMap.mp member
  obtain ⟨earlier, there, same_time, coupled⟩ :=
    (session_recorded host script extra world actions).2 later among
  rw [same_time, guards_coupled (recording_lockstep host script) rfl coupled.same] at given
  exact List.mem_flatMap.mpr ⟨earlier, there, given⟩

/-- A command whose guard never holds when it is evaluated could as well be any other command with
the same guard, whether or not that one could be carried out. At every moment the two sessions have
made the same steps, with the same outcomes and faults, and the same calls of handlers, they have
come to the same cursor, command in flight and names, and their logs differ at most in the name of
the command that is skipped. -/
theorem skipped_apart (found : script.get? index = some command)
    (same_guard : other.guard = command.guard)
    (shut : .ok true ∉ (create script extra world).sessionGuards host index actions)
    (earlier : List (Action η ω)) (begins : earlier <+: actions) :
    let first : Interpreter (Builtin ⊕ η) σ ω := create script extra world
    let second : Interpreter (Builtin ⊕ η) σ ω := create (script.replace index other) extra world
    let left := first.after host earlier
    let right := second.after host earlier
    second.history host earlier = first.history host earlier ∧
      calls host (script.replace index other) extra world earlier =
        calls host script extra world earlier ∧
      right.cursor = left.cursor ∧ right.inFlight = left.inFlight ∧
      right.registry = left.registry ∧ left.scene.SameBut index right.scene ∧
      ∀ now expr, (right.evaluate host now expr).1 = (left.evaluate host now expr).1 := by
  intro first second left right
  obtain ⟨rest, rfl⟩ := begins
  have shut : .ok true ∉ first.sessionGuards host index earlier := by
    rw [sessionGuards, stops_append, List.flatMap_append] at shut
    exact fun member => shut (List.mem_append_left _ member)
  have lockstep := skipping_lockstep (σ := σ) (ω := ω) host found same_guard
  obtain ⟨coupled, reports⟩ := session_skipping found same_guard shut
  have shut_recorded : .ok true ∉ (create script extra (world, [])).sessionGuards host.recorded
      index (earlier.map Action.recorded) :=
    fun member => shut (sessionGuards_recorded _ member)
  obtain ⟨⟨⟨_, _, recorded, same⟩, _, _⟩, _⟩ := session_skipping found same_guard shut_recorded
  have called : calls host (script.replace index other) extra world earlier =
      calls host script extra world earlier := by
    simp only [calls, withRecord]
    rw [same]
    exact congrArg Prod.snd recorded.world
  have valued (now : Time) (expr : Expr) :
      (right.evaluate host now expr).1 = (left.evaluate host now expr).1 :=
    (lockstep.evaluate now expr coupled).1
  obtain ⟨⟨_, t, scene, equal⟩, _, _⟩ := coupled
  refine ⟨reports, called, ?_, ?_, ?_, ?_, valued⟩
  · have cursors := congrArg Interpreter.cursor equal
    exact cursors
  · have flights := congrArg Interpreter.inFlight equal
    exact flights.trans (InFlight.map_inForm_id _)
  · have registries := congrArg Interpreter.registry equal
    exact registries
  · have scenes := congrArg Interpreter.scene equal
    exact scenes ▸ scene

end Session

def between (command : Command) : Script where
  commands := [
    .keyword "eq" [.lit (.int 1), .lit (.int 1)] [] none (some "x"),
    command,
    .positional "print" [.name "x"]]

/-- An unknown command, with an argument that has no value, is skipped like a known one. -/
theorem skipped_apart_unknown :
    let host : Host (Builtin ⊕ Empty) (Builtin.Task ⊕ Empty) Unit := Host.none.withBuiltins
    let known : Command := .keyword "print" [.name "x"] [] (some (.name "false")) (some "y")
    let unknown : Command := .keyword "frobnicate" [.name "$z"] [] (some (.name "false")) none
    let actions : List (Action Empty Unit) := [.step 0]
    let first : Interpreter (Builtin ⊕ Empty) (Builtin.Task ⊕ Empty) Unit :=
      create (between known) Table.empty ()
    let second : Interpreter (Builtin ⊕ Empty) (Builtin.Task ⊕ Empty) Unit :=
      create (between unknown) Table.empty ()
    first.sessionGuards host 1 actions = [.ok false] ∧
      second.history host actions = first.history host actions ∧
      calls host (between unknown) Table.empty () actions =
        calls host (between known) Table.empty () actions := by
  intro host known unknown actions first second
  have guards : first.sessionGuards host 1 actions = [.ok false] := by decide +kernel
  have shut : .ok true ∉ first.sessionGuards host 1 actions := by
    rw [guards]
    exact List.not_mem_cons_of_ne_of_not_mem nofun List.not_mem_nil
  have found : (between known).get? 1 = some known := rfl
  have same_guard : unknown.guard = known.guard := rfl
  obtain ⟨reports, called, _⟩ := skipped_apart found same_guard shut actions List.prefix_rfl
  exact ⟨guards, reports, called⟩

end Interpreter
end TickScript
