import TickScript.Proofs.Cursor
import TickScript.Proofs.Parallel
import Mathlib.Data.List.Forall2

/-! Two sessions side by side. Their scripts and their hosts may differ, but as long as the
commands in the same places begin alike, every round of every step does the same on both
sides: the steps have the same outcomes and moves, and matching interpreters are left. -/
namespace TickScript

variable {η σ τ ω ψ : Type}

/-- What two sessions have to do with each other: their scripts, which scenes are related, and how
the second one forms the suspensions of the first. -/
structure Pairing (σ τ ω ψ : Type) where
  script : Script
  twin : Script
  related : Scene ω → Scene ψ → Prop
  form : σ → τ

def InFlight.inForm (form : σ → τ) (flight : InFlight σ) : InFlight τ :=
  ⟨form flight.suspension, flight.binding⟩

@[simp] theorem InFlight.map_inForm_id (slot : Option (InFlight σ)) :
    slot.map (InFlight.inForm id) = slot := by
  cases slot <;> rfl

namespace Pairing

variable (pair : Pairing σ τ ω ψ)

/-- A command and the one in its place begin alike. What is started has the same name and binding on
both sides, and skips are noted without a difference. -/
def Twins (first : Setting η σ ω) (second : Setting η τ ψ) (index : Nat) (command twin : Command)
    (s : Scene ω) (t : Scene ψ) : Prop :=
  ∃ started s' t', first.begin command s = (started, s') ∧
    second.begin twin t = (started.map (Option.map pair.form), t') ∧ pair.related s' t' ∧
    match started with
    | .error _ => True
    | .ok none => pair.related (s'.note (.skipped index command.name))
        (t'.note (.skipped index twin.name))
    | .ok (some _) => twin.name = command.name ∧ twin.binding = command.binding

def second (first : Interpreter η σ ω) (scene : Scene ψ) : Interpreter η τ ψ where
  script := pair.twin
  registry := first.registry
  scene := scene
  cursor := first.cursor
  inFlight := first.inFlight.map (InFlight.inForm pair.form)

/-- Interpreters of the two scripts at the same place, with related scenes. -/
def Matches (first : Interpreter η σ ω) (second : Interpreter η τ ψ) : Prop :=
  first.script = pair.script ∧ ∃ t, pair.related first.scene t ∧ second = pair.second first t

def Abreast (first : Tick η σ ω) (second : Tick η τ ψ) : Prop :=
  pair.Matches first.interp second.interp ∧ second.point = first.point ∧
    second.moves = first.moves

/-- The commands of both scripts begin alike, in all rounds that are permitted, and nothing else
sets the two hosts apart. -/
structure Lockstep (host : Host η σ ω) (other : Host η τ ψ)
    (permits : Time → Tick η σ ω → Prop) : Prop where
  size : pair.twin.size = pair.script.size
  parallel : ∀ registry now, Setting.Parallel ⟨host, registry, now⟩ ⟨other, registry, now⟩
    pair.related pair.form (fun _ => True) (fun _ => True)
  note : ∀ event {s t}, pair.related s t → pair.related (s.note event) (t.note event)
  begins : ∀ {now index completed interp moves command t},
    permits now ⟨.seeking index completed, interp, moves⟩ → interp.script = pair.script →
    pair.script.get? index = some command → pair.related interp.scene t →
      ∃ twin, pair.twin.get? index = some twin ∧
        pair.Twins (interp.setting host now) ⟨other, interp.registry, now⟩ index command twin
          interp.scene t

variable {pair}

/-- The same command begins like itself. -/
theorem twins_self {first : Setting η σ ω} {second : Setting η τ ψ}
    (parallel : first.Parallel second pair.related pair.form (fun _ => True) (fun _ => True))
    (note : ∀ event {s t}, pair.related s t → pair.related (s.note event) (t.note event))
    (index : Nat) (command : Command) {s : Scene ω} {t : Scene ψ} (relates : pair.related s t) :
    pair.Twins first second index command command s t := by
  obtain ⟨started, s, t, left, right, relates⟩ :=
    Setting.begin_alike parallel command (.anything _) relates
  refine ⟨started, s, t, left, right, relates, ?_⟩
  cases started with
  | error fault => trivial
  | ok started =>
    cases started with
    | none => exact note _ relates
    | some suspension => exact ⟨rfl, rfl⟩

namespace Lockstep

variable {host : Host η σ ω} {other : Host η τ ψ} {permits : Time → Tick η σ ω → Prop}
  {now : Time}

/-- Two hosts for one script need only go on alike. -/
theorem of_parallel (unchanged : pair.twin = pair.script)
    (parallel : ∀ registry now, Setting.Parallel ⟨host, registry, now⟩ ⟨other, registry, now⟩
      pair.related pair.form (fun _ => True) (fun _ => True))
    (note : ∀ event {s t}, pair.related s t → pair.related (s.note event) (t.note event)) :
    pair.Lockstep host other (fun _ _ => True) where
  size := congrArg Script.size unchanged
  parallel := parallel
  note := note
  begins := by
    intro now index completed interp moves command t _ _ found same
    exact ⟨command, unchanged ▸ found,
      twins_self (parallel interp.registry now) note index command same⟩

theorem bind? (lockstep : pair.Lockstep host other permits) (registry : Registry η)
    (binding : Option String) (value : Value) {s : Scene ω} {t : Scene ψ}
    (relates : pair.related s t) :
    pair.related (s.bind? binding value) (t.bind? binding value) := by
  cases binding with
  | none => exact relates
  | some name => exact (lockstep.parallel registry 0).bind value relates trivial

/-- A command that fails to start is reported alike. -/
theorem refusal (lockstep : pair.Lockstep host other permits) (completed : Bool) (index : Nat)
    (fault : Fault) {s : Scene ω} {t : Scene ψ} (relates : pair.related s t) :
    (Tick.refusal completed index t fault).1 = (Tick.refusal completed index s fault).1 ∧
      pair.related (Tick.refusal completed index s fault).2
        (Tick.refusal completed index t fault).2 := by
  cases fault with
  | breakdown cause => exact ⟨rfl, relates⟩
  | script error =>
    cases completed with
    | false => exact ⟨rfl, relates⟩
    | true => exact ⟨rfl, lockstep.note _ relates⟩

theorem isFinished (lockstep : pair.Lockstep host other permits) {first : Interpreter η σ ω}
    {second : Interpreter η τ ψ} (same : pair.Matches first second) :
    second.script.size = first.script.size ∧ second.isFinished = first.isFinished := by
  obtain ⟨kept, t, _, rfl⟩ := same
  have size : pair.twin.size = first.script.size := by rw [lockstep.size, kept]
  refine ⟨size, ?_⟩
  simp only [Interpreter.isFinished, Pairing.second, size]

theorem next (lockstep : pair.Lockstep host other permits) {first : Tick η σ ω}
    {second : Tick η τ ψ} (permitted : permits now first) (abreast : pair.Abreast first second) :
    pair.Abreast (first.next host now) (second.next other now) := by
  obtain ⟨_, interp, _⟩ := first
  obtain ⟨point, _, moves⟩ := second
  obtain ⟨⟨kept, t, relates, equal⟩, same, made⟩ := abreast
  simp only at kept relates equal same made
  subst equal same made
  cases point with
  | ended outcome => exact ⟨⟨kept, t, relates, rfl⟩, rfl, rfl⟩
  | seeking index completed =>
    cases found : interp.script.get? index with
    | none =>
      have beyond : pair.twin.get? index = none := by
        have last : interp.script.size ≤ index := List.getElem?_eq_none_iff.mp found
        rw [kept] at last
        exact List.getElem?_eq_none (Nat.le_trans (Nat.le_of_eq lockstep.size) last)
      simp only [Tick.next, Tick.seek, Pairing.second, found, beyond]
      exact ⟨⟨kept, _, lockstep.note _ relates, rfl⟩, rfl, rfl⟩
    | some command =>
      obtain ⟨twin, there, started, s, t, left, right, relates, agrees⟩ :=
        lockstep.begins permitted kept (kept ▸ found) relates
      simp only [Interpreter.setting] at left
      simp only [Tick.next, Tick.seek, Pairing.second, Interpreter.setting, found, there, left,
        right]
      cases started with
      | error fault =>
        obtain ⟨same, relates⟩ := lockstep.refusal completed index fault relates
        exact ⟨⟨kept, _, relates, rfl⟩, congrArg _ same, rfl⟩
      | ok started =>
        cases started with
        | none => exact ⟨⟨kept, _, agrees, rfl⟩, rfl, rfl⟩
        | some suspension =>
          obtain ⟨named, bound⟩ := agrees
          simp only [Except.map, Option.map_some, named, bound]
          exact ⟨⟨kept, _, lockstep.note _ relates, rfl⟩, rfl, rfl⟩
  | resuming =>
    cases slot : interp.inFlight with
    | none =>
      simp only [Tick.next, Tick.resume, Pairing.second, slot, Option.map_none]
      exact ⟨⟨kept, t, relates, by rw [Pairing.second, slot, Option.map_none]⟩, rfl, rfl⟩
    | some flight =>
      obtain ⟨outcome, left, s, t, one, two, relates⟩ :=
        (lockstep.parallel interp.registry now).resume flight.suspension relates
      simp only [Tick.next, Tick.resume, Pairing.second, slot, Option.map_some, InFlight.inForm,
        Interpreter.setting, one, two]
      cases outcome with
      | error fault => exact ⟨⟨kept, t, relates, rfl⟩, rfl, rfl⟩
      | ok answer =>
        cases answer with
        | unfinished => exact ⟨⟨kept, t, relates, rfl⟩, rfl, rfl⟩
        | declined => exact ⟨⟨kept, _, lockstep.note _ relates, rfl⟩, rfl, rfl⟩
        | done value =>
          have bound := lockstep.bind? interp.registry flight.binding value
            (lockstep.note (.completed (interp.cursor.getD 0) value) relates)
          exact ⟨⟨kept, _, bound, rfl⟩, rfl, rfl⟩

theorem rounds (lockstep : pair.Lockstep host other permits) (count : Nat) {first : Tick η σ ω}
    {second : Tick η τ ψ} (permitted : ∀ fewer < count, permits now (first.rounds host now fewer))
    (abreast : pair.Abreast first second) :
    pair.Abreast (first.rounds host now count) (second.rounds other now count) := by
  induction count generalizing first second with
  | zero => exact abreast
  | succ count ih =>
    refine ih ?_ (lockstep.next (permitted 0 (Nat.succ_pos _)) abreast)
    exact fun fewer less => permitted (fewer + 1) (Nat.succ_lt_succ less)

end Lockstep

end Pairing

namespace Interpreter

def Permits (permits : Time → Tick η σ ω → Prop) (host : Host η σ ω) (now : Time)
    (interp : Interpreter η σ ω) : Prop :=
  ∀ count < 2 * interp.script.size + 1, permits now (interp.entry.rounds host now count)

end Interpreter

/-- The same action for two hosts. Each may change its own world, if that leaves related scenes
related. -/
inductive Pairing.Beside (pair : Pairing σ τ ω ψ) : Action η ω → Action η ψ → Prop
  | step (now) : Beside pair (.step now) (.step now)
  | runToCompletion (now limit) :
      Beside pair (.runToCompletion now limit) (.runToCompletion now limit)
  | evaluate (now expr) : Beside pair (.evaluate now expr) (.evaluate now expr)
  | register (name handler) : Beside pair (.register name handler) (.register name handler)
  | extend (extra) : Beside pair (.extend extra) (.extend extra)
  | reset : Beside pair .reset .reset
  | disturb {change other}
      (kept : ∀ {s t}, pair.related s t →
        pair.related { s with world := change s.world } { t with world := other t.world }) :
      Beside pair (.disturb change) (.disturb other)

namespace Pairing

/-- A host goes about its affairs in the same way on both sides. -/
theorem beside_self {pair : Pairing σ τ ω ω}
    (kept : ∀ (change : ω → ω) {s t}, pair.related s t →
      pair.related { s with world := change s.world } { t with world := change t.world })
    (actions : List (Action η ω)) : List.Forall₂ pair.Beside actions actions := by
  refine List.forall₂_same.mpr fun action _ => ?_
  cases action with
  | disturb change => exact .disturb (kept change)
  | _ => constructor

structure Coupled (pair : Pairing σ τ ω ψ) (first : Interpreter η σ ω)
    (second : Interpreter η τ ψ) : Prop where
  same : pair.Matches first second
  sound : first.Sound
  also : second.Sound

/-- Matching interpreters with the same reading of the clock. -/
def Alongside (pair : Pairing σ τ ω ψ) (first : Time × Interpreter η σ ω)
    (second : Time × Interpreter η τ ψ) : Prop :=
  second.1 = first.1 ∧ pair.Coupled first.2 second.2

/-- Steps from matching interpreters set out abreast. -/
theorem Matches.entry {pair : Pairing σ τ ω ψ} {first : Interpreter η σ ω}
    {second : Interpreter η τ ψ} (same : pair.Matches first second) :
    pair.Abreast first.entry second.entry := by
  refine ⟨same, ?_, rfl⟩
  obtain ⟨_, t, _, rfl⟩ := same
  simp only [Interpreter.entry, Pairing.second, Option.isSome_map]

namespace Lockstep

variable {pair : Pairing σ τ ω ψ}

section Steps

variable {host : Host η σ ω} {other : Host η τ ψ} {permits : Time → Tick η σ ω → Prop}
  {first : Interpreter η σ ω} {second : Interpreter η τ ψ}

theorem tick (lockstep : pair.Lockstep host other permits) {now : Time}
    (permitted : first.Permits permits host now) (same : pair.Matches first second) :
    pair.Abreast (first.tick host now) (second.tick other now) := by
  obtain ⟨size, finished⟩ := lockstep.isFinished same
  simp only [Interpreter.tick, finished, size]
  split
  · exact ⟨same, rfl, rfl⟩
  · exact lockstep.rounds _ permitted same.entry

theorem step (lockstep : pair.Lockstep host other permits) {now : Time}
    (permitted : first.Permits permits host now) (coupled : pair.Coupled first second) :
    (second.step other now).1 = (first.step host now).1 ∧
      pair.Coupled (first.step host now).2 (second.step other now).2 ∧
      second.report other now = first.report host now := by
  obtain ⟨same, sound, also⟩ := coupled
  obtain ⟨after, point, moves⟩ := lockstep.tick permitted same
  obtain ⟨ended, left⟩ := Interpreter.tick_step host now sound
  obtain ⟨stopped, right⟩ := Interpreter.tick_step other now also
  obtain ⟨_, _, next, _⟩ := Interpreter.step_ends host now sound
  obtain ⟨_, _, following, _⟩ := Interpreter.step_ends other now also
  rw [left, right] at after
  rw [ended, stopped] at point
  have outcome := Tick.Point.ended.inj point
  refine ⟨outcome, ⟨after, next, following⟩, ?_⟩
  simp only [Interpreter.report, outcome, moves]

theorem run (lockstep : pair.Lockstep host other permits) {now : Time} (limit : Nat)
    (permitted : ∀ stop ∈ first.runStops host now limit, stop.Permits permits host now)
    (coupled : pair.Coupled first second) :
    (second.runToCompletion other now limit).1 = (first.runToCompletion host now limit).1 ∧
      pair.Coupled (first.runToCompletion host now limit).2
        (second.runToCompletion other now limit).2 ∧
      second.runReports other now limit = first.runReports host now limit ∧
      ∀ later ∈ second.runStops other now limit,
        ∃ earlier ∈ first.runStops host now limit, pair.Coupled earlier later := by
  induction limit generalizing first second with
  | zero => exact ⟨rfl, coupled, rfl, List.forall_mem_nil _⟩
  | succ limit ih =>
    obtain ⟨_, finished⟩ := lockstep.isFinished coupled.same
    unfold Interpreter.runStops at permitted
    simp only [Interpreter.runToCompletion, Interpreter.runReports, Interpreter.runStops, finished]
    cases done : first.isFinished with
    | true => exact ⟨rfl, coupled, rfl, List.forall_mem_nil _⟩
    | false =>
      simp only [done, Bool.false_eq_true, if_false] at permitted ⊢
      have here : first.Permits permits host now := by
        apply permitted
        split <;> exact List.mem_cons_self
      obtain ⟨outcome, next, report⟩ := lockstep.step here coupled
      rw [report]
      generalize first.step host now = left at outcome next permitted ⊢
      generalize second.step other now = right at outcome next ⊢
      obtain ⟨answer, left⟩ := left
      obtain ⟨_, right⟩ := right
      cases outcome
      have single : ∀ later ∈ [second], ∃ earlier ∈ [first], pair.Coupled earlier later :=
        List.forall_mem_singleton.mpr ⟨first, List.mem_singleton_self _, coupled⟩
      cases answer with
      | error fault => exact ⟨rfl, next, rfl, single⟩
      | ok result =>
        cases result with
        | finished => exact ⟨rfl, next, rfl, single⟩
        | stillRunning | completed =>
          obtain ⟨counted, last, reports, stops⟩ :=
            ih (fun stop member => permitted stop (List.mem_cons_of_mem _ member)) next
          refine ⟨congrArg (Except.map (· + 1)) counted, last, congrArg _ reports,
            List.forall_mem_cons.mpr ⟨?_, ?_⟩⟩
          · exact ⟨first, List.mem_cons_self, coupled⟩
          · intro later member
            obtain ⟨earlier, there, coupled⟩ := stops later member
            exact ⟨earlier, List.mem_cons_of_mem _ there, coupled⟩

end Steps

section Session

variable {host : Host (Builtin ⊕ η) σ ω} {other : Host (Builtin ⊕ η) τ ψ}
  {permits : Time → Tick (Builtin ⊕ η) σ ω → Prop}
  {first : Interpreter (Builtin ⊕ η) σ ω} {second : Interpreter (Builtin ⊕ η) τ ψ}

/-- An expression has the same value on both sides. -/
theorem evaluate (lockstep : pair.Lockstep host other permits) (now : Time) (expr : Expr)
    (coupled : pair.Coupled first second) :
    (second.evaluate other now expr).1 = (first.evaluate host now expr).1 ∧
      pair.Coupled (first.evaluate host now expr).2 (second.evaluate other now expr).2 := by
  obtain ⟨⟨kept, t, relates, rfl⟩, sound, also⟩ := coupled
  obtain ⟨outcome, s, t, left, right, relates⟩ :=
    Setting.eval_alike (lockstep.parallel first.registry now) expr (.anything _) relates
  simp only [Interpreter.evaluate, Interpreter.setting, Pairing.second, left, right, true_and]
  exact ⟨⟨kept, t, relates, rfl⟩, ⟨sound.within, sound.aligned⟩, ⟨also.within, also.aligned⟩⟩

theorem perform (lockstep : pair.Lockstep host other permits) {action : Action η ω}
    {beside : Action η ψ} (paired : pair.Beside action beside)
    (permitted : ∀ stop ∈ first.stopsOf host action, stop.2.Permits permits host stop.1)
    (coupled : pair.Coupled first second) :
    pair.Coupled (first.perform host action) (second.perform other beside) ∧
      second.reports other beside = first.reports host action ∧
      ∀ later ∈ second.stopsOf other beside, ∃ earlier ∈ first.stopsOf host action,
        pair.Alongside earlier later := by
  have registered (registry : Registry (Builtin ⊕ η)) :
      pair.Coupled { first with registry } { second with registry } := by
    obtain ⟨⟨kept, t, relates, rfl⟩, sound, also⟩ := coupled
    exact ⟨⟨kept, t, relates, rfl⟩, ⟨sound.within, sound.aligned⟩, ⟨also.within, also.aligned⟩⟩
  have registry : second.registry = first.registry := by
    obtain ⟨⟨_, _, _, rfl⟩, _, _⟩ := coupled
    rfl
  cases paired with
  | step now =>
    obtain ⟨_, next, report⟩ := lockstep.step (permitted _ (List.mem_singleton_self _)) coupled
    refine ⟨next, congrArg (fun report => [report]) report, ?_⟩
    exact List.forall_mem_singleton.mpr ⟨_, List.mem_singleton_self _, rfl, coupled⟩
  | runToCompletion now limit =>
    obtain ⟨_, next, reports, stops⟩ := lockstep.run limit
      (fun stop member => permitted (now, stop) (List.mem_map_of_mem member)) coupled
    refine ⟨next, reports, List.forall_mem_map.mpr fun later member => ?_⟩
    obtain ⟨earlier, there, coupled⟩ := stops later member
    exact ⟨(now, earlier), List.mem_map_of_mem there, rfl, coupled⟩
  | evaluate now expr => exact ⟨(lockstep.evaluate now expr coupled).2, rfl, nofun⟩
  | register name handler =>
    simp only [Interpreter.perform, registry]
    exact ⟨registered _, rfl, nofun⟩
  | extend extra =>
    simp only [Interpreter.perform, registry]
    exact ⟨registered _, rfl, nofun⟩
  | reset =>
    simp only [Interpreter.perform, Interpreter.resetCommands, registry]
    exact ⟨registered _, rfl, nofun⟩
  | disturb preserves =>
    obtain ⟨⟨kept, t, relates, rfl⟩, sound, also⟩ := coupled
    exact ⟨⟨⟨kept, _, preserves relates, rfl⟩, ⟨sound.within, sound.aligned⟩,
      ⟨also.within, also.aligned⟩⟩, rfl, nofun⟩

/-- Two sessions make the same steps, from interpreters that match, and leave matching ones. -/
theorem session (lockstep : pair.Lockstep host other permits) {actions : List (Action η ω)}
    {others : List (Action η ψ)} (paired : List.Forall₂ pair.Beside actions others)
    (permitted : ∀ stop ∈ first.stops host actions, stop.2.Permits permits host stop.1)
    (coupled : pair.Coupled first second) :
    pair.Coupled (first.after host actions) (second.after other others) ∧
      second.history other others = first.history host actions ∧
      ∀ later ∈ second.stops other others, ∃ earlier ∈ first.stops host actions,
        pair.Alongside earlier later := by
  induction paired generalizing first second with
  | nil => exact ⟨coupled, rfl, nofun⟩
  | cons head tail ih =>
    obtain ⟨here, following⟩ := List.forall_mem_append.mp permitted
    obtain ⟨next, reports, stops⟩ := lockstep.perform head here coupled
    obtain ⟨last, history, others⟩ := ih following next
    refine ⟨last, congrArg₂ (· ++ ·) reports history, List.forall_mem_append.mpr ⟨?_, ?_⟩⟩
    · intro later member
      obtain ⟨earlier, there, alongside⟩ := stops later member
      exact ⟨earlier, List.mem_append_left _ there, alongside⟩
    · intro later member
      obtain ⟨earlier, there, alongside⟩ := others later member
      exact ⟨earlier, List.mem_append_right _ there, alongside⟩

end Session

end Lockstep
end Pairing
end TickScript
