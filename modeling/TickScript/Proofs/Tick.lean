import TickScript.Interpreter

/-! A step as a loop. Each round of the loop concerns the command at one index:
it is passed over, refused, started or resumed, and the interpreter's cursor and
slot are written as that happens. The loop lists what it did, and it ends where
the step ends. -/
namespace TickScript

/-- What a step does with the command at an index. -/
inductive Move
  | skipped (index : Nat)
  | refused (index : Nat) (fault : Fault)
  | started (index : Nat)
  | resumed (index : Nat) (answer : Except Fault Resume)
  /-- Nothing is in flight that could be resumed. -/
  | vacant

inductive Fate
  | completed (value : Value)
  | skipped
  | declined

def Move.fate? : Move → Option (Nat × Fate)
  | .skipped index => some (index, .skipped)
  | .resumed index (.ok .declined) => some (index, .declined)
  | .resumed index (.ok (.done value)) => some (index, .completed value)
  | _ => none

def Move.completes : Move → Bool
  | .resumed _ (.ok (.done _)) => true
  | _ => false

def Move.starts (index : Nat) : Move → Bool
  | .started other => other == index
  | _ => false

theorem Move.starts_iff {index : Nat} {move : Move} :
    move.starts index = true ↔ move = .started index := by
  cases move <;> simp [starts]

instance (index : Nat) (moves : List Move) : Decidable (.started index ∈ moves) :=
  decidable_of_iff (moves.any (Move.starts index) = true) (by simp [Move.starts_iff])

section Snoc

variable {α : Type} {items : List α} {item : α}

theorem pairwise_snoc {related : α → α → Prop}
    (before : items.Pairwise related) (last : ∀ earlier ∈ items, related earlier item) :
    (items ++ [item]).Pairwise related := by
  refine List.pairwise_append.mpr ⟨before, List.pairwise_singleton _ _, ?_⟩
  intro earlier member other same
  rw [List.mem_singleton.mp same]
  exact last earlier member

theorem forall_snoc {holds : α → Prop}
    (before : ∀ earlier ∈ items, holds earlier) (last : holds item) :
    ∀ other ∈ items ++ [item], holds other :=
  List.forall_mem_append.mpr ⟨before, List.forall_mem_singleton.mpr last⟩

theorem mem_of_mem_snoc {other : α} (member : other ∈ items ++ [item]) (different : item ≠ other) :
    other ∈ items := by
  rcases List.mem_append.mp member with earlier | last
  · exact earlier
  · exact absurd (List.mem_singleton.mp last).symm different

end Snoc

/-- A command is skipped just if its guard has a value that does not hold. -/
theorem Setting.begin_skips_iff {η σ ω : Type} (setting : Setting η σ ω) (command : Command)
    (scene : Scene ω) : (setting.begin command scene).1 = .ok none ↔
      (setting.evalGuard command.guard scene).1 = .ok false := by
  have entered (invocation : Invocation) (scene : Scene ω) :
      (setting.enter (.ok (some invocation), scene)).1 ≠ .ok none := by
    simp only [Setting.enter]
    split <;> simp
  cases command with
  | positional name args =>
    simp only [Setting.begin, Setting.prepare, Command.guard, Setting.evalGuard]
    refine iff_of_false ?_ (by simp)
    split
    · simp [Setting.enter]
    · exact entered _ _
  | keyword name args named guard binding =>
    simp only [Setting.begin, Setting.prepare, Command.guard]
    cases setting.evalGuard guard scene with
    | mk outcome scene =>
      cases outcome with
      | error fault => simp [Setting.enter]
      | ok holds =>
        cases holds with
        | false => simp [Setting.enter]
        | true =>
          refine iff_of_false ?_ (by simp)
          simp only
          split
          · simp [Setting.enter]
          · split
            · simp [Setting.enter]
            · exact entered _ _

/-- What is started has been invoked with what was prepared. -/
theorem Setting.enter_ok {η σ ω : Type} {setting : Setting η σ ω}
    {prepared : Except Fault (Option Invocation) × Scene ω} {suspension : σ} {after : Scene ω}
    (entered : setting.enter prepared = (.ok (some suspension), after)) :
    ∃ invocation middle, prepared = (.ok (some invocation), middle) ∧
      setting.invoke invocation middle = (.ok suspension, after) := by
  obtain ⟨outcome, middle⟩ := prepared
  cases outcome with
  | error fault => cases entered
  | ok invocation =>
    cases invocation with
    | none => cases entered
    | some invocation =>
      simp only [Setting.enter] at entered
      split at entered
      case h_1 => cases entered
      case h_2 started =>
        cases entered
        exact ⟨invocation, middle, rfl, started⟩

inductive Tick.Point
  /-- It looks for a command to start, from an index on. One may have been completed before. -/
  | seeking (index : Nat) (completed : Bool)
  | resuming
  | ended (outcome : Except Fault StepResult)

/-- A step under way: where it goes on, what has become of the interpreter, and the moves so far. -/
structure Tick (η σ ω : Type) where
  point : Tick.Point
  interp : Interpreter η σ ω
  moves : List Move := []

namespace Tick

variable {η σ ω : Type}

/-- The outcome of a step in which a command fails to start. After a completion a script error is
only noted. -/
def refusal (completed : Bool) (index : Nat) (scene : Scene ω) :
    Fault → Except Fault StepResult × Scene ω
  | .script error =>
    if completed then (.ok .completed, scene.note (.startFailed index error))
    else (.error (.script error), scene)
  | .breakdown cause => (.error (.breakdown cause), scene)

theorem refusal_names (completed : Bool) (index : Nat) (scene : Scene ω) (fault : Fault) :
    (refusal completed index scene fault).2.names = scene.names := by
  cases fault with
  | script error => cases completed <;> rfl
  | breakdown cause => rfl

def seek (host : Host η σ ω) (now : Time) (index : Nat) (completed : Bool) (tick : Tick η σ ω) :
    Tick η σ ω :=
  let interp := { tick.interp with cursor := some index }
  match interp.script.get? index with
  | none =>
    { point := .ended (.ok (if completed then .completed else .finished))
      interp := { interp with scene := interp.scene.note (.scriptComplete index) }
      moves := tick.moves }
  | some command =>
    match (interp.setting host now).begin command interp.scene with
    | (.error fault, scene) =>
      let (outcome, scene) := refusal completed index scene fault
      { point := .ended outcome
        interp := { interp with scene }
        moves := tick.moves ++ [.refused index fault] }
    | (.ok none, scene) =>
      { point := .seeking (index + 1) completed
        interp := { interp with scene := scene.note (.skipped index command.name) }
        moves := tick.moves ++ [.skipped index] }
    | (.ok (some suspension), scene) =>
      { point := if completed then .ended (.ok .completed) else .resuming
        interp := { interp with
          scene := scene.note (.started index command.name)
          inFlight := some ⟨suspension, command.binding⟩ }
        moves := tick.moves ++ [.started index] }

/-- Resumes what is in flight. A command that is done or declines leaves the slot empty. -/
def resume (host : Host η σ ω) (now : Time) (tick : Tick η σ ω) : Tick η σ ω :=
  let interp := tick.interp
  match interp.inFlight with
  | none => { tick with point := .ended (.ok .finished), moves := tick.moves ++ [.vacant] }
  | some flight =>
    let index := interp.cursor.getD 0
    match (interp.setting host now).resume flight.suspension interp.scene with
    | (.error fault, suspension, scene) =>
      { point := .ended (.error fault)
        interp := { interp with scene, inFlight := some { flight with suspension } }
        moves := tick.moves ++ [.resumed index (.error fault)] }
    | (.ok .unfinished, suspension, scene) =>
      { point := .ended (.ok .stillRunning)
        interp := { interp with scene, inFlight := some { flight with suspension } }
        moves := tick.moves ++ [.resumed index (.ok .unfinished)] }
    | (.ok .declined, _, scene) =>
      { point := .seeking (index + 1) false
        interp := { interp with scene := scene.note (.declined index), inFlight := none }
        moves := tick.moves ++ [.resumed index (.ok .declined)] }
    | (.ok (.done value), _, scene) =>
      { point := .seeking (index + 1) true
        interp := { interp with
          scene := (scene.note (.completed index value)).bind? flight.binding value
          inFlight := none }
        moves := tick.moves ++ [.resumed index (.ok (.done value))] }

def next (host : Host η σ ω) (now : Time) (tick : Tick η σ ω) : Tick η σ ω :=
  match tick.point with
  | .seeking index completed => tick.seek host now index completed
  | .resuming => tick.resume host now
  | .ended _ => tick

def rounds (host : Host η σ ω) (now : Time) : Nat → Tick η σ ω → Tick η σ ω
  | 0, tick => tick
  | count + 1, tick => rounds host now count (tick.next host now)

/-- What a round of the loop can do: where it goes on and what has become of the interpreter. -/
inductive Round (host : Host η σ ω) (now : Time) : Tick η σ ω → Tick η σ ω → Prop
  | exhausted {index completed interp moves} (beyond : interp.script.get? index = none) :
      Round host now ⟨.seeking index completed, interp, moves⟩
        ⟨.ended (.ok (if completed then .completed else .finished)),
          { interp with
            cursor := some index, scene := interp.scene.note (.scriptComplete index) }, moves⟩
  | refused {index completed interp moves command fault scene}
      (found : interp.script.get? index = some command)
      (failed : (interp.setting host now).begin command interp.scene = (.error fault, scene)) :
      Round host now ⟨.seeking index completed, interp, moves⟩
        ⟨.ended (refusal completed index scene fault).1,
          { interp with
            cursor := some index, scene := (refusal completed index scene fault).2 },
          moves ++ [.refused index fault]⟩
  | skipped {index completed interp moves command scene}
      (found : interp.script.get? index = some command)
      (unmet : (interp.setting host now).begin command interp.scene = (.ok none, scene)) :
      Round host now ⟨.seeking index completed, interp, moves⟩
        ⟨.seeking (index + 1) completed,
          { interp with cursor := some index, scene := scene.note (.skipped index command.name) },
          moves ++ [.skipped index]⟩
  | started {index completed interp moves command suspension scene}
      (found : interp.script.get? index = some command)
      (begun : (interp.setting host now).begin command interp.scene =
        (.ok (some suspension), scene)) :
      Round host now ⟨.seeking index completed, interp, moves⟩
        ⟨if completed then .ended (.ok .completed) else .resuming,
          { interp with
            cursor := some index, scene := scene.note (.started index command.name)
            inFlight := some ⟨suspension, command.binding⟩ },
          moves ++ [.started index]⟩
  | vacant {interp moves} (empty : interp.inFlight = none) :
      Round host now ⟨.resuming, interp, moves⟩
        ⟨.ended (.ok .finished), interp, moves ++ [.vacant]⟩
  | failed {interp moves flight fault suspension scene} (slot : interp.inFlight = some flight)
      (resumed : (interp.setting host now).resume flight.suspension interp.scene =
        (.error fault, suspension, scene)) :
      Round host now ⟨.resuming, interp, moves⟩
        ⟨.ended (.error fault), { interp with scene, inFlight := some { flight with suspension } },
          moves ++ [.resumed (interp.cursor.getD 0) (.error fault)]⟩
  | unfinished {interp moves flight suspension scene} (slot : interp.inFlight = some flight)
      (resumed : (interp.setting host now).resume flight.suspension interp.scene =
        (.ok .unfinished, suspension, scene)) :
      Round host now ⟨.resuming, interp, moves⟩
        ⟨.ended (.ok .stillRunning),
          { interp with scene, inFlight := some { flight with suspension } },
          moves ++ [.resumed (interp.cursor.getD 0) (.ok .unfinished)]⟩
  | declined {interp moves flight suspension scene} (slot : interp.inFlight = some flight)
      (resumed : (interp.setting host now).resume flight.suspension interp.scene =
        (.ok .declined, suspension, scene)) :
      Round host now ⟨.resuming, interp, moves⟩
        ⟨.seeking (interp.cursor.getD 0 + 1) false,
          { interp with
            scene := scene.note (.declined (interp.cursor.getD 0)), inFlight := none },
          moves ++ [.resumed (interp.cursor.getD 0) (.ok .declined)]⟩
  | done {interp moves flight value suspension scene} (slot : interp.inFlight = some flight)
      (resumed : (interp.setting host now).resume flight.suspension interp.scene =
        (.ok (.done value), suspension, scene)) :
      Round host now ⟨.resuming, interp, moves⟩
        ⟨.seeking (interp.cursor.getD 0 + 1) true,
          { interp with
            scene := (scene.note (.completed (interp.cursor.getD 0) value)).bind?
              flight.binding value
            inFlight := none },
          moves ++ [.resumed (interp.cursor.getD 0) (.ok (.done value))]⟩
  | still {outcome interp moves} :
      Round host now ⟨.ended outcome, interp, moves⟩ ⟨.ended outcome, interp, moves⟩

theorem next_round (host : Host η σ ω) (now : Time) (tick : Tick η σ ω) :
    Round host now tick (tick.next host now) := by
  obtain ⟨point, interp, moves⟩ := tick
  cases point with
  | ended outcome => exact .still
  | seeking index completed =>
    simp only [next, seek]
    cases found : interp.script.get? index with
    | none => exact .exhausted found
    | some command =>
      simp only [Interpreter.setting]
      generalize begun : (Setting.mk host interp.registry now).begin command interp.scene = result
      obtain ⟨outcome, scene⟩ := result
      cases outcome with
      | error fault => exact .refused found begun
      | ok started =>
        cases started with
        | none => exact .skipped found begun
        | some suspension => exact .started found begun
  | resuming =>
    simp only [next, resume]
    cases slot : interp.inFlight with
    | none => exact .vacant slot
    | some flight =>
      simp only [Interpreter.setting]
      generalize resumed :
        (Setting.mk host interp.registry now).resume flight.suspension interp.scene = result
      obtain ⟨outcome, suspension, scene⟩ := result
      cases outcome with
      | error fault => exact .failed slot resumed
      | ok answer =>
        cases answer with
        | unfinished => exact .unfinished slot resumed
        | declined => exact .declined slot resumed
        | done value => exact .done slot resumed

/-- What every round keeps, all rounds keep. -/
theorem rounds_preserves {host : Host η σ ω} {now : Time} {P : Tick η σ ω → Prop}
    (kept : ∀ {tick next}, Round host now tick next → P tick → P next) (count : Nat)
    {tick : Tick η σ ω} (initial : P tick) : P (tick.rounds host now count) := by
  induction count generalizing tick with
  | zero => exact initial
  | succ count ih => exact ih (kept (tick.next_round host now) initial)

theorem rounds_ended (host : Host η σ ω) (now : Time) (count : Nat)
    (outcome : Except Fault StepResult) (interp : Interpreter η σ ω) (moves : List Move) :
    rounds host now count ⟨.ended outcome, interp, moves⟩ = ⟨.ended outcome, interp, moves⟩ := by
  induction count with
  | zero => rfl
  | succ count ih => exact ih

theorem round_moves {host : Host η σ ω} {now : Time} {tick next : Tick η σ ω}
    (round : Round host now tick next) :
    next.moves = tick.moves ∨ ∃ move, next.moves = tick.moves ++ [move] := by
  cases round with
  | exhausted | still => exact .inl rfl
  | refused | skipped | started | vacant | failed | unfinished | declined | done =>
    exact .inr ⟨_, rfl⟩

theorem rounds_moves (host : Host η σ ω) (now : Time) (count : Nat) (tick : Tick η σ ω) :
    tick.moves <+: (tick.rounds host now count).moves := by
  apply rounds_preserves (P := fun later => tick.moves <+: later.moves)
  case kept =>
    intro middle next round before
    rcases round_moves round with same | ⟨move, one_more⟩
    · rw [same]
      exact before
    · rw [one_more]
      exact before.trans (List.prefix_append _ _)
  case initial => exact List.prefix_rfl

/-- Every new move is made in one of the rounds. -/
theorem rounds_made {host : Host η σ ω} {now : Time} {move : Move} (count : Nat)
    {tick : Tick η σ ω} (made : move ∈ (tick.rounds host now count).moves)
    (fresh : move ∉ tick.moves) : ∃ earlier later,
      tick.rounds host now count =
        ((tick.rounds host now earlier).next host now).rounds host now later ∧
      earlier < count ∧ ((tick.rounds host now earlier).next host now).moves =
        (tick.rounds host now earlier).moves ++ [move] := by
  induction count generalizing tick with
  | zero => exact absurd made fresh
  | succ count ih =>
    rw [rounds] at made
    by_cases already : move ∈ (tick.next host now).moves
    · refine ⟨0, count, rfl, Nat.succ_pos _, ?_⟩
      rcases round_moves (tick.next_round host now) with same | ⟨other, one_more⟩
      · rw [same] at already
        exact absurd already fresh
      · rw [one_more] at already
        rcases List.mem_append.mp already with earlier | last
        · exact absurd earlier fresh
        · cases List.mem_singleton.mp last
          exact one_more
    · obtain ⟨earlier, later, same, before, making⟩ := ih made already
      exact ⟨earlier + 1, later, same, Nat.succ_lt_succ before, making⟩

/-- The loop has ended where a landing is, and the rest of the interpreter is as before. -/
def Lands (interp : Interpreter η σ ω) (landing : Landing σ ω) (tick : Tick η σ ω) : Prop :=
  tick.point = .ended landing.outcome ∧
    tick.interp = { interp with
      scene := landing.scene, cursor := some landing.cursor, inFlight := landing.inFlight }

def landed (launch : Launch σ ω) : Landing σ ω :=
  match launch.outcome with
  | .ok inFlight => ⟨.ok .completed, launch.cursor, inFlight, launch.scene⟩
  | .error (.script error) =>
    ⟨.ok .completed, launch.cursor, none, launch.scene.note (.startFailed launch.cursor error)⟩
  | .error (.breakdown cause) => ⟨.error (.breakdown cause), launch.cursor, none, launch.scene⟩

theorem get?_of_drop_cons {script : Script} {index : Nat} {command : Command} {rest : List Command}
    (remaining : script.commands.drop index = command :: rest) :
    script.get? index = some command ∧ script.commands.drop (index + 1) = rest := by
  constructor
  · have head := congrArg List.head? remaining
    simpa only [Script.get?, List.head?_drop, List.head?_cons] using head
  · rw [List.drop_add_one_eq_tail_drop, remaining, List.tail_cons]

theorem get?_of_drop_nil {script : Script} {index : Nat}
    (remaining : script.commands.drop index = []) : script.get? index = none := by
  have head := congrArg List.head? remaining
  simpa only [Script.get?, List.head?_drop, List.head?_nil] using head

theorem drop_of_get? {script : Script} {index : Nat} {command : Command}
    (found : script.get? index = some command) :
    script.commands.drop index = command :: script.commands.drop (index + 1) := by
  obtain ⟨inside, same⟩ := List.getElem?_eq_some_iff.mp found
  rw [List.drop_eq_getElem_cons inside, same]

variable (host : Host η σ ω) (now : Time)

/-- After a completion the loop takes one round for each command it tries to start. -/
theorem rounds_launch (interp : Interpreter η σ ω) (rest : List Command) (index count : Nat)
    (remaining : interp.script.commands.drop index = rest) (enough : rest.length < count)
    (scene : Scene ω) (cursor : Option Nat) (moves : List Move) :
    Lands interp (landed ((interp.setting host now).launch rest index scene))
      (rounds host now count
        ⟨.seeking index true, { interp with scene, cursor, inFlight := none }, moves⟩) := by
  induction rest generalizing index count scene cursor moves with
  | nil =>
    obtain ⟨count, rfl⟩ := Nat.exists_eq_add_of_lt enough
    have ended := get?_of_drop_nil remaining
    simp only [rounds, next, seek, ended, Setting.launch, landed, if_true]
    rw [rounds_ended]
    exact ⟨rfl, rfl⟩
  | cons command rest ih =>
    obtain ⟨found, following⟩ := get?_of_drop_cons remaining
    obtain ⟨count, rfl⟩ := Nat.exists_eq_add_of_lt enough
    simp only [rounds, next, seek, found, Interpreter.setting, Setting.launch]
    cases (Setting.mk host interp.registry now).begin command scene with
    | mk outcome scene =>
      cases outcome with
      | error fault =>
        cases fault <;> simp only [refusal, rounds_ended, landed, if_true] <;> exact ⟨rfl, rfl⟩
      | ok started =>
        cases started with
        | none => exact ih (index + 1) _ following (by simp only [List.length_cons]; omega) _ _ _
        | some suspension =>
          simp only [rounds_ended, landed, if_true]
          exact ⟨rfl, rfl⟩

theorem rounds_settle (interp : Interpreter η σ ω) (flight : InFlight σ) (rest : List Command)
    (index count : Nat) (goOn : Scene ω → Landing σ ω)
    (following : interp.script.commands.drop (index + 1) = rest) (enough : rest.length < count)
    (goesOn : ∀ scene moves, Lands interp (goOn scene) (rounds host now count
      ⟨.seeking (index + 1) false,
        { interp with scene, cursor := some index, inFlight := none }, moves⟩))
    (scene : Scene ω) (moves : List Move) :
    Lands interp ((interp.setting host now).settle flight rest index goOn scene)
      (rounds host now (count + 1)
        ⟨.resuming, { interp with scene, cursor := some index, inFlight := some flight },
          moves⟩) := by
  simp only [rounds, next, resume, Option.getD_some, Interpreter.setting, Setting.settle]
  cases (Setting.mk host interp.registry now).resume flight.suspension scene with
  | mk outcome left =>
    obtain ⟨suspension, scene⟩ := left
    cases outcome with
    | error fault =>
      simp only [rounds_ended]
      exact ⟨rfl, rfl⟩
    | ok answer =>
      cases answer with
      | unfinished =>
        simp only [rounds_ended]
        exact ⟨rfl, rfl⟩
      | declined => exact goesOn _ _
      | done value =>
        exact rounds_launch host now interp rest (index + 1) count following enough _ _ _

/-- Before a completion the loop takes two rounds for a command it starts, which it resumes at
once. -/
theorem rounds_advance (interp : Interpreter η σ ω) (rest : List Command) (index count : Nat)
    (remaining : interp.script.commands.drop index = rest) (enough : 2 * rest.length < count)
    (scene : Scene ω) (cursor : Option Nat) (moves : List Move) :
    Lands interp ((interp.setting host now).advance rest index scene)
      (rounds host now count
        ⟨.seeking index false, { interp with scene, cursor, inFlight := none }, moves⟩) := by
  induction rest generalizing index count scene cursor moves with
  | nil =>
    obtain ⟨count, rfl⟩ := Nat.exists_eq_add_of_lt enough
    have ended := get?_of_drop_nil remaining
    simp only [rounds, next, seek, ended, Setting.advance]
    rw [rounds_ended]
    exact ⟨rfl, rfl⟩
  | cons command rest ih =>
    obtain ⟨found, following⟩ := get?_of_drop_cons remaining
    simp only [List.length_cons] at enough
    obtain ⟨count, rfl⟩ : ∃ fewer, count = fewer + 1 + 1 := ⟨count - 2, by omega⟩
    rw [rounds]
    simp only [next, seek, found, Interpreter.setting, Setting.advance]
    cases (Setting.mk host interp.registry now).begin command scene with
    | mk outcome scene =>
      cases outcome with
      | error fault =>
        cases fault <;> simp only [refusal, rounds_ended, Bool.false_eq_true, if_false] <;>
          exact ⟨rfl, rfl⟩
      | ok started =>
        cases started with
        | none => exact ih (index + 1) _ following (by omega) _ _ _
        | some suspension =>
          exact rounds_settle host now interp ⟨suspension, command.binding⟩ rest index count _
            following (by omega) (fun _ _ => ih (index + 1) _ following (by omega) _ _ _) _ _

end Tick

namespace Interpreter

variable {η σ ω : Type}

/-- The cursor lies in the script, and what is in flight is the command at the cursor. -/
structure Sound (interp : Interpreter η σ ω) : Prop where
  within : ∀ index, interp.cursor = some index → index ≤ interp.script.size
  aligned : ∀ flight, interp.inFlight = some flight → ∃ index command,
    interp.cursor = some index ∧ interp.script.get? index = some command ∧
      flight.binding = command.binding

/-- The loop of a step as it begins: it resumes what is in flight, or looks for a command from the
cursor on. -/
def entry (interp : Interpreter η σ ω) : Tick η σ ω where
  point := if interp.inFlight.isSome then .resuming else .seeking (interp.cursor.getD 0) false
  interp := interp

/-- A step with its moves. No step takes more rounds than these. -/
def tick (host : Host η σ ω) (now : Time) (interp : Interpreter η σ ω) : Tick η σ ω :=
  if interp.isFinished then { point := .ended (.ok .finished), interp }
  else interp.entry.rounds host now (2 * interp.script.size + 1)

theorem cursor_lt_of_not_finished {interp : Interpreter η σ ω} {index : Nat}
    (unfinished : interp.isFinished = false) (here : interp.cursor = some index) :
    index < interp.script.size := by
  simpa [isFinished, here] using unfinished

/-- The loop ends as the step does, with the same interpreter. -/
theorem tick_step (host : Host η σ ω) (now : Time) {interp : Interpreter η σ ω}
    (sound : interp.Sound) :
    (interp.tick host now).point = .ended (interp.step host now).1 ∧
      (interp.tick host now).interp = (interp.step host now).2 := by
  unfold tick step
  cases finished : interp.isFinished with
  | true => exact ⟨rfl, rfl⟩
  | false =>
    simp only [Bool.false_eq_true, if_false]
    change Tick.Lands interp (interp.landing host now) _
    cases slot : interp.inFlight with
    | none =>
      have lands := Tick.rounds_advance host now interp _ (interp.cursor.getD 0)
        (2 * interp.script.size + 1) rfl
        (by simp only [List.length_drop, Script.size]; omega) interp.scene interp.cursor []
      obtain ⟨script, registry, scene, cursor, inFlight⟩ := interp
      subst slot
      exact lands
    | some flight =>
      -- The running step takes the index from the cursor, the loop from what is in flight.
      obtain ⟨index, command, here, found, _⟩ := sound.aligned flight slot
      have inside := cursor_lt_of_not_finished finished here
      have lands := Tick.rounds_settle host now interp flight _ index
        (2 * interp.script.size) _ rfl
        (by simp only [List.length_drop, Script.size] at inside ⊢; omega)
        (fun scene moves => Tick.rounds_advance host now interp _ (index + 1) _ rfl
          (by simp only [List.length_drop, Script.size] at inside ⊢; omega) scene _ moves)
        interp.scene []
      obtain ⟨script, registry, scene, cursor, inFlight⟩ := interp
      subst slot here
      exact lands

end Interpreter
end TickScript
