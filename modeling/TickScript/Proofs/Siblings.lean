import TickScript.Proofs.Errands

/-! The expressions directly below a command. They are evaluated one after the other, and each
starts from the scene that the ones before it leave, so a name sees what a command before it has
bound and nothing that a command after it binds. -/
namespace TickScript

variable {η σ ω : Type}

namespace Command

/-- The guard, the arguments and the named arguments, in the order of their evaluation. -/
def siblings (command : Command) : List Expr :=
  command.guard.toList ++ command.args ++ command.named.map Prod.snd

def invocation (command : Command) (args named : List Value) : Invocation where
  name := command.name
  args := args
  named := Table.ofList ((command.named.map Prod.fst).zip named)

end Command

theorem Namespace.resolve_bound {names : Namespace} {text : String} {value : Value}
    (bound : names.get? (asked text) = some value) : names.resolve text = .ok value := by
  grind [Namespace.asked, Namespace.resolve]

namespace Setting

section Sequence

variable {α β : Type} {scene left : Scene ω} {result : Except Fault α × Scene ω}
  {next : α → Scene ω → Except Fault β × Scene ω}

/-- What comes after something that may fail: nothing if it does. -/
def andThen (result : Except Fault α × Scene ω) (next : α → Scene ω → Except Fault β × Scene ω) :
    Except Fault β × Scene ω :=
  match result with
  | (.error fault, scene) => (.error fault, scene)
  | (.ok value, scene) => next value scene

theorem andThen_ok {last : β} (ends : andThen result next = (.ok last, left)) :
    ∃ value middle, result = (.ok value, middle) ∧ next value middle = (.ok last, left) := by
  obtain ⟨outcome, middle⟩ := result
  cases outcome with
  | error fault => cases ends
  | ok value => exact ⟨value, middle, rfl, ends⟩

end Sequence

variable (setting : Setting η σ ω)

theorem eval_name_ok {setting : Setting η σ ω} {text : String} {value : Value}
    {scene left : Scene ω} (ends : setting.eval (.name text) scene = (.ok value, left)) :
    scene.names.resolve text = .ok value := by
  simp only [eval] at ends
  generalize scene.names.resolve text = result at ends ⊢
  cases result <;> cases ends
  rfl

theorem evalAll_cons (expr : Expr) (rest : List Expr) (scene : Scene ω) :
    setting.evalAll (expr :: rest) scene =
      andThen (setting.eval expr scene) fun value middle =>
        andThen (setting.evalAll rest middle) fun values left => (.ok (value :: values), left) := by
  simp only [evalAll]
  obtain ⟨fault | value, middle⟩ := setting.eval expr scene
  · rfl
  · simp only [andThen]
    obtain ⟨fault | values, left⟩ := setting.evalAll rest middle <;> rfl

theorem evalNamed_cons (entry : String × Expr) (rest : List (String × Expr)) (scene : Scene ω) :
    setting.evalNamed (entry :: rest) scene =
      andThen (setting.eval entry.2 scene) fun value middle =>
        andThen (setting.evalNamed rest middle) fun entries left =>
          (.ok ((entry.1, value) :: entries), left) := by
  simp only [evalNamed]
  obtain ⟨fault | value, middle⟩ := setting.eval entry.2 scene
  · rfl
  · simp only [andThen]
    obtain ⟨fault | entries, left⟩ := setting.evalNamed rest middle <;> rfl

theorem evalGuard_some (guard : Expr) (scene : Scene ω) :
    setting.evalGuard (some guard) scene =
      andThen (setting.eval guard scene) fun value left => (.ok value.holds, left) := by
  simp only [evalGuard]
  obtain ⟨fault | value, left⟩ := setting.eval guard scene <;> rfl

/-- Both forms of commands are prepared alike. -/
theorem prepare_eq (command : Command) (scene : Scene ω) :
    setting.prepare command scene =
      andThen (setting.evalGuard command.guard scene) fun holds guarded =>
        if holds then
          andThen (setting.evalAll command.args guarded) fun args middle =>
            andThen (setting.evalNamed command.named middle) fun entries left =>
              (.ok (some ⟨command.name, args, Table.ofList entries⟩), left)
        else (.ok none, guarded) := by
  cases command with
  | positional name args =>
    simp only [prepare, Command.guard, Command.args, Command.named, evalGuard, evalNamed, andThen,
      if_true]
    obtain ⟨fault | values, middle⟩ := setting.evalAll args scene <;> rfl
  | keyword name args named guard binding =>
    simp only [prepare, Command.guard, Command.args, Command.named]
    obtain ⟨fault | _ | _, guarded⟩ := setting.evalGuard guard scene
    · rfl
    · rfl
    · simp only [andThen, if_true]
      obtain ⟨fault | values, middle⟩ := setting.evalAll args guarded
      · rfl
      · simp only
        obtain ⟨fault | entries, left⟩ := setting.evalNamed named middle <;> rfl

/-- A nested command is prepared, started and finished, one after the other. -/
theorem eval_call_eq (command : Command) (scene : Scene ω) :
    setting.eval (.call command) scene =
      andThen (setting.prepare command scene) fun
        | none, ready => (.ok .null, ready)
        | some invocation, ready =>
          andThen (setting.invoke invocation ready) fun suspension started =>
            setting.finishNested command suspension started := by
  simp only [eval]
  obtain ⟨fault | invocation | invocation, ready⟩ := setting.prepare command scene
  · rfl
  · rfl
  · simp only [enter, andThen]
    obtain ⟨fault | suspension, started⟩ := setting.invoke invocation ready <;> rfl

section Threading

variable {setting} {first rest : List Expr} {scene middle left : Scene ω} {values : List Value}

theorem evalAll_cons_ok {expr : Expr}
    (ends : setting.evalAll (expr :: rest) scene = (.ok values, left)) :
    ∃ value middle others, setting.eval expr scene = (.ok value, middle) ∧
      setting.evalAll rest middle = (.ok others, left) ∧ values = value :: others := by
  rw [evalAll_cons] at ends
  obtain ⟨value, middle, here, ends⟩ := andThen_ok ends
  obtain ⟨others, last, there, same⟩ := andThen_ok ends
  cases same
  exact ⟨value, middle, others, here, there, rfl⟩

theorem evalAll_length {exprs : List Expr}
    (ends : setting.evalAll exprs scene = (.ok values, left)) : values.length = exprs.length := by
  induction exprs generalizing scene values with
  | nil =>
    cases ends
    rfl
  | cons expr rest ih =>
    obtain ⟨value, middle, others, -, there, rfl⟩ := evalAll_cons_ok ends
    exact congrArg Nat.succ (ih there)

theorem evalAll_append_ok (ends : setting.evalAll (first ++ rest) scene = (.ok values, left)) :
    ∃ front middle back, setting.evalAll first scene = (.ok front, middle) ∧
      setting.evalAll rest middle = (.ok back, left) ∧ values = front ++ back := by
  induction first generalizing scene values with
  | nil => exact ⟨[], scene, values, rfl, ends, rfl⟩
  | cons expr first ih =>
    obtain ⟨value, between, others, here, there, rfl⟩ := evalAll_cons_ok ends
    obtain ⟨front, middle, back, begins, follows, rfl⟩ := ih there
    refine ⟨value :: front, middle, back, ?_, follows, rfl⟩
    rw [evalAll_cons, here]
    simp only [andThen, begins]

theorem evalAll_append {front back : List Value}
    (here : setting.evalAll first scene = (.ok front, middle))
    (there : setting.evalAll rest middle = (.ok back, left)) :
    setting.evalAll (first ++ rest) scene = (.ok (front ++ back), left) := by
  induction first generalizing scene front with
  | nil =>
    cases here
    exact there
  | cons expr first ih =>
    obtain ⟨value, between, others, begins, follows, rfl⟩ := evalAll_cons_ok here
    rw [List.cons_append, evalAll_cons, begins]
    simp only [andThen, ih follows, List.cons_append]

/-- Expressions bind none but the names of the commands within them. -/
theorem evalAll_frame {exprs : List Expr} {name : String}
    (ends : setting.evalAll exprs scene = (.ok values, left))
    (unbound : ∀ expr ∈ exprs, name ∉ expr.bindings) :
    left.names.get? name = scene.names.get? name := by
  induction exprs generalizing scene values with
  | nil =>
    cases ends
    rfl
  | cons expr rest ih =>
    obtain ⟨here, there⟩ := List.forall_mem_cons.mp unbound
    obtain ⟨value, middle, others, begins, follows, rfl⟩ := evalAll_cons_ok ends
    have frame := (setting.eval_extends expr scene).frame name here
    rw [begins] at frame
    exact (ih follows there).trans frame

/-- The guard as the first of the siblings. -/
theorem evalGuard_siblings {guard : Option Expr} {holds : Bool}
    (ends : setting.evalGuard guard scene = (.ok holds, left)) :
    ∃ guards, setting.evalAll guard.toList scene = (.ok guards, left) ∧
      guards.all Value.holds = holds := by
  cases guard with
  | none =>
    cases ends
    exact ⟨[], rfl, rfl⟩
  | some expr =>
    rw [evalGuard_some] at ends
    obtain ⟨value, middle, here, same⟩ := andThen_ok ends
    cases same
    refine ⟨[value], ?_, Bool.and_true _⟩
    rw [Option.toList_some, evalAll_cons, here]
    rfl

/-- The named arguments as the last of the siblings. -/
theorem evalNamed_siblings {named : List (String × Expr)} {entries : List (String × Value)}
    (ends : setting.evalNamed named scene = (.ok entries, left)) :
    ∃ values, setting.evalAll (named.map Prod.snd) scene = (.ok values, left) ∧
      entries = (named.map Prod.fst).zip values := by
  induction named generalizing scene entries with
  | nil =>
    cases ends
    exact ⟨[], rfl, rfl⟩
  | cons entry rest ih =>
    rw [evalNamed_cons] at ends
    obtain ⟨value, middle, here, ends⟩ := andThen_ok ends
    obtain ⟨others, last, there, same⟩ := andThen_ok ends
    cases same
    obtain ⟨values, follows, rfl⟩ := ih there
    refine ⟨value :: values, ?_, rfl⟩
    rw [List.map_cons, evalAll_cons, here]
    simp only [andThen, follows]

end Threading

section Visibility

variable {setting} {command : Command} {scene left : Scene ω}

/-- A command that is prepared has evaluated its siblings. -/
theorem prepare_siblings {invocation : Invocation}
    (ends : setting.prepare command scene = (.ok (some invocation), left)) :
    ∃ guards args named, guards.length = command.guard.toList.length ∧
      args.length = command.args.length ∧ guards.all Value.holds = true ∧
        setting.evalAll command.siblings scene = (.ok (guards ++ args ++ named), left) ∧
          invocation = command.invocation args named := by
  rw [prepare_eq] at ends
  obtain ⟨holds, guarded, guard, ends⟩ := andThen_ok ends
  cases holds with
  | false => cases ends
  | true =>
    obtain ⟨args, middle, positional, ends⟩ := andThen_ok ends
    obtain ⟨entries, last, keyed, same⟩ := andThen_ok ends
    cases same
    obtain ⟨guards, first, hold⟩ := evalGuard_siblings guard
    obtain ⟨named, third, rfl⟩ := evalNamed_siblings keyed
    exact ⟨guards, args, named, evalAll_length first, evalAll_length positional, hold,
      evalAll_append (evalAll_append first positional) third, rfl⟩

theorem prepare_none (ends : setting.prepare command scene = (.ok none, left)) :
    setting.evalGuard command.guard scene = (.ok false, left) := by
  rw [prepare_eq] at ends
  obtain ⟨holds, guarded, guard, ends⟩ := andThen_ok ends
  cases holds with
  | false =>
    cases ends
    exact guard
  | true =>
    obtain ⟨args, middle, -, ends⟩ := andThen_ok ends
    obtain ⟨entries, last, -, same⟩ := andThen_ok ends
    cases same

theorem finishNested_binds {suspension : σ} {value : Value} {name : String}
    (ends : setting.finishNested command suspension scene = (.ok value, left))
    (binding : command.binding = some name) : left.names.get? name = some value := by
  have bound (scene : Scene ω) :
      (scene.bind? command.binding value).names.get? name = some value := by
    rw [binding, Scene.bind?, Scene.bind, Table.get?_insert, if_pos rfl]
  simp only [finishNested] at ends
  generalize setting.resume suspension scene = result at ends
  obtain ⟨fault | answer, suspension, resumed⟩ := result
  · cases ends
  · cases answer with
    | unfinished => cases ends
    | declined | done =>
      cases ends
      exact bound resumed

/-- A command that has a value has bound it, unless its guard does not hold. -/
theorem eval_binds {value : Value} {name : String}
    (ends : setting.eval (.call command) scene = (.ok value, left))
    (binding : command.binding = some name) :
    left.names.get? name = some value ∨
      (setting.evalGuard command.guard scene).1 = .ok false := by
  rw [eval_call_eq] at ends
  obtain ⟨invocation, ready, prepared, ends⟩ := andThen_ok ends
  cases invocation with
  | none => exact .inr (congrArg Prod.fst (prepare_none prepared))
  | some invocation =>
    obtain ⟨suspension, started, -, ends⟩ := andThen_ok ends
    exact .inl (finishNested_binds ends binding)

/-- A name after a command stands for the value that the command has bound, unless the guard of the
command does not hold or something in between binds the name again. -/
theorem name_sees {front between behind : List Expr} {text : String} {values : List Value}
    (ends : setting.evalAll (front ++ .call command :: (between ++ .name text :: behind)) scene =
      (.ok values, left))
    (binding : command.binding = some (Namespace.asked text))
    (unbound : ∀ expr ∈ between, Namespace.asked text ∉ expr.bindings) :
    values[front.length + (between.length + 1)]? = values[front.length]? ∨
      (setting.evalGuard command.guard (setting.evalAll front scene).2).1 = .ok false := by
  obtain ⟨before, middle, _, first, rest, rfl⟩ := evalAll_append_ok ends
  obtain ⟨value, called, _, here, following, rfl⟩ := evalAll_cons_ok rest
  obtain ⟨others, later, _, next, there, rfl⟩ := evalAll_append_ok following
  obtain ⟨seen, _, after, name, -, rfl⟩ := evalAll_cons_ok there
  rw [first]
  refine (eval_binds here binding).imp_left fun bound => ?_
  have kept : later.names.get? (Namespace.asked text) = some value :=
    (evalAll_frame next unbound).trans bound
  cases (Namespace.resolve_bound kept).symm.trans (eval_name_ok name)
  rw [← evalAll_length first, ← evalAll_length next]
  simp only [List.getElem?_append_right, Nat.le_add_right, Nat.add_sub_cancel_left, Nat.le_refl,
    Nat.sub_self, List.getElem?_cons_succ, List.getElem?_cons_zero]

/-- A name stands for what it stands for in the scene before the first of its siblings, unless one
before it binds the name. What comes after it does not matter. -/
theorem name_misses {front behind : List Expr} {text : String} {values : List Value}
    (ends : setting.evalAll (front ++ .name text :: behind) scene = (.ok values, left))
    (unbound : ∀ expr ∈ front, Namespace.asked text ∉ expr.bindings) :
    ∃ value, scene.names.resolve text = .ok value ∧ values[front.length]? = some value := by
  obtain ⟨before, middle, _, first, rest, rfl⟩ := evalAll_append_ok ends
  obtain ⟨value, _, after, name, -, rfl⟩ := evalAll_cons_ok rest
  have same := Namespace.resolve_congr (evalAll_frame first unbound)
  refine ⟨value, same.symm.trans (eval_name_ok name), ?_⟩
  rw [← evalAll_length first, List.getElem?_append_right (Nat.le_refl _), Nat.sub_self,
    List.getElem?_cons_zero]

end Visibility

end Setting

end TickScript
