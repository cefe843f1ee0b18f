import TickScript.Builtin.Host

/-! Two evaluations side by side. If a relation between scenes is kept by every start
and every resume of a command and by every binding within an expression, then the
expression has the same outcome on both sides and leaves related scenes. -/
namespace TickScript

/-- The name whose value a name in the place of an argument stands for, if it is bound. -/
def Namespace.asked (text : String) : String :=
  match text.toList with
  | '$' :: rest => String.ofList rest
  | _ => text

/-- What a name stands for depends on the one binding it asks for. -/
theorem Namespace.resolve_congr {names others : Namespace} {text : String}
    (same : names.get? (asked text) = others.get? (asked text)) :
    names.resolve text = others.resolve text := by
  grind [Namespace.asked, Namespace.resolve]

mutual

/-- The expressions within a command, nested ones included, in the order in which they are met. -/
def Command.exprs : Command → List Expr
  | .positional _ args => Expr.withinAll args
  | .keyword _ args named guard _ =>
    Expr.withinGuard guard ++ (Expr.withinAll args ++ Expr.withinNamed named)

def Expr.within : Expr → List Expr
  | .lit value => [.lit value]
  | .name name => [.name name]
  | .call command => .call command :: command.exprs

def Expr.withinAll : List Expr → List Expr
  | [] => []
  | expr :: rest => expr.within ++ Expr.withinAll rest

def Expr.withinNamed : List (String × Expr) → List Expr
  | [] => []
  | (_, expr) :: rest => expr.within ++ Expr.withinNamed rest

def Expr.withinGuard : Option Expr → List Expr
  | none => []
  | some expr => expr.within

end

def Expr.read? : Expr → Option String
  | .name text => some (Namespace.asked text)
  | _ => none

def Expr.bound? : Expr → Option String
  | .call command => command.binding
  | _ => none

def Command.reads (command : Command) : List String := command.exprs.filterMap Expr.read?

def Command.nestedBindings (command : Command) : List String := command.exprs.filterMap Expr.bound?

def Confined (reads binds : String → Prop) (exprs : List Expr) : Prop :=
  ∀ expr ∈ exprs, (∀ name, expr.read? = some name → reads name) ∧
    ∀ name, expr.bound? = some name → binds name

namespace Confined

variable {reads binds : String → Prop} {exprs others : List Expr}

theorem append (confined : Confined reads binds (exprs ++ others)) :
    Confined reads binds exprs ∧ Confined reads binds others :=
  List.forall_mem_append.mp confined

theorem anything (exprs : List Expr) : Confined (fun _ => True) (fun _ => True) exprs :=
  fun _ _ => ⟨fun _ _ => trivial, fun _ _ => trivial⟩

theorem command {command : Command} (asked : ∀ name ∈ command.reads, reads name)
    (bound : ∀ name ∈ command.nestedBindings, binds name) :
    Confined reads binds command.exprs := by
  intro expr member
  constructor
  · intro name read
    exact asked name (List.mem_filterMap.mpr ⟨expr, member, read⟩)
  · intro name binding
    exact bound name (List.mem_filterMap.mpr ⟨expr, member, binding⟩)

end Confined

namespace Setting

variable {η θ σ τ ω ψ : Type}

/-- The same outcome on both sides, and related scenes. -/
def Alike {α : Type} (related : Scene ω → Scene ψ → Prop) (left : α × Scene ω)
    (right : α × Scene ψ) : Prop :=
  ∃ outcome s t, left = (outcome, s) ∧ right = (outcome, t) ∧ related s t

/-- Two settings whose commands keep a relation, as long as the names that are asked for and bound
are among the given ones. What the first one starts, the second one starts in another form. -/
structure Parallel (first : Setting η σ ω) (second : Setting θ τ ψ)
    (related : Scene ω → Scene ψ → Prop) (form : σ → τ) (reads binds : String → Prop) : Prop where
  read : ∀ {name s t}, related s t → reads name → s.names.get? name = t.names.get? name
  invoke : ∀ invocation {s t}, related s t → ∃ started s' t',
    first.invoke invocation s = (started, s') ∧
      second.invoke invocation t = (started.map form, t') ∧ related s' t'
  resume : ∀ suspension {s t}, related s t → ∃ outcome left s' t',
    first.resume suspension s = (outcome, left, s') ∧
      second.resume (form suspension) t = (outcome, form left, t') ∧ related s' t'
  bind : ∀ {name} value {s t}, related s t → binds name →
    related (s.bind name value) (t.bind name value)

variable {first : Setting η σ ω} {second : Setting θ τ ψ} {related : Scene ω → Scene ψ → Prop}
  {form : σ → τ} {reads binds : String → Prop}

theorem enter_alike (parallel : Parallel first second related form reads binds)
    {left : Except Fault (Option Invocation) × Scene ω}
    {right : Except Fault (Option Invocation) × Scene ψ} (alike : Alike related left right) :
    ∃ started s t, first.enter left = (started, s) ∧
      second.enter right = (started.map (Option.map form), t) ∧ related s t := by
  obtain ⟨outcome, s, t, rfl, rfl, relates⟩ := alike
  cases outcome with
  | error fault => exact ⟨_, s, t, rfl, rfl, relates⟩
  | ok prepared =>
    cases prepared with
    | none => exact ⟨_, s, t, rfl, rfl, relates⟩
    | some invocation =>
      obtain ⟨started, s, t, left, right, relates⟩ := parallel.invoke invocation relates
      simp only [enter, left, right]
      cases started <;> exact ⟨_, s, t, rfl, rfl, relates⟩

theorem finishNested_alike (parallel : Parallel first second related form reads binds)
    (command : Command) (suspension : σ) {s : Scene ω} {t : Scene ψ}
    (bound : ∀ name, command.binding = some name → binds name) (relates : related s t) :
    Alike related (first.finishNested command suspension s)
      (second.finishNested command (form suspension) t) := by
  have bind (value : Value) {s : Scene ω} {t : Scene ψ} (relates : related s t) :
      related (s.bind? command.binding value) (t.bind? command.binding value) := by
    cases binding : command.binding with
    | none => exact relates
    | some name => exact parallel.bind value relates (bound name binding)
  obtain ⟨outcome, _, s, t, left, right, relates⟩ := parallel.resume suspension relates
  simp only [finishNested, left, right]
  cases outcome with
  | error fault => exact ⟨_, s, t, rfl, rfl, relates⟩
  | ok answer =>
    cases answer with
    | unfinished => exact ⟨_, s, t, rfl, rfl, relates⟩
    | declined => exact ⟨_, _, _, rfl, rfl, bind .null relates⟩
    | done value => exact ⟨_, _, _, rfl, rfl, bind value relates⟩

mutual

theorem eval_alike (parallel : Parallel first second related form reads binds) (expr : Expr)
    (confined : Confined reads binds expr.within) {s : Scene ω}
    {t : Scene ψ} (relates : related s t) :
    Alike related (first.eval expr s) (second.eval expr t) := by
  cases expr with
  | lit value => exact ⟨_, s, t, rfl, rfl, relates⟩
  | name name =>
    have asked := (confined _ (List.mem_singleton_self _)).1 _ rfl
    have same := Namespace.resolve_congr (parallel.read relates asked)
    simp only [eval, same]
    cases t.names.resolve name <;> exact ⟨_, s, t, rfl, rfl, relates⟩
  | call command =>
    have bound := (confined (.call command) List.mem_cons_self).2
    have inner : Confined reads binds command.exprs :=
      fun expr member => confined expr (List.mem_cons_of_mem _ member)
    obtain ⟨outcome, s, t, left, right, relates⟩ :=
      enter_alike parallel (prepare_alike parallel command inner relates)
    simp only [eval, left, right]
    cases outcome with
    | error fault => exact ⟨_, s, t, rfl, rfl, relates⟩
    | ok started =>
      cases started with
      | none => exact ⟨_, s, t, rfl, rfl, relates⟩
      | some suspension => exact finishNested_alike parallel command suspension bound relates

theorem prepare_alike (parallel : Parallel first second related form reads binds)
    (command : Command) (confined : Confined reads binds command.exprs)
    {s : Scene ω} {t : Scene ψ} (relates : related s t) :
    Alike related (first.prepare command s) (second.prepare command t) := by
  cases command with
  | positional name args =>
    obtain ⟨outcome, s, t, left, right, relates⟩ := evalAll_alike parallel args confined relates
    simp only [prepare, left, right]
    cases outcome <;> exact ⟨_, s, t, rfl, rfl, relates⟩
  | keyword name args named guard binding =>
    obtain ⟨inGuard, confined⟩ := confined.append
    obtain ⟨inArgs, inNamed⟩ := confined.append
    obtain ⟨outcome, s, t, left, right, relates⟩ := evalGuard_alike parallel guard inGuard relates
    simp only [prepare, left, right]
    cases outcome with
    | error fault => exact ⟨_, s, t, rfl, rfl, relates⟩
    | ok holds =>
      cases holds with
      | false => exact ⟨_, s, t, rfl, rfl, relates⟩
      | true =>
        obtain ⟨outcome, s, t, left, right, relates⟩ := evalAll_alike parallel args inArgs relates
        simp only [left, right]
        cases outcome with
        | error fault => exact ⟨_, s, t, rfl, rfl, relates⟩
        | ok values =>
          obtain ⟨outcome, s, t, left, right, relates⟩ :=
            evalNamed_alike parallel named inNamed relates
          simp only [left, right]
          cases outcome <;> exact ⟨_, s, t, rfl, rfl, relates⟩

theorem evalGuard_alike (parallel : Parallel first second related form reads binds)
    (guard : Option Expr) (confined : Confined reads binds (Expr.withinGuard guard)) {s : Scene ω}
    {t : Scene ψ} (relates : related s t) :
    Alike related (first.evalGuard guard s) (second.evalGuard guard t) := by
  cases guard with
  | none => exact ⟨_, s, t, rfl, rfl, relates⟩
  | some guard =>
    obtain ⟨outcome, s, t, left, right, relates⟩ := eval_alike parallel guard confined relates
    simp only [evalGuard, left, right]
    cases outcome <;> exact ⟨_, s, t, rfl, rfl, relates⟩

theorem evalAll_alike (parallel : Parallel first second related form reads binds)
    (exprs : List Expr)
    (confined : Confined reads binds (Expr.withinAll exprs)) {s : Scene ω} {t : Scene ψ}
    (relates : related s t) :
    Alike related (first.evalAll exprs s) (second.evalAll exprs t) := by
  cases exprs with
  | nil => exact ⟨_, s, t, rfl, rfl, relates⟩
  | cons expr rest =>
    obtain ⟨inFirst, inRest⟩ := confined.append
    obtain ⟨outcome, s, t, left, right, relates⟩ := eval_alike parallel expr inFirst relates
    simp only [evalAll, left, right]
    cases outcome with
    | error fault => exact ⟨_, s, t, rfl, rfl, relates⟩
    | ok value =>
      obtain ⟨outcome, s, t, left, right, relates⟩ := evalAll_alike parallel rest inRest relates
      simp only [left, right]
      cases outcome <;> exact ⟨_, s, t, rfl, rfl, relates⟩

theorem evalNamed_alike (parallel : Parallel first second related form reads binds)
    (named : List (String × Expr))
    (confined : Confined reads binds (Expr.withinNamed named)) {s : Scene ω}
    {t : Scene ψ} (relates : related s t) :
    Alike related (first.evalNamed named s) (second.evalNamed named t) := by
  cases named with
  | nil => exact ⟨_, s, t, rfl, rfl, relates⟩
  | cons entry rest =>
    obtain ⟨name, expr⟩ := entry
    obtain ⟨inFirst, inRest⟩ := confined.append
    obtain ⟨outcome, s, t, left, right, relates⟩ := eval_alike parallel expr inFirst relates
    simp only [evalNamed, left, right]
    cases outcome with
    | error fault => exact ⟨_, s, t, rfl, rfl, relates⟩
    | ok value =>
      obtain ⟨outcome, s, t, left, right, relates⟩ := evalNamed_alike parallel rest inRest relates
      simp only [left, right]
      cases outcome <;> exact ⟨_, s, t, rfl, rfl, relates⟩

end

theorem begin_alike (parallel : Parallel first second related form reads binds)
    (command : Command) (confined : Confined reads binds command.exprs)
    {s : Scene ω} {t : Scene ψ} (relates : related s t) :
    ∃ started s' t', first.begin command s = (started, s') ∧
      second.begin command t = (started.map (Option.map form), t') ∧ related s' t' :=
  enter_alike parallel (prepare_alike parallel command confined relates)

/-- A setting goes on alike in scenes with the same names and worlds, whatever else relates them, if
what is noted and bound on both sides leaves them related. -/
theorem parallel_self (setting : Setting η σ ω) {related : Scene ω → Scene ω → Prop}
    (read : ∀ {s t}, related s t → t.names = s.names ∧ t.world = s.world)
    (note : ∀ world events {s t}, related s t →
      related ({ s with world }.noteAll events) ({ t with world }.noteAll events))
    (bind : ∀ name value {s t}, related s t →
      related (s.bind name value) (t.bind name value)) :
    Parallel setting setting related id (fun _ => True) (fun _ => True) where
  read same _ := by rw [(read same).1]
  invoke invocation s t same := by
    obtain ⟨names, world⟩ := read same
    simp only [invoke, context, names, world]
    cases setting.registry.resolve invocation.name with
    | error error => exact ⟨_, _, _, rfl, rfl, same⟩
    | ok handler =>
      refine ⟨_, _, _, rfl, Prod.ext ?_ rfl, ?_⟩
      · rw [Except.map_id]
        rfl
      · exact names ▸ note _ _ same
  resume suspension s t same := by
    obtain ⟨names, world⟩ := read same
    simp only [resume, context, names, world]
    exact ⟨_, _, _, _, rfl, rfl, names ▸ note _ _ same⟩
  bind value s t same _ := bind _ value same

theorem invoke_names (setting : Setting η σ ω) (invocation : Invocation) (scene : Scene ω) :
    (setting.invoke invocation scene).2.names = scene.names := by
  unfold invoke
  split <;> rfl

/-- A resume does not read the log. -/
theorem resume_note (setting : Setting η σ ω) (suspension : σ) (scene : Scene ω) (event : Event) :
    ∃ noted : Scene ω, setting.resume suspension (scene.note event) =
        ((setting.resume suspension scene).1, (setting.resume suspension scene).2.1, noted) ∧
      noted.names = scene.names :=
  ⟨_, rfl, rfl⟩

end Setting

section Blind

variable {η σ ω : Type}

/-- A host whose commands see nothing but the clock, their invocation and the bindings of some
names. -/
structure Host.Heeds (host : Host η σ ω) (seen : String → Prop) : Prop where
  start : ∀ handler invocation now {names others : Namespace} world other,
    (∀ name, seen name → names.get? name = others.get? name) →
      (host.start handler invocation ⟨now, names⟩ world).outcome =
        (host.start handler invocation ⟨now, others⟩ other).outcome
  resume : ∀ suspension now {names others : Namespace} world other,
    (∀ name, seen name → names.get? name = others.get? name) →
      (host.resume suspension ⟨now, names⟩ world).outcome =
          (host.resume suspension ⟨now, others⟩ other).outcome ∧
        (host.resume suspension ⟨now, names⟩ world).suspension =
          (host.resume suspension ⟨now, others⟩ other).suspension

/-- A host whose commands see nothing but the clock and their invocation. -/
structure Host.Blind (host : Host η σ ω) : Prop where
  start : ∀ handler invocation now names others world other,
    (host.start handler invocation ⟨now, names⟩ world).outcome =
      (host.start handler invocation ⟨now, others⟩ other).outcome
  resume : ∀ suspension now names others world other,
    (host.resume suspension ⟨now, names⟩ world).outcome =
        (host.resume suspension ⟨now, others⟩ other).outcome ∧
      (host.resume suspension ⟨now, names⟩ world).suspension =
        (host.resume suspension ⟨now, others⟩ other).suspension

theorem Builtin.host_blind : (Host.none.withBuiltins : Host (Builtin ⊕ Empty) _ ω).Blind where
  start handler invocation now names others world other := by
    rcases handler with (op | _) | impossible
    · rfl
    · rfl
    · exact nomatch impossible
  resume suspension now names others world other := by
    rcases suspension with (_ | _) | impossible
    · exact ⟨rfl, rfl⟩
    · exact ⟨rfl, rfl⟩
    · exact nomatch impossible

def Agree (known : String → Prop) (s t : Scene ω) : Prop :=
  ∀ name, known name → s.names.get? name = t.names.get? name

theorem Agree.of_eq {known : String → Prop} {s t : Scene ω} (names : t.names = s.names) :
    Agree known s t :=
  fun name _ => congrArg (Table.get? · name) names.symm

theorem Agree.names {s t : Scene ω} (agree : Agree (fun _ => True) s t) : t.names = s.names :=
  Table.ext fun name => (agree name trivial).symm

/-- Commands go on alike in scenes that agree on what they see. -/
theorem Host.Heeds.parallel {host : Host η σ ω} {seen known : String → Prop}
    (heeds : host.Heeds seen) (registry : Registry η) (now : Time)
    (aware : ∀ name, seen name → known name) :
    Setting.Parallel ⟨host, registry, now⟩ ⟨host, registry, now⟩ (Agree known) id known
      (fun _ => True) where
  read agree asked := agree _ asked
  invoke invocation s t agree := by
    unfold Setting.invoke
    cases registry.resolve invocation.name with
    | error error => exact ⟨_, _, _, rfl, rfl, agree⟩
    | ok handler =>
      have same := heeds.start handler invocation now s.world t.world
        fun name sees => agree name (aware name sees)
      refine ⟨_, _, _, rfl, Prod.ext ?_ rfl, agree⟩
      rw [Except.map_id]
      exact same.symm
  resume suspension s t agree := by
    obtain ⟨outcome, left⟩ := heeds.resume suspension now s.world t.world
      fun name sees => agree name (aware name sees)
    exact ⟨_, _, _, _, rfl, Prod.ext outcome.symm (Prod.ext left.symm rfl), agree⟩
  bind value s t agree _ := by
    intro key known
    simp only [Scene.bind, Table.get?_insert, agree key known]

theorem Host.Blind.heeds {host : Host η σ ω} (blind : host.Blind) (seen : String → Prop) :
    host.Heeds seen where
  start handler invocation now names others world other _ :=
    blind.start handler invocation now names others world other
  resume suspension now names others world other _ :=
    blind.resume suspension now names others world other

/-- Blind commands go on alike in scenes that agree. -/
theorem Host.Blind.parallel {host : Host η σ ω} (blind : host.Blind) (registry : Registry η)
    (now : Time) (known : String → Prop) :
    Setting.Parallel ⟨host, registry, now⟩ ⟨host, registry, now⟩ (Agree known) id known
      (fun _ => True) :=
  (blind.heeds fun _ => False).parallel registry now fun _ => False.elim

end Blind
end TickScript
