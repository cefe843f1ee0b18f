import TickScript.Probe
import TickScript.Proofs.Independence

/-! Commands whose named arguments come in another order, at every depth. Where the named
arguments of a command keep apart, the order shows in nothing but the choice between several
failures and in what was bound before one. -/
namespace TickScript

variable {η σ ω : Type}

mutual

/-- A command with its named arguments in another order, and those of every command nested in it in
an order of their own. A command is met at most once while one that it is nested in is prepared, so
this is a new order for every evaluation. -/
inductive Command.Reordered : Command → Command → Prop
  | positional {name args others} (all : Expr.ReorderedAll args others) :
      Command.Reordered (.positional name args) (.positional name others)
  | keyword {name args others named between last guard other binding}
      (guards : Expr.ReorderedGuard guard other) (all : Expr.ReorderedAll args others)
      (order : named.Perm between) (within : Expr.ReorderedNamed between last) :
      Command.Reordered (.keyword name args named guard binding)
        (.keyword name others last other binding)

inductive Expr.Reordered : Expr → Expr → Prop
  | lit (value) : Expr.Reordered (.lit value) (.lit value)
  | name (text) : Expr.Reordered (.name text) (.name text)
  | call {command other} (nested : Command.Reordered command other) :
      Expr.Reordered (.call command) (.call other)

inductive Expr.ReorderedAll : List Expr → List Expr → Prop
  | nil : Expr.ReorderedAll [] []
  | cons {expr other rest others} (first : Expr.Reordered expr other)
      (following : Expr.ReorderedAll rest others) :
      Expr.ReorderedAll (expr :: rest) (other :: others)

inductive Expr.ReorderedNamed : List (String × Expr) → List (String × Expr) → Prop
  | nil : Expr.ReorderedNamed [] []
  | cons {name expr other rest others} (first : Expr.Reordered expr other)
      (following : Expr.ReorderedNamed rest others) :
      Expr.ReorderedNamed ((name, expr) :: rest) ((name, other) :: others)

inductive Expr.ReorderedGuard : Option Expr → Option Expr → Prop
  | none : Expr.ReorderedGuard none none
  | some {expr other} (guard : Expr.Reordered expr other) :
      Expr.ReorderedGuard (some expr) (some other)

end

namespace Command

theorem Reordered.name {command other : Command} (reordered : command.Reordered other) :
    other.name = command.name := by
  cases reordered <;> rfl

theorem Reordered.binding {command other : Command} (reordered : command.Reordered other) :
    other.binding = command.binding := by
  cases reordered <;> rfl

def Within (command nested : Command) : Prop := .call nested ∈ (Expr.call command).within

end Command

def BoundBy (kind : Command → Prop) (name : String) : Prop :=
  ∃ command, kind command ∧ command.binding = some name

def Scattered (kind : Command → Prop) (name : String) : Prop :=
  ∃ command, kind command ∧ BoundIn command.named name

namespace Setting

/-- Two named arguments of a command of a kind fail in the same scene, which differs from a given
namespace in no more than what such commands bind. -/
def Clash (setting : Setting η σ ω) (kind : Command → Prop) (base : Namespace) : Prop :=
  ∃ command scene, kind command ∧ base.Extends (BoundBy kind) scene.names ∧
    ∃ first ∈ command.named, ∃ second ∈ command.named, first.1 ≠ second.1 ∧
      (∃ fault, (setting.eval first.2 scene).1 = .error fault) ∧
      ∃ fault, (setting.eval second.2 scene).1 = .error fault

/-- What two orders give: the same, with the same namespace, or a failure each. The failures differ
only if there are two to choose from, and so do the namespaces at most in what is bound within named
arguments. -/
inductive Accords (setting : Setting η σ ω) (kind : Command → Prop) (base : Namespace) {α : Type}
    (same : α → α → Prop) : Except Fault α × Scene ω → Except Fault α × Scene ω → Prop
  | given {value other s t} (equal : same value other)
      (reached : base.Extends (BoundBy kind) s.names) (names : t.names = s.names) :
      Accords setting kind base same (.ok value, s) (.ok other, t)
  | failed {fault other s t} (choice : other = fault ∨ setting.Clash kind base)
      (names : ∀ name, ¬ Scattered kind name → t.names.get? name = s.names.get? name) :
      Accords setting kind base same (.error fault, s) (.error other, t)

namespace Accords

variable {setting : Setting η σ ω} {kind : Command → Prop} {base : Namespace} {α : Type}
  {same : α → α → Prop} {s t : Scene ω}

theorem fail (fault : Fault) (names : t.names = s.names) :
    setting.Accords kind base same (.error fault, s) (.error fault, t) :=
  .failed (.inl rfl) fun _ _ => congrArg (Table.get? · _) names

theorem trans {left middle right : Except Fault α × Scene ω}
    (first : setting.Accords kind base same left middle)
    (second : setting.Accords kind base Eq middle right) :
    setting.Accords kind base same left right := by
  cases first with
  | given equal reached names =>
    cases second with
    | given unchanged _ further => exact .given (unchanged ▸ equal) reached (further.trans names)
  | failed choice names =>
    cases second with
    | failed other further =>
      refine .failed ?_ fun name apart => (further name apart).trans (names name apart)
      rcases choice with rfl | clash
      · exact other
      · exact .inr clash

end Accords

/-- Reordering an expression makes no difference but these. -/
def Indifferent (setting : Setting η σ ω) (kind : Command → Prop) (base : Namespace)
    (expr : Expr) : Prop :=
  ∀ {other s t}, expr.Reordered other → Includes kind expr.within →
    base.Extends (BoundBy kind) s.names → t.names = s.names →
      setting.Accords kind base Eq (setting.eval expr s) (setting.eval other t)

theorem Includes.bound {kind : Command → Prop} {expr : Expr} (includes : Includes kind expr.within)
    {name : String} (bound : name ∈ expr.bindings) : BoundBy kind name := by
  obtain ⟨part, member, binding⟩ := List.mem_filterMap.mp bound
  cases part with
  | lit | name => contradiction
  | call command => exact ⟨command, includes command member, binding⟩

theorem Includes.entry {kind : Command → Prop} {named : List (String × Expr)}
    (includes : Includes kind (Expr.withinNamed named)) :
    ∀ entry ∈ named, Includes kind entry.2.within := by
  induction named with
  | nil => exact nofun
  | cons entry rest ih =>
    obtain ⟨inFirst, inRest⟩ := includes.append
    exact List.forall_mem_cons.mpr ⟨inFirst, ih inRest⟩

variable {setting : Setting η σ ω} {kind : Command → Prop} {base : Namespace}
  {seen : String → Prop}

theorem enter_accords (heeds : setting.host.Heeds seen)
    {left right : Except Fault (Option Invocation) × Scene ω}
    (prepared : setting.Accords kind base Eq left right) :
    setting.Accords kind base Eq (setting.enter left) (setting.enter right) := by
  cases prepared with
  | failed choice names => exact .failed choice names
  | @given value other s t equal reached names =>
    subst equal
    cases value with
    | none => exact .given rfl reached names
    | some invocation =>
      have alike := (heeds.parallel setting.registry setting.now fun _ _ => trivial).invoke
        invocation (.of_eq names)
      obtain ⟨started, left, right, one, two, agree⟩ := alike
      have kept := setting.invoke_names invocation s
      rw [one] at kept
      simp only [enter, one, two]
      cases started with
      | error fault => exact .fail fault agree.names
      | ok suspension => exact .given rfl (kept.symm ▸ reached) agree.names

theorem finishNested_accords (heeds : setting.host.Heeds seen) {command other : Command}
    (reordered : command.Reordered other) (included : kind command) (suspension : σ)
    {s t : Scene ω} (reached : base.Extends (BoundBy kind) s.names) (names : t.names = s.names) :
    setting.Accords kind base Eq (setting.finishNested command suspension s)
      (setting.finishNested other suspension t) := by
  have same : setting.finishNested other suspension t =
      setting.finishNested command suspension t := by
    simp only [finishNested, reordered.name, reordered.binding]
  have alike := finishNested_alike
    (heeds.parallel setting.registry setting.now fun _ _ => trivial) command suspension
    (fun _ _ => trivial) (.of_eq names)
  have extended : base.Extends (BoundBy kind)
      (setting.finishNested command suspension s).2.names := by
    rw [finishNested_names]
    refine reached.trans (.errands ?_ _)
    exact List.forall_mem_singleton.mpr fun name binding => ⟨command, included, binding⟩
  rw [same]
  obtain ⟨outcome, left, right, one, two, agree⟩ := alike
  rw [one] at extended ⊢
  rw [show setting.finishNested command suspension t = _ from two]
  cases outcome with
  | error fault => exact .fail fault agree.names
  | ok value => exact .given rfl extended agree.names

/-- Where the named arguments of a command keep apart, their order makes no difference but these. -/
theorem evalNamed_order (heeds : setting.host.Heeds seen) {command : Command}
    {others : List (String × Expr)} (included : kind command)
    (includes : ∀ entry ∈ command.named, Includes kind entry.2.within)
    (separate : Separate seen command.named) (order : command.named.Perm others) {s : Scene ω}
    (reached : base.Extends (BoundBy kind) s.names) :
    setting.Accords kind base (fun entries values => Table.ofList values = Table.ofList entries)
      (setting.evalNamed command.named s) (setting.evalNamed others s) := by
  have before := setting.evalNamed_extends command.named s
  have after := setting.evalNamed_extends others s
  rcases setting.evalNamed_perm heeds separate order s with
    ⟨first, here, second, there, fault, other, left, right, fails, failing, one, two⟩ |
    ⟨entries, values, left, right, one, two, same, names⟩
  · rw [one] at before ⊢
    rw [two] at after ⊢
    refine .failed ?_ fun name apart => ?_
    · by_cases key : first.1 = second.1
      · rw [List.inj_on_of_nodup_map separate.keys here there key] at fails
        exact .inl (Except.error.inj (failing.symm.trans fails))
      · exact .inr ⟨command, s, included, reached, first, here, second, there, key, ⟨_, fails⟩,
          ⟨_, failing⟩⟩
    · have kept := before.frame name fun bound => apart ⟨command, included, bound⟩
      have also := after.frame name fun bound =>
        apart ⟨command, included, bound.perm order.symm⟩
      exact also.trans kept.symm
  · rw [one] at before ⊢
    rw [two]
    refine .given same (reached.trans (before.mono ?_)) names
    exact fun name ⟨entry, member, bound⟩ => (includes entry member).bound bound

/-- Named arguments in the same order, each of them reordered within. -/
theorem evalNamed_within {named others : List (String × Expr)}
    (each : ∀ entry ∈ named, setting.Indifferent kind base entry.2)
    (includes : ∀ entry ∈ named, Includes kind entry.2.within)
    (within : Expr.ReorderedNamed named others) {s t : Scene ω}
    (reached : base.Extends (BoundBy kind) s.names) (names : t.names = s.names) :
    setting.Accords kind base Eq (setting.evalNamed named s) (setting.evalNamed others t) := by
  induction named generalizing others s t with
  | nil =>
    cases within
    exact .given rfl reached names
  | cons entry rest ih =>
    obtain ⟨one, following⟩ := List.forall_mem_cons.mp each
    obtain ⟨inFirst, inRest⟩ := List.forall_mem_cons.mp includes
    cases within with
    | @cons name expr other _ others first later =>
      have evaluated := one first inFirst reached names
      simp only [evalNamed]
      generalize setting.eval expr s = left at evaluated ⊢
      generalize setting.eval other t = right at evaluated ⊢
      cases evaluated with
      | failed choice names => exact .failed choice names
      | @given value _ s t equal reached names =>
        subst equal
        have evaluated := ih following inRest later reached names
        simp only
        generalize setting.evalNamed rest s = left at evaluated ⊢
        generalize setting.evalNamed others t = right at evaluated ⊢
        cases evaluated with
        | failed choice names => exact .failed choice names
        | given equal reached names => exact .given (congrArg _ equal) reached names

/-- Commands of a kind have named arguments that keep apart, for handlers that heed no more. -/
structure Unordered (setting : Setting η σ ω) (seen : String → Prop) (kind : Command → Prop) :
    Prop where
  heeds : setting.host.Heeds seen
  separate : ∀ command, kind command → Separate seen command.named

mutual

theorem eval_indifferent (unordered : setting.Unordered seen kind) (expr : Expr) :
    setting.Indifferent kind base expr := by
  intro other s t reordered includes reached names
  cases expr with
  | lit value =>
    cases reordered
    exact .given rfl reached names
  | name text =>
    cases reordered
    simp only [eval, names]
    cases s.names.resolve text with
    | error error => exact .fail _ names
    | ok value => exact .given rfl reached names
  | call command =>
    cases reordered with
    | @call _ other nested =>
      have included : kind command := includes command List.mem_cons_self
      have inner : Includes kind command.exprs :=
        fun other member => includes other (List.mem_cons_of_mem _ member)
      have entered := enter_accords unordered.heeds
        (prepare_indifferent unordered command nested included inner reached names)
      simp only [eval]
      generalize setting.enter (setting.prepare command s) = left at entered ⊢
      generalize setting.enter (setting.prepare other t) = right at entered ⊢
      cases entered with
      | failed choice names => exact .failed choice names
      | @given started _ s t equal reached names =>
        subst equal
        cases started with
        | none => exact .given rfl reached names
        | some suspension =>
          exact finishNested_accords unordered.heeds nested included suspension reached names
termination_by structural expr

theorem prepare_indifferent (unordered : setting.Unordered seen kind) (command : Command)
    {other : Command} {s t : Scene ω} (reordered : command.Reordered other)
    (included : kind command) (includes : Includes kind command.exprs)
    (reached : base.Extends (BoundBy kind) s.names) (names : t.names = s.names) :
    setting.Accords kind base Eq (setting.prepare command s) (setting.prepare other t) := by
  cases command with
  | positional name args =>
    cases reordered with
    | @positional _ _ others all =>
      have evaluated := evalAll_indifferent unordered args all includes reached names
      simp only [prepare]
      generalize setting.evalAll args s = left at evaluated ⊢
      generalize setting.evalAll others t = right at evaluated ⊢
      cases evaluated with
      | failed choice names => exact .failed choice names
      | given equal reached names => exact .given (by rw [equal]) reached names
  | keyword name args named guard binding =>
    obtain ⟨inGuard, inRest⟩ := includes.append
    obtain ⟨inArgs, inNamed⟩ := inRest.append
    cases reordered with
    | @keyword _ _ others _ between last _ other _ guards all order within =>
      have guarded := evalGuard_indifferent unordered guard guards inGuard reached names
      simp only [prepare]
      generalize setting.evalGuard guard s = left at guarded ⊢
      generalize setting.evalGuard other t = right at guarded ⊢
      cases guarded with
      | failed choice names => exact .failed choice names
      | @given holds _ s t equal reached names =>
        subst equal
        cases holds with
        | false => exact .given rfl reached names
        | true =>
          have evaluated := evalAll_indifferent unordered args all inArgs reached names
          simp only
          generalize setting.evalAll args s = left at evaluated ⊢
          generalize setting.evalAll others t = right at evaluated ⊢
          cases evaluated with
          | failed choice names => exact .failed choice names
          | @given values _ s t equal reached names =>
            subst equal
            have inEach := Includes.entry inNamed
            have ordered := evalNamed_order unordered.heeds included inEach
              (unordered.separate _ included) order reached
            have each := named_indifferent unordered named
            have evaluated := ordered.trans (evalNamed_within
              (fun entry member => each entry (order.mem_iff.mpr member))
              (fun entry member => inEach entry (order.mem_iff.mpr member)) within reached names)
            simp only [Command.named] at evaluated ⊢
            generalize setting.evalNamed named s = left at evaluated ⊢
            generalize setting.evalNamed last t = right at evaluated ⊢
            cases evaluated with
            | failed choice names => exact .failed choice names
            | given equal reached names => exact .given (by rw [equal]) reached names
termination_by structural command

theorem evalGuard_indifferent (unordered : setting.Unordered seen kind) (guard : Option Expr)
    {other : Option Expr} {s t : Scene ω} (reordered : Expr.ReorderedGuard guard other)
    (includes : Includes kind (Expr.withinGuard guard))
    (reached : base.Extends (BoundBy kind) s.names) (names : t.names = s.names) :
    setting.Accords kind base Eq (setting.evalGuard guard s) (setting.evalGuard other t) := by
  cases guard with
  | none =>
    cases reordered
    exact .given rfl reached names
  | some guard =>
    cases reordered with
    | @some _ other first =>
      have evaluated := eval_indifferent unordered guard first includes reached names
      simp only [evalGuard]
      generalize setting.eval guard s = left at evaluated ⊢
      generalize setting.eval other t = right at evaluated ⊢
      cases evaluated with
      | failed choice names => exact .failed choice names
      | given equal reached names => exact .given (congrArg _ equal) reached names
termination_by structural guard

theorem evalAll_indifferent (unordered : setting.Unordered seen kind) (exprs : List Expr)
    {others : List Expr} {s t : Scene ω} (reordered : Expr.ReorderedAll exprs others)
    (includes : Includes kind (Expr.withinAll exprs))
    (reached : base.Extends (BoundBy kind) s.names) (names : t.names = s.names) :
    setting.Accords kind base Eq (setting.evalAll exprs s) (setting.evalAll others t) := by
  cases exprs with
  | nil =>
    cases reordered
    exact .given rfl reached names
  | cons expr rest =>
    obtain ⟨inFirst, inRest⟩ := includes.append
    cases reordered with
    | @cons _ other _ others first following =>
      have evaluated := eval_indifferent unordered expr first inFirst reached names
      simp only [evalAll]
      generalize setting.eval expr s = left at evaluated ⊢
      generalize setting.eval other t = right at evaluated ⊢
      cases evaluated with
      | failed choice names => exact .failed choice names
      | @given value _ s t equal reached names =>
        subst equal
        have evaluated := evalAll_indifferent unordered rest following inRest reached names
        simp only
        generalize setting.evalAll rest s = left at evaluated ⊢
        generalize setting.evalAll others t = right at evaluated ⊢
        cases evaluated with
        | failed choice names => exact .failed choice names
        | given equal reached names => exact .given (congrArg _ equal) reached names
termination_by structural exprs

theorem named_indifferent (unordered : setting.Unordered seen kind) (named : List (String × Expr)) :
    ∀ entry ∈ named, setting.Indifferent kind base entry.2 := by
  cases named with
  | nil => exact nofun
  | cons entry rest =>
    obtain ⟨name, expr⟩ := entry
    exact List.forall_mem_cons.mpr
      ⟨eval_indifferent unordered expr, named_indifferent unordered rest⟩
termination_by structural named

end

/-- Where the named arguments of a command and of those nested in it keep apart, the command is
prepared alike in every order: with the same invocation and the same namespace, or with a failure in
each. The failures differ only if two named arguments of one command fail in the same namespace, and
the namespaces then differ at most in names that are bound within named arguments. -/
theorem prepare_reordered (heeds : setting.host.Heeds seen) {command other : Command}
    (reordered : command.Reordered other)
    (separate : ∀ nested, command.Within nested → Separate seen nested.named) {s t : Scene ω}
    (names : t.names = s.names) :
    setting.Accords command.Within s.names Eq (setting.prepare command s)
      (setting.prepare other t) :=
  prepare_indifferent ⟨heeds, separate⟩ command reordered List.mem_cons_self
    (fun _ member => List.mem_cons_of_mem _ member) (.refl _) names

section Examples

def oneOrder (first second : Expr) : Command :=
  .keyword "print" [] [("p", first), ("q", second)] none none

def otherOrder (first second : Expr) : Command :=
  .keyword "print" [] [("q", second), ("p", first)] none none

def comparison (name : String) (left right : Int64) : Command :=
  .keyword "eq" [.lit (.int left), .lit (.int right)] [] none (some name)

theorem comparison_reordered (name : String) (left right : Int64) :
    (Expr.call (comparison name left right)).Reordered (.call (comparison name left right)) :=
  .call (.keyword .none (.cons (.lit _) (.cons (.lit _) .nil)) (.refl _) .nil)

theorem comparison_apart {name other : String} (different : name ≠ other) (a b c d : Int64) :
    ∀ bound ∈ (Expr.call (comparison name a b)).bindings,
      ¬ (Expr.call (comparison other c d)).Minds (fun _ => False) bound := by
  intro bound member minds
  obtain rfl : bound = name := List.mem_singleton.mp member
  cases minds with
  | bound bound => exact different (List.mem_singleton.mp bound)
  | asked asked => exact absurd asked List.not_mem_nil
  | seen _ sees => exact sees

theorem otherOrder_reordered {first second : Expr} (one : first.Reordered first)
    (two : second.Reordered second) :
    (oneOrder first second).Reordered (otherOrder first second) :=
  .keyword .none .nil (.swap _ _ _) (.cons two (.cons one .nil))

def plainly : Setting (Builtin ⊕ Empty) (Builtin.Task ⊕ Empty) Unit :=
  ⟨Host.none.withBuiltins, Registry.builtins, 0⟩

def atStart : Scene Unit := ⟨.initial, (), []⟩

/-- Two comparisons under different names keep apart. -/
theorem prepare_reordered_comparisons :
    let command := oneOrder (.call (comparison "x" 1 1)) (.call (comparison "y" 1 2))
    let other := otherOrder (.call (comparison "x" 1 1)) (.call (comparison "y" 1 2))
    command.Reordered other ∧
      (∀ nested, command.Within nested → Separate (fun _ => False) nested.named) ∧
      plainly.Accords command.Within atStart.names Eq (plainly.prepare command atStart)
        (plainly.prepare other atStart) := by
  intro command other
  have separate : ∀ nested, command.Within nested → Separate (fun _ => False) nested.named := by
    intro nested within
    have cases_within : nested ∈ [command, comparison "x" 1 1, comparison "y" 1 2] := by
      simpa [Command.Within, command, oneOrder, comparison, Expr.within, Expr.withinAll,
        Expr.withinNamed, Expr.withinGuard, Command.exprs] using within
    simp only [List.mem_cons, List.not_mem_nil, or_false] at cases_within
    rcases cases_within with rfl | rfl | rfl
    · refine ⟨by decide, .cons ?_ (.cons nofun .nil)⟩
      exact List.forall_mem_singleton.mpr
        ⟨comparison_apart (by decide) _ _ _ _, comparison_apart (by decide) _ _ _ _⟩
    · exact ⟨.nil, .nil⟩
    · exact ⟨.nil, .nil⟩
  have reordered : command.Reordered other :=
    otherOrder_reordered (comparison_reordered _ _ _) (comparison_reordered _ _ _)
  have heeds : plainly.host.Heeds fun _ => False := Builtin.host_blind.heeds _
  exact ⟨reordered, separate, prepare_reordered heeds reordered separate rfl⟩

def probing : Setting (Builtin ⊕ Probe) (Builtin.Task ⊕ Probe.Task) Probe.World :=
  ⟨Probe.host.withBuiltins, Registry.builtins.insert "peek" (.inr .peek), 0⟩

/-- Otherwise the order shows: in the last value of a name that is bound twice, in the value of a
name that one order binds first, be it asked for or seen by a handler, in what is bound before a
failure, and in the choice between two failures. -/
theorem order_shows :
    let prepared (command : Command) := probing.prepare command ⟨.initial, {}, []⟩
    let bound (command : Command) := (prepared command).2.names.get? "x"
    let given (command : Command) :=
      (prepared command).1.toOption.join.bind fun invocation => invocation.named.get? "q"
    let unbound (name : String) : Except Fault (Option Invocation) :=
      .error (.script (Namespace.unbound ("$" ++ name) name))
    let x : Expr := .call (comparison "x" 1 1)
    let again : Expr := .call (comparison "x" 1 2)
    let peek : Expr := .call (.positional "peek" [.lit (.str "x")])
    (oneOrder x again).Reordered (otherOrder x again) ∧
      bound (oneOrder x again) = some (.bool false) ∧
      bound (otherOrder x again) = some (.bool true) ∧
    (oneOrder x (.name "x")).Reordered (otherOrder x (.name "x")) ∧
      given (oneOrder x (.name "x")) = some (.bool true) ∧
      given (otherOrder x (.name "x")) = some (.str "x") ∧
    (oneOrder x peek).Reordered (otherOrder x peek) ∧
      given (oneOrder x peek) = some (.bool true) ∧
      given (otherOrder x peek) = some .null ∧
    (oneOrder x (.name "$z")).Reordered (otherOrder x (.name "$z")) ∧
      bound (oneOrder x (.name "$z")) = some (.bool true) ∧
      bound (otherOrder x (.name "$z")) = none ∧
    (oneOrder (.name "$y") (.name "$z")).Reordered (otherOrder (.name "$y") (.name "$z")) ∧
      (prepared (oneOrder (.name "$y") (.name "$z"))).1 = unbound "y" ∧
      (prepared (otherOrder (.name "$y") (.name "$z"))).1 = unbound "z" := by
  intro prepared bound given unbound x again peek
  have once : x.Reordered x := comparison_reordered "x" 1 1
  have twice : again.Reordered again := comparison_reordered "x" 1 2
  have peeked : peek.Reordered peek := .call (.positional (.cons (.lit _) .nil))
  exact ⟨otherOrder_reordered once twice, rfl, rfl,
    otherOrder_reordered once (.name _), rfl, rfl,
    otherOrder_reordered once peeked, rfl, rfl,
    otherOrder_reordered once (.name _), rfl, rfl,
    otherOrder_reordered (.name _) (.name _), rfl, rfl⟩

end Examples

end Setting
end TickScript
