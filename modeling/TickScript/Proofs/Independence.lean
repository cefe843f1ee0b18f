import Mathlib.Data.List.Nodup
import Mathlib.Data.List.Perm.Basic
import TickScript.Proofs.Errands

/-! Named arguments that keep apart: none of them binds a name that matters to another one. Then
each has the outcome that it has as the first one, so it does not matter in which order they are
evaluated. -/
namespace TickScript

variable {η σ ω : Type} {seen : String → Prop}

namespace Table

variable {α : Type}

theorem insertAll_perm {entries others : List (String × α)} (order : entries.Perm others)
    (keys : (entries.map Prod.fst).Nodup) (table : Table α) :
    table.insertAll entries = table.insertAll others := by
  refine order.foldl_eq' (fun first here second there table => ?_) table
  by_cases same : first.1 = second.1
  · rw [List.inj_on_of_nodup_map keys here there same]
  · exact table.insert_comm same _ _

end Table

namespace Expr

def reads (expr : Expr) : List String := expr.within.filterMap Expr.read?

/-- The names that matter to an expression: those it binds, those it asks for and, if it is a
command, those that handlers see. -/
inductive Minds (seen : String → Prop) (expr : Expr) (name : String) : Prop
  | bound (bound : name ∈ expr.bindings)
  | asked (asked : name ∈ expr.reads)
  | seen {command} (call : expr = .call command) (sees : seen name)

end Expr

def BoundIn (named : List (String × Expr)) (name : String) : Prop :=
  ∃ entry ∈ named, name ∈ entry.2.bindings

theorem BoundIn.perm {named others : List (String × Expr)} {name : String}
    (bound : BoundIn named name) (order : named.Perm others) : BoundIn others name := by
  obtain ⟨entry, member, bound⟩ := bound
  exact ⟨entry, order.mem_iff.mp member, bound⟩

/-- Named arguments under different names, none of which binds what matters to another one. -/
structure Separate (seen : String → Prop) (named : List (String × Expr)) : Prop where
  keys : (named.map Prod.fst).Nodup
  apart : named.Pairwise fun first second =>
    (∀ name ∈ first.2.bindings, ¬ second.2.Minds seen name) ∧
      ∀ name ∈ second.2.bindings, ¬ first.2.Minds seen name

theorem Separate.perm {named others : List (String × Expr)} (separate : Separate seen named)
    (order : named.Perm others) : Separate seen others where
  keys := (order.map Prod.fst).nodup_iff.mp separate.keys
  apart := (order.pairwise_iff fun both => ⟨both.2, both.1⟩).mp separate.apart

namespace Setting

variable (setting : Setting η σ ω)

/-- An expression has the same outcome in scenes that agree on what matters to it. -/
theorem eval_agree (heeds : setting.host.Heeds seen) {known : String → Prop} (expr : Expr)
    (aware : ∀ name, expr.Minds seen name → known name) {s t : Scene ω} (agree : Agree known s t) :
    Alike (Agree known) (setting.eval expr s) (setting.eval expr t) := by
  cases expr with
  | lit value => exact ⟨_, s, t, rfl, rfl, agree⟩
  | name text =>
    have same := Namespace.resolve_congr (agree _ (aware _ (.asked List.mem_cons_self)))
    simp only [eval, same]
    cases t.names.resolve text <;> exact ⟨_, s, t, rfl, rfl, agree⟩
  | call command =>
    have parallel : Parallel setting setting (Agree known) id known (fun _ => True) :=
      heeds.parallel setting.registry setting.now fun name sees => aware name (.seen rfl sees)
    refine eval_alike parallel (.call command) (fun part member => ⟨fun name read => ?_, ?_⟩) agree
    · exact aware name (.asked (List.mem_filterMap.mpr ⟨part, member, read⟩))
    · exact fun _ _ => trivial

theorem evalNamed_extends (named : List (String × Expr)) (scene : Scene ω) :
    scene.names.Extends (BoundIn named) (setting.evalNamed named scene).2.names := by
  induction named generalizing scene with
  | nil => exact .refl _
  | cons entry rest ih =>
    have here (name : String) (bound : name ∈ entry.2.bindings) : BoundIn (entry :: rest) name :=
      ⟨entry, List.mem_cons_self, bound⟩
    have there (name : String) (bound : BoundIn rest name) : BoundIn (entry :: rest) name := by
      obtain ⟨other, member, bound⟩ := bound
      exact ⟨other, List.mem_cons_of_mem _ member, bound⟩
    have first := (setting.eval_extends entry.2 scene).mono here
    simp only [evalNamed]
    generalize setting.eval entry.2 scene = result at first ⊢
    obtain ⟨outcome, middle⟩ := result
    cases outcome with
    | error fault => exact first
    | ok value =>
      have following := (ih middle).mono there
      simp only
      generalize setting.evalNamed rest middle = result at following ⊢
      obtain ⟨outcome, last⟩ := result
      cases outcome <;> exact first.trans following

def Yields (scene : Scene ω) (entry : String × Expr) (value : String × Value) : Prop :=
  value.1 = entry.1 ∧ (setting.eval entry.2 scene).1 = .ok value.2

theorem yields_keys {scene : Scene ω} {named : List (String × Expr)}
    {entries : List (String × Value)} (yields : List.Forall₂ (setting.Yields scene) named entries) :
    entries.map Prod.fst = named.map Prod.fst := by
  induction yields with
  | nil => rfl
  | cons first _ ih => rw [List.map_cons, List.map_cons, first.1, ih]

theorem yields_succeeds {scene : Scene ω} {named : List (String × Expr)}
    {entries : List (String × Value)} (yields : List.Forall₂ (setting.Yields scene) named entries) :
    ∀ entry ∈ named, ∀ fault, (setting.eval entry.2 scene).1 ≠ .error fault := by
  induction yields with
  | nil => exact nofun
  | cons first _ ih =>
    refine List.forall_mem_cons.mpr ⟨fun fault fails => ?_, ih⟩
    cases first.2.symm.trans fails

/-- Named arguments that keep apart give what each of them gives in the scene before the first one,
and bind the same values as there. -/
theorem evalNamed_apart (heeds : setting.host.Heeds seen) {named : List (String × Expr)}
    (apart : named.Pairwise fun first second =>
      ∀ name ∈ first.2.bindings, ¬ second.2.Minds seen name)
    {s t : Scene ω} (agree : ∀ entry ∈ named, ∀ name, entry.2.Minds seen name →
      s.names.get? name = t.names.get? name) :
    (∃ entry ∈ named, ∃ fault left, (setting.eval entry.2 s).1 = .error fault ∧
      setting.evalNamed named t = (.error fault, left)) ∨
    ∃ entries left, setting.evalNamed named t = (.ok entries, left) ∧
      List.Forall₂ (setting.Yields s) named entries ∧
      ∀ entry ∈ named, ∀ name ∈ entry.2.bindings,
        left.names.get? name = (setting.eval entry.2 s).2.names.get? name := by
  induction named generalizing t with
  | nil => exact .inr ⟨[], t, rfl, .nil, List.forall_mem_nil _⟩
  | cons entry rest ih =>
    obtain ⟨ahead, apart⟩ := List.pairwise_cons.mp apart
    obtain ⟨here, following⟩ := List.forall_mem_cons.mp agree
    let known (name : String) : Prop := s.names.get? name = t.names.get? name
    have agreeing : Agree known s t := fun _ same => same
    obtain ⟨outcome, middle, later, left, right, same⟩ :=
      setting.eval_agree heeds entry.2 here agreeing
    have frame (name : String) (unbound : name ∉ entry.2.bindings) :
        later.names.get? name = t.names.get? name := by
      have kept := (setting.eval_extends entry.2 t).frame name unbound
      rwa [right] at kept
    simp only [evalNamed, right]
    cases outcome with
    | error fault =>
      exact .inl ⟨entry, List.mem_cons_self, fault, later, congrArg Prod.fst left, rfl⟩
    | ok value =>
      have onwards : ∀ other ∈ rest, ∀ name, other.2.Minds seen name →
          s.names.get? name = later.names.get? name := by
        intro other member name minds
        rw [frame name fun bound => ahead other member name bound minds]
        exact following other member name minds
      rcases ih apart onwards with
        ⟨other, member, fault, last, fails, ended⟩ | ⟨entries, last, ended, yields, bound⟩
      · simp only [ended]
        exact .inl ⟨other, List.mem_cons_of_mem _ member, fault, last, fails, rfl⟩
      · simp only [ended]
        refine .inr ⟨_, last, rfl, .cons ⟨rfl, congrArg Prod.fst left⟩ yields,
          List.forall_mem_cons.mpr ⟨fun name member => ?_, bound⟩⟩
        have unbound : ¬BoundIn rest name := by
          rintro ⟨other, among, bound⟩
          exact ahead other among name member (.bound bound)
        have kept := (setting.evalNamed_extends rest later).frame name unbound
        rw [ended] at kept
        rw [kept, left]
        exact (same name (here name (.bound member))).symm

/-- Named arguments that keep apart give the same in any order, unless one of them fails. -/
theorem evalNamed_perm (heeds : setting.host.Heeds seen) {named others : List (String × Expr)}
    (separate : Separate seen named) (order : named.Perm others) (scene : Scene ω) :
    (∃ first ∈ named, ∃ second ∈ named, ∃ fault other left right,
      (setting.eval first.2 scene).1 = .error fault ∧
      (setting.eval second.2 scene).1 = .error other ∧
      setting.evalNamed named scene = (.error fault, left) ∧
      setting.evalNamed others scene = (.error other, right)) ∨
    ∃ entries values left right,
      setting.evalNamed named scene = (.ok entries, left) ∧
      setting.evalNamed others scene = (.ok values, right) ∧
      Table.ofList values = Table.ofList entries ∧ right.names = left.names := by
  have also := separate.perm order
  rcases setting.evalNamed_apart heeds (separate.apart.imp And.left) (s := scene) (t := scene)
      fun _ _ _ _ => rfl with
    ⟨first, here, fault, left, fails, ended⟩ | ⟨entries, left, ended, yields, bound⟩ <;>
  rcases setting.evalNamed_apart heeds (also.apart.imp And.left) (s := scene) (t := scene)
      fun _ _ _ _ => rfl with
    ⟨second, there, other, right, failing, ending⟩ | ⟨values, right, ending, gives, binds⟩
  · exact .inl ⟨first, here, second, order.mem_iff.mpr there, fault, other, left, right, fails,
      failing, ended, ending⟩
  · exact absurd fails (setting.yields_succeeds gives first (order.mem_iff.mp here) fault)
  · exact absurd failing (setting.yields_succeeds yields second (order.mem_iff.mpr there) other)
  · refine .inr ⟨entries, values, left, right, ended, ending, ?_, ?_⟩
    · have functional : Relator.RightUnique (setting.Yields scene) := by
        rintro entry ⟨name, value⟩ ⟨other, kept⟩ ⟨rfl, one⟩ ⟨rfl, two⟩
        cases one.symm.trans two
        rfl
      have permuted : entries.Perm values := List.rel_perm_imp functional yields gives order
      have keys : (entries.map Prod.fst).Nodup := setting.yields_keys yields ▸ separate.keys
      exact (Table.insertAll_perm permuted keys .empty).symm
    · apply Table.ext
      intro name
      by_cases written : BoundIn named name
      · obtain ⟨entry, member, written⟩ := written
        rw [bound entry member name written, binds entry (order.mem_iff.mp member) name written]
      · have before := (setting.evalNamed_extends named scene).frame name written
        have after := (setting.evalNamed_extends others scene).frame name
          fun also => written (also.perm order.symm)
        rw [ended] at before
        rw [ending] at after
        exact after.trans before.symm

end Setting
end TickScript
