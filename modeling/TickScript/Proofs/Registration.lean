import TickScript.Proofs.Resolution

/-! What a registry holds after handlers have been registered, other registries have been
merged into it and the built-in commands have been restored, in any order: under every name
the handler that was written there last. Nothing takes a name off, so the built-in names
always have a handler. -/
namespace TickScript

namespace Table

variable {α β : Type}

/-- Where no name comes twice, a look-up may begin at either end. -/
theorem lookup_reverse {entries : List (String × α)} (keys : (entries.map Prod.fst).Nodup)
    (name : String) : entries.reverse.lookup name = entries.lookup name := by
  induction entries with
  | nil => rfl
  | cons entry rest ih =>
    obtain ⟨other, value⟩ := entry
    obtain ⟨fresh, later⟩ := List.nodup_cons.mp keys
    rw [List.reverse_cons, List.lookup_append, ih later]
    by_cases same : name = other
    · subst same
      have missing : rest.lookup name = none := by
        refine List.lookup_eq_none_iff.mpr fun entry member => bne_iff_ne.mpr ?_
        rintro rfl
        exact fresh (List.mem_map.mpr ⟨entry, member, rfl⟩)
      simp [missing]
    · simp [List.lookup_cons, beq_false_of_ne same]

theorem lookup_map (key : β → String) (value : β → α) (items : List β) (name : String) :
    (items.map fun item => (key item, value item)).lookup name =
      (items.find? fun item => key item == name).map value := by
  induction items with
  | nil => rfl
  | cons item rest ih =>
    rw [List.map_cons, List.lookup_cons, List.find?_cons, BEq.comm (a := name)]
    cases key item == name with
    | true => rfl
    | false => exact ih

theorem names_increasing (table : Table α) : table.names.Pairwise (· < ·) :=
  List.pairwise_map.mpr table.increasing

theorem names_nodup (table : Table α) : table.names.Nodup :=
  table.names_increasing.imp fun less => String.ne_of_lt less

theorem mem_names {table : Table α} {name : String} :
    name ∈ table.names ↔ table.contains name = true := by
  simp only [names, contains, get?, List.lookup_isSome_iff, List.mem_map, beq_iff_eq]
  constructor
  · rintro ⟨entry, member, rfl⟩
    exact ⟨entry, member, rfl⟩
  · rintro ⟨entry, member, same⟩
    exact ⟨entry, member, same.symm⟩

/-- After a merge a name has the value of the second table, if there is one. -/
theorem get?_merge (table other : Table α) (name : String) :
    (table.merge other).get? name = (other.get? name).or (table.get? name) := by
  rw [merge, get?_insertAll, lookup_reverse other.names_nodup]
  rfl

end Table

namespace Builtin

theorem names_nodup : (all.map name).Nodup := by decide

theorem ofName?_eq_some_iff {text : String} {builtin : Builtin} :
    ofName? text = some builtin ↔ builtin.name = text := by
  constructor
  · intro found
    exact beq_iff_eq.mp (List.find?_some (p := fun builtin : Builtin => builtin.name == text) found)
  · rintro rfl
    cases builtin with
    | wait => rfl
    | operation op => cases op <;> rfl

end Builtin

namespace Registry

variable {η : Type}

/-- After a reset every built-in name has its own command again, and other names are as before. -/
theorem get?_reset (registry : Registry (Builtin ⊕ η)) (name : String) :
    registry.reset.get? name = ((Builtin.ofName? name).map .inl).or (registry.get? name) := by
  have keys : ((Builtin.all.map fun builtin => (builtin.name, (.inl builtin : Builtin ⊕ η))).map
      Prod.fst).Nodup := by
    rw [List.map_map]
    exact Builtin.names_nodup
  rw [reset, Table.get?_insertAll, Table.lookup_reverse keys, Table.lookup_map]
  rfl

inductive Edit (η : Type)
  | register (name : String) (handler : Builtin ⊕ η)
  | extend (other : Registry (Builtin ⊕ η))
  | reset

def edit (registry : Registry (Builtin ⊕ η)) : Edit η → Registry (Builtin ⊕ η)
  | .register name handler => (registry.register name handler).2
  | .extend other => registry.merge other
  | .reset => registry.reset

def edited (registry : Registry (Builtin ⊕ η)) (edits : List (Edit η)) : Registry (Builtin ⊕ η) :=
  edits.foldl edit registry

theorem edited_cons (registry : Registry (Builtin ⊕ η)) (edit : Edit η) (edits : List (Edit η)) :
    registry.edited (edit :: edits) = (registry.edit edit).edited edits := rfl

def Edit.written? (name : String) : Edit η → Option (Builtin ⊕ η)
  | .register other handler => if name = other then some handler else none
  | .extend other => other.get? name
  | .reset => (Builtin.ofName? name).map .inl

/-- The handler that was written last under a name; before all changes that is the built-in one. -/
def latest? (edits : List (Edit η)) (name : String) : Option (Builtin ⊕ η) :=
  (edits.reverse.findSome? (Edit.written? name)).or ((Builtin.ofName? name).map .inl)

theorem get?_edit (registry : Registry (Builtin ⊕ η)) (edit : Edit η) (name : String) :
    (registry.edit edit).get? name = (edit.written? name).or (registry.get? name) := by
  cases edit with
  | register other handler =>
    rw [Edit.written?, Registry.edit, register, Table.get?_insert]
    split <;> rfl
  | extend other => exact Table.get?_merge registry other name
  | reset => exact get?_reset registry name

theorem get?_edited (registry : Registry (Builtin ⊕ η)) (edits : List (Edit η)) (name : String) :
    (registry.edited edits).get? name =
      (edits.reverse.findSome? (Edit.written? name)).or (registry.get? name) := by
  induction edits generalizing registry with
  | nil => rfl
  | cons edit rest ih =>
    rw [edited_cons, ih, get?_edit, List.reverse_cons, List.findSome?_append, Option.or_assoc]
    congr 2
    simp only [List.findSome?_cons, List.findSome?_nil]
    cases edit.written? name <;> rfl

theorem resolve_ok_iff {registry : Registry η} {name : String} {handler : η} :
    registry.resolve name = .ok handler ↔ registry.get? name = some handler := by
  unfold resolve
  split <;> simp [*]

/-- A registry that has under each name the latest handler there, and what can be done with it. -/
structure Serves (registry : Registry (Builtin ⊕ η)) (latest : String → Option (Builtin ⊕ η)) :
    Prop where
  resolves : ∀ name handler, registry.resolve name = .ok handler ↔ latest name = some handler
  refuses : ∀ name, latest name = none → registry.resolve name = .error (.resolution name)
  contains : ∀ name,
    registry.contains name = true ↔ ∃ handler, registry.resolve name = .ok handler
  lists : ∀ name, name ∈ registry.names ↔ registry.contains name = true
  increasing : registry.names.Pairwise (· < ·)
  size : registry.names.length = registry.size
  displaces : ∀ name handler, (registry.register name handler).1 = latest name
  builtins : ∀ builtin : Builtin, registry.contains builtin.name = true
  restores : ∀ builtin : Builtin, registry.reset.resolve builtin.name = .ok (.inl builtin)
  spares : ∀ name, (∀ builtin : Builtin, builtin.name ≠ name) →
    registry.reset.resolve name = registry.resolve name
  restores_once : registry.reset.reset = registry.reset

theorem contains_iff {registry : Registry η} {name : String} :
    registry.contains name = true ↔ ∃ handler, registry.resolve name = .ok handler := by
  simp only [resolve_ok_iff]
  exact Option.isSome_iff_exists

/-- A name of no built-in command is not touched by a reset. -/
theorem get?_reset_other (registry : Registry (Builtin ⊕ η)) {name : String}
    (other : ∀ builtin : Builtin, builtin.name ≠ name) :
    registry.reset.get? name = registry.get? name := by
  have unknown : Builtin.ofName? name = none :=
    Option.eq_none_iff_forall_ne_some.mpr fun builtin found =>
      other builtin (Builtin.ofName?_eq_some_iff.mp found)
  rw [get?_reset, unknown]
  rfl

theorem reset_reset (registry : Registry (Builtin ⊕ η)) :
    registry.reset.reset = registry.reset := by
  apply Table.ext
  intro name
  rw [get?_reset, get?_reset]
  cases Builtin.ofName? name <;> rfl

theorem get?_builtins (name : String) :
    (builtins : Registry (Builtin ⊕ η)).get? name = (Builtin.ofName? name).map .inl := by
  rw [builtins, get?_reset, Table.get?_empty, Option.or_none]

theorem serves_of_latest {registry : Registry (Builtin ⊕ η)} {edits : List (Edit η)}
    (same : registry = builtins.edited edits) : registry.Serves (latest? edits) := by
  have found (name : String) : registry.get? name = latest? edits name := by
    rw [same, get?_edited, get?_builtins, latest?]
  have known (builtin : Builtin) : registry.contains builtin.name = true := by
    have named : Builtin.ofName? builtin.name = some builtin := Builtin.ofName?_eq_some_iff.mpr rfl
    rw [Table.contains, found, latest?, named, Option.isSome_or]
    exact Bool.or_true _
  constructor
  case resolves =>
    intro name handler
    rw [resolve_ok_iff, found]
  case refuses =>
    intro name missing
    rw [resolve, found, missing]
  case contains => exact fun name => contains_iff
  case lists => exact fun name => Table.mem_names
  case increasing => exact registry.names_increasing
  case size => exact List.length_map _
  case displaces => exact fun name handler => found name
  case builtins => exact known
  case restores =>
    intro builtin
    rw [resolve_ok_iff, get?_reset, Builtin.ofName?_eq_some_iff.mpr rfl]
    rfl
  case spares =>
    intro name other
    simp only [resolve, get?_reset_other registry other]
  case restores_once => exact reset_reset registry

end Registry

def Action.edit? {η ω : Type} : Action η ω → Option (Registry.Edit η)
  | .register name handler => some (.register name handler)
  | .extend other => some (.extend other)
  | .reset => some .reset
  | .step _ | .runToCompletion .. | .evaluate .. | .disturb _ => none

namespace Interpreter

variable {η σ ω : Type} (host : Host (Builtin ⊕ η) σ ω)

theorem perform_registry (interp : Interpreter (Builtin ⊕ η) σ ω) (action : Action η ω) :
    (interp.perform host action).registry =
      action.edit?.elim interp.registry interp.registry.edit := by
  cases action with
  | step now => exact step_registry host now interp
  | runToCompletion now limit =>
    exact runToCompletion_preserves (P := fun later => later.registry = interp.registry)
      (fun later same => (step_registry host now later).trans same) limit rfl
  | register | extend | reset | evaluate | disturb => rfl

/-- In a session the registry is changed by registrations, merges and resets only. -/
theorem after_registry (interp : Interpreter (Builtin ⊕ η) σ ω) (actions : List (Action η ω)) :
    (interp.after host actions).registry =
      interp.registry.edited (actions.filterMap Action.edit?) := by
  induction actions generalizing interp with
  | nil => rfl
  | cons action rest ih =>
    rw [after, ih, perform_registry, List.filterMap_cons]
    cases action.edit? <;> rfl

end Interpreter

namespace Registry

/-- The built-in names in their order. -/
theorem names_builtins : (builtins : Registry (Builtin ⊕ η)).names =
    ["<", "<=", ">", ">=", "and", "diff", "eq", "max", "min", "neq", "or", "print", "sum",
      "wait"] := by
  have members (name : String) :
      name ∈ (builtins : Registry (Builtin ⊕ η)).names ↔ name ∈ Builtin.all.map Builtin.name := by
    rw [Table.mem_names, Table.contains, builtins, get?_reset, Table.get?_empty, Option.or_none,
      Option.isSome_map, Builtin.ofName?, List.find?_isSome, List.mem_map]
    simp only [beq_iff_eq]
  have order := (List.perm_ext_iff_of_nodup (Table.names_nodup _) Builtin.names_nodup).mpr members
  refine (order.trans (by decide)).eq_of_pairwise ?_ (Table.names_increasing _) (by decide)
  intro first second _ _ less more
  exact absurd (String.lt_trans less more) (String.lt_irrefl first)

/-- Whatever is registered, merged or reset, a registry that begins with the built-in commands has
under every name the handler that was written there last, and so has the registry of an
interpreter in every session. -/
theorem latest_served {η σ ω : Type} :
    (builtins : Registry (Builtin ⊕ η)).names =
        ["<", "<=", ">", ">=", "and", "diff", "eq", "max", "min", "neq", "or", "print", "sum",
          "wait"] ∧
      (∀ edits : List (Edit η), (builtins.edited edits).Serves (latest? edits)) ∧
      ∀ (host : Host (Builtin ⊕ η) σ ω) (script : Script) (extra : Registry (Builtin ⊕ η))
        (world : ω) (actions : List (Action η ω)),
        ((Interpreter.create script extra world).after host actions).registry.Serves
          (latest? (.extend extra :: actions.filterMap Action.edit?)) := by
  refine ⟨names_builtins, ?_, ?_⟩
  · intro edits
    exact serves_of_latest rfl
  · intro host script extra world actions
    apply serves_of_latest
    rw [Interpreter.after_registry, edited_cons]
    rfl

end Registry

end TickScript
