/-! Finite maps from names to values, kept as an association list in strictly
increasing order of names. The order is part of the type, so two tables with
the same look-ups are equal and the names are listed in one order only. -/
namespace TickScript

/-- A finite map from names to values, in increasing order of names. -/
structure Table (α : Type) where
  entries : List (String × α)
  increasing : entries.Pairwise (fun a b => a.1 < b.1)

namespace Table

variable {α : Type}

/-- Writes one entry of an association list in increasing order of names. -/
def write (name : String) (value : α) : List (String × α) → List (String × α)
  | [] => [(name, value)]
  | (other, kept) :: rest =>
    if name < other then (name, value) :: (other, kept) :: rest
    else if name = other then (name, value) :: rest
    else (other, kept) :: write name value rest

theorem mem_write {name : String} {value : α} {entry : String × α} :
    ∀ {entries : List (String × α)}, entry ∈ write name value entries →
      entry = (name, value) ∨ entry ∈ entries
  | [], h => by simpa [write] using h
  | (other, kept) :: rest, h => by
    unfold write at h
    split at h
    · simpa using h
    · split at h
      · simp only [List.mem_cons] at h ⊢
        exact h.imp id .inr
      · simp only [List.mem_cons] at h ⊢
        rcases h with h | h
        · exact .inr (.inl h)
        · exact (mem_write h).imp id .inr

theorem lt_of_not_lt_of_ne {a b : String} (not_less : ¬ a < b) (different : a ≠ b) : b < a := by
  rcases String.le_total a b with h | h
  · exact absurd (String.le_antisymm h (String.not_lt.mp not_less)) different
  · exact Decidable.byContradiction fun not_greater =>
      different (String.le_antisymm (String.not_lt.mp not_greater) h)

theorem write_increasing (name : String) (value : α) :
    ∀ {entries : List (String × α)}, entries.Pairwise (fun a b => a.1 < b.1) →
      (write name value entries).Pairwise (fun a b => a.1 < b.1)
  | [], _ => by simp [write]
  | (other, kept) :: rest, sorted => by
    have ⟨above, tail⟩ := List.pairwise_cons.mp sorted
    unfold write
    split
    case isTrue less =>
      refine List.pairwise_cons.mpr ⟨fun entry member => ?_, sorted⟩
      rcases List.mem_cons.mp member with rfl | member
      · exact less
      · exact String.lt_trans less (above entry member)
    case isFalse not_less =>
      split
      case isTrue same => subst same; exact List.pairwise_cons.mpr ⟨above, tail⟩
      case isFalse different =>
        refine List.pairwise_cons.mpr ⟨fun entry member => ?_, write_increasing name value tail⟩
        rcases mem_write member with rfl | member
        · exact lt_of_not_lt_of_ne not_less different
        · exact above entry member

def empty : Table α := ⟨[], .nil⟩

instance : Inhabited (Table α) := ⟨empty⟩

/-- The value under a name, if there is one. -/
def get? (table : Table α) (name : String) : Option α := table.entries.lookup name

def contains (table : Table α) (name : String) : Bool := (table.get? name).isSome

/-- Writes a value under a name, over any earlier value there. -/
def insert (table : Table α) (name : String) (value : α) : Table α :=
  ⟨write name value table.entries, write_increasing name value table.increasing⟩

/-- Writes entries one after the other: the last value of a name stays. -/
def insertAll (table : Table α) (entries : List (String × α)) : Table α :=
  entries.foldl (fun table entry => table.insert entry.1 entry.2) table

def ofList (entries : List (String × α)) : Table α := empty.insertAll entries

/-- Writes every entry of the second table over the first. -/
def merge (table other : Table α) : Table α := table.insertAll other.entries

def names (table : Table α) : List String := table.entries.map Prod.fst

def size (table : Table α) : Nat := table.entries.length

def isEmpty (table : Table α) : Bool := table.entries.isEmpty

theorem lookup_write (name : String) (value : α) (key : String) :
    ∀ entries : List (String × α), (write name value entries).lookup key =
      if key = name then some value else entries.lookup key
  | [] => by
    by_cases h : key = name
    · subst h
      simp only [write, List.lookup_cons, beq_self_eq_true, if_true]
    · have hne : (key == name) = false := beq_eq_false_iff_ne.mpr h
      simp only [write, List.lookup_cons, List.lookup_nil, hne, h, if_false]
  | (other, kept) :: rest => by
    have ih := lookup_write name value key rest
    unfold write
    by_cases h : key = name
    · subst h
      split
      · simp only [List.lookup_cons, beq_self_eq_true, if_true]
      · split
        · simp only [List.lookup_cons, beq_self_eq_true, if_true]
        · rename_i different
          have hne : (key == other) = false := beq_eq_false_iff_ne.mpr different
          simp only [List.lookup_cons, hne, ih, if_true]
    · have hne : (key == name) = false := beq_eq_false_iff_ne.mpr h
      split
      · simp only [List.lookup_cons, hne]
      · split
        · rename_i same
          subst same
          simp only [List.lookup_cons, hne]
        · simp only [List.lookup_cons, ih, h, if_false]

@[simp] theorem get?_empty (key : String) : (empty : Table α).get? key = none := rfl

/-- Reading after a write: the written name has the new value, all others are as before. -/
theorem get?_insert (table : Table α) (name : String) (value : α) (key : String) :
    (table.insert name value).get? key = if key = name then some value else table.get? key :=
  lookup_write name value key table.entries

theorem insertAll_append (table : Table α) (entries others : List (String × α)) :
    table.insertAll (entries ++ others) = (table.insertAll entries).insertAll others :=
  List.foldl_append

/-- Reading after several writes: a name has the value written last, if one was written. -/
theorem get?_insertAll (table : Table α) (entries : List (String × α)) (key : String) :
    (table.insertAll entries).get? key = (entries.reverse.lookup key).or (table.get? key) := by
  induction entries generalizing table with
  | nil => rfl
  | cons entry rest ih =>
    obtain ⟨name, value⟩ := entry
    have later : (table.insertAll ((name, value) :: rest)).get? key =
        (rest.reverse.lookup key).or ((table.insert name value).get? key) := ih _
    rw [later, get?_insert, List.reverse_cons, List.lookup_append, Option.or_assoc]
    by_cases same : key = name
    · simp [same]
    · simp [same, List.lookup_cons, beq_false_of_ne same]

theorem get?_ofList (entries : List (String × α)) (key : String) :
    (ofList entries).get? key = entries.reverse.lookup key := by
  rw [ofList, get?_insertAll, get?_empty, Option.or_none]

/-- Nothing is in a table that was not written. -/
theorem mem_insertAll {table : Table α} {entries : List (String × α)} {entry : String × α}
    (member : entry ∈ (table.insertAll entries).entries) :
    entry ∈ entries ∨ entry ∈ table.entries := by
  induction entries generalizing table with
  | nil => exact .inr member
  | cons first rest ih =>
    rcases ih member with later | kept
    · exact .inl (.tail _ later)
    · rcases mem_write kept with rfl | before
      · exact .inl (.head _)
      · exact .inr before

theorem mem_ofList {entries : List (String × α)} {entry : String × α}
    (member : entry ∈ (ofList entries).entries) : entry ∈ entries :=
  (mem_insertAll member).resolve_right List.not_mem_nil

theorem length_le_write (name : String) (value : α) :
    ∀ entries : List (String × α), entries.length ≤ (write name value entries).length
  | [] => Nat.zero_le _
  | (other, kept) :: rest => by
    unfold write
    split
    · exact Nat.le_succ _
    · split
      · exact Nat.le_refl _
      · exact Nat.succ_le_succ (length_le_write name value rest)

theorem size_le_insert (table : Table α) (name : String) (value : α) :
    table.size ≤ (table.insert name value).size :=
  length_le_write name value table.entries

theorem contains_insert {table : Table α} {name key : String} {value : α} :
    (table.insert name value).contains key = true ↔ key = name ∨ table.contains key = true := by
  simp only [contains, get?_insert]
  split <;> simp [*]

theorem contains_insertAll {table : Table α} {entries : List (String × α)} {key : String}
    (there : table.contains key = true) : (table.insertAll entries).contains key = true := by
  simp only [contains, get?_insertAll, Option.isSome_or] at there ⊢
  simp [there]

theorem lookup_below {name : String} :
    ∀ {entries : List (String × α)}, (∀ entry ∈ entries, name < entry.1) →
      entries.lookup name = none
  | [], _ => rfl
  | (other, kept) :: rest, below => by
    have different : (name == other) = false :=
      beq_eq_false_iff_ne.mpr (String.ne_of_lt (below _ List.mem_cons_self))
    rw [List.lookup_cons, different]
    exact lookup_below fun entry member => below entry (List.mem_cons_of_mem _ member)

/-- What is found in increasing order is not below the first name. -/
theorem not_lt_of_lookup {name other : String} {value kept : α} {rest : List (String × α)}
    (sorted : ((other, kept) :: rest).Pairwise (fun a b => a.1 < b.1))
    (found : ((other, kept) :: rest).lookup name = some value) : ¬ name < other := by
  intro less
  have below : ∀ entry ∈ (other, kept) :: rest, name < entry.1 := by
    intro entry member
    rcases List.mem_cons.mp member with rfl | later
    · exact less
    · exact String.lt_trans less ((List.pairwise_cons.mp sorted).1 entry later)
  rw [lookup_below below] at found
  contradiction

theorem lookup_ext : ∀ {entries others : List (String × α)},
    entries.Pairwise (fun a b => a.1 < b.1) → others.Pairwise (fun a b => a.1 < b.1) →
      (∀ name, entries.lookup name = others.lookup name) → entries = others
  | [], [], _, _, _ => rfl
  | [], (name, _) :: _, _, _, same => by simpa using same name
  | (name, _) :: _, [], _, _, same => by simpa using same name
  | (name, value) :: rest, (other, kept) :: later, sorted, also, same => by
    have here : ((name, value) :: rest).lookup name = some value := by simp
    have there : ((other, kept) :: later).lookup other = some kept := by simp
    obtain rfl : name = other := by
      have not_less := not_lt_of_lookup also ((same name).symm.trans here)
      have not_more := not_lt_of_lookup sorted ((same other).trans there)
      exact String.le_antisymm (String.not_lt.mp not_more) (String.not_lt.mp not_less)
    obtain rfl : value = kept := Option.some.inj (here.symm.trans ((same name).trans there))
    have ⟨above, tail⟩ := List.pairwise_cons.mp sorted
    have ⟨beyond, following⟩ := List.pairwise_cons.mp also
    refine congrArg _ (lookup_ext tail following fun key => ?_)
    by_cases head : key = name
    · subst head
      rw [lookup_below above, lookup_below beyond]
    · simpa only [List.lookup_cons, beq_eq_false_iff_ne.mpr head] using same key

/-- Tables with the same look-ups are the same. -/
theorem ext {table other : Table α} (same : ∀ name, table.get? name = other.get? name) :
    table = other := by
  obtain ⟨entries, sorted⟩ := table
  obtain ⟨others, also⟩ := other
  obtain rfl : entries = others := lookup_ext sorted also same
  rfl

/-- Writes under different names can be made in either order. -/
theorem insert_comm (table : Table α) {name other : String} (different : name ≠ other)
    (value kept : α) :
    (table.insert name value).insert other kept = (table.insert other kept).insert name value := by
  apply ext
  intro key
  simp only [get?_insert]
  split <;> split <;> simp_all

end Table
end TickScript
