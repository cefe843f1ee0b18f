import TickScript.Config.Layers

/-! The settings of a configuration by layers. A layer that writes sections key by key leaves every
key that it does not write as it was, so in layers over one another a key has the value that the
highest of them gives it. -/
namespace TickScript.Config

inductive Key
  | tickIntervalMs
  | maxTicks
  | stopOnError
  | logLevel

namespace Key

def group : Key → Nat × String
  | logLevel => (1, "log")
  | _ => (0, "runner")

def field : Key → Nat × String
  | tickIntervalMs => (0, "tick_interval_ms")
  | maxTicks => (1, "max_ticks")
  | stopOnError => (2, "stop_on_error")
  | logLevel => (0, "level")

end Key

/-- The setting of a key, where a configuration is read from. -/
def Raw.at? (settings : Raw) (key : Key) : Option Raw := do
  let sections ← settings.parts?
  let fields ← (← sections key.group.1 key.group.2).parts?
  fields key.field.1 key.field.2

def KeyPath.group? : KeyPath → Option String
  | .field name :: _ => some (Text.lower name)
  | _ => none

def Layer.about (layer : Layer) (group : String) : Layer :=
  layer.filter fun entry => (KeyPath.ofString entry.1).group? == some group

/-- The value that a layer gives a key by itself. -/
def Layer.setting? (layer : Layer) (key : Key) : Option Raw :=
  (Raw.setAll (layer.about key.group.2) (.table [])).toOption.bind (·.at? key)

def Raw.isPlain : Raw → Bool
  | .list _ | .table _ => false
  | _ => true

/-- A value for a key of a section, or several of them in a table. -/
def WritesByKey : KeyPath → Raw → Prop
  | [.field _], .table fields => ∀ field ∈ fields, field.2.isPlain = true
  | [.field _, .field _], value => value.isPlain = true
  | _, _ => False

theorem WritesByKey.shape {path : KeyPath} {value : Raw} (writes : WritesByKey path value) :
    (∃ name fields, path = [.field name] ∧ value = .table fields) ∨
      ∃ outer name, path = [.field outer, .field name] := by
  unfold WritesByKey at writes
  split at writes
  case h_1 name fields => exact .inl ⟨name, fields, rfl, rfl⟩
  case h_2 outer name => exact .inr ⟨outer, name, rfl⟩
  case h_3 => contradiction

/-- A layer whose entries for the sections of a configuration give plain values to their keys. -/
def Layer.ByKey (layer : Layer) : Prop :=
  ∀ entry ∈ layer, ∀ key : Key, (KeyPath.ofString entry.1).group? = some key.group.2 →
    WritesByKey (KeyPath.ofString entry.1) entry.2

/-! ### Writing into a section -/

theorem KeyPath.ofString_field (text : String) :
    ∃ name rest, KeyPath.ofString text = .field name :: rest := by
  unfold ofString
  cases read : read? text.toList with
  | none => exact ⟨text, [], rfl⟩
  | some path =>
    simp only [read?, steps?] at read
    split at read
    · contradiction
    · obtain ⟨rest, _, rfl⟩ := Option.map_eq_some_iff.mp read
      exact ⟨_, rest, rfl⟩

namespace Raw

theorem put_eq_write (name : String) (value target : Raw) :
    ∃ inner, put name value target = target.write name inner := by
  cases value <;> exact ⟨_, rfl⟩

theorem put_plain {value : Raw} (plain : value.isPlain = true) (name : String) (target : Raw) :
    put name value target = target.write name value := by
  cases value <;> first | rfl | contradiction

theorem set_field {value target next : Raw} {name : String} {rest : KeyPath}
    (ends : set value (.field name :: rest) target = .ok next) :
    ∃ inner, next = target.write name inner := by
  cases rest with
  | nil =>
    simp only [set] at ends
    cases ends
    exact put_eq_write name value target
  | cons step rest =>
    simp only [set] at ends
    cases inner : set value (step :: rest) ((target.field? name).getD .nothing) with
    | error cause => rw [inner] at ends; cases ends
    | ok inner' => rw [inner] at ends; cases ends; exact ⟨inner', rfl⟩

end Raw

def lowered (fields : List (String × Raw)) : List (String × Raw) :=
  fields.map fun field => (Text.lower field.1, field.2)

/-- What is written into a section, if it is written key by key. -/
def written (group : String) (path : KeyPath) (value : Raw) : List (String × Raw) :=
  if path.group? = some group then
    match path, value with
    | [.field _], .table fields => lowered fields
    | [.field _, .field name], value => lowered [(name, value)]
    | _, _ => []
  else []

theorem written_other {group : String} {path : KeyPath} (other : path.group? ≠ some group)
    (value : Raw) : written group path value = [] :=
  if_neg other

theorem written_field {group outer : String} (here : Text.lower outer = group) (name : String)
    (value : Raw) :
    written group [.field outer, .field name] value = [(Text.lower name, value)] := by
  unfold written
  exact if_pos (congrArg some here)

/-- Settings with a section of these fields. A section without fields may be missing. -/
structure Raw.Shows (settings : Raw) (group : String) (shown : String → Option Raw) : Prop where
  table : ∃ fields, settings = .table fields
  inside : ∃ inner, (settings.fields.lookup group).getD (.table []) = .table inner ∧
    ∀ name, inner.lookup name = shown name

namespace Raw

theorem lookup_single_or (name : String) (value : Raw) (key : String) (rest : Option Raw) :
    ([(name, value)].lookup key).or rest = if key = name then some value else rest := by
  by_cases same : key = name
  · simp [same]
  · simp [same, List.lookup_cons, beq_false_of_ne same]

theorem putAll_plain {incoming : List (String × Raw)}
    (plain : ∀ field ∈ incoming, field.2.isPlain = true) (fields : List (String × Raw)) :
    ∃ left, putAll incoming (.table fields) = .table left ∧
      ∀ name, left.lookup name =
        ((lowered incoming).reverse.lookup name).or (fields.lookup name) := by
  induction incoming generalizing fields with
  | nil => exact ⟨fields, rfl, fun _ => rfl⟩
  | cons field rest ih =>
    obtain ⟨here, there⟩ := List.forall_mem_cons.mp plain
    obtain ⟨left, same, lookup⟩ := ih there (Table.write (Text.lower field.1) field.2 fields)
    refine ⟨left, ?_, fun name => ?_⟩
    · rw [putAll, put_plain here]
      exact same
    · rw [lookup, Table.lookup_write, lowered, lowered, List.map_cons, List.reverse_cons,
        List.lookup_append, Option.or_assoc, lookup_single_or]

variable {settings next : Raw} {group : String} {shown : String → Option Raw}

theorem Shows.empty (group : String) : Shows (.table []) group fun _ => none :=
  ⟨⟨[], rfl⟩, [], rfl, fun _ => rfl⟩

/-- A write under another name. -/
theorem Shows.write_other (shows : settings.Shows group shown) {name : String}
    (other : Text.lower name ≠ group) (value : Raw) :
    (settings.write name value).Shows group shown := by
  refine ⟨⟨_, rfl⟩, ?_⟩
  rw [write, fields, Table.lookup_write, if_neg other.symm]
  exact shows.inside

/-- A write of the section itself. -/
theorem shows_write {inner : List (String × Raw)} {name : String}
    (same : Text.lower name = group) (lookup : ∀ name, inner.lookup name = shown name) :
    (settings.write name (.table inner)).Shows group shown := by
  refine ⟨⟨_, rfl⟩, inner, ?_, lookup⟩
  rw [write, fields, Table.lookup_write, if_pos same.symm]
  rfl

/-- A value that is written key by key. -/
theorem Shows.set_byKey (shows : settings.Shows group shown) {path : KeyPath} {value : Raw}
    (here : path.group? = some group) (byKey : WritesByKey path value) :
    ∃ next, set value path settings = .ok next ∧
      next.Shows group fun name =>
        ((written group path value).reverse.lookup name).or (shown name) := by
  obtain ⟨inner, holds, lookup⟩ := shows.inside
  match path, value, byKey with
  | [.field outer], .table incoming, plain =>
    have same : Text.lower outer = group := Option.some.inj here
    obtain ⟨left, put, after⟩ := putAll_plain plain inner
    refine ⟨settings.write outer (.table left), ?_, shows_write same fun name => ?_⟩
    · rw [set, Raw.put, field?, same, holds, put]
    · rw [after, lookup, written, if_pos here]
  | [.field outer, .field name], value, plain =>
    have same : Text.lower outer = group := Option.some.inj here
    have fields : ((settings.field? outer).getD .nothing).fields = inner := by
      rw [field?, same]
      generalize settings.fields.lookup group = found at holds
      cases found <;> cases holds <;> rfl
    refine ⟨settings.write outer (.table (Table.write (Text.lower name) value inner)), ?_,
      shows_write same fun other => ?_⟩
    · simp only [set, put_plain plain, write, fields]
      rfl
    · rw [Table.lookup_write, lookup, written_field same, List.reverse_singleton,
        lookup_single_or]

/-- An entry, whatever section it is for. -/
theorem Shows.entry (shows : settings.Shows group shown) {entry : String × Raw}
    (byKey : (KeyPath.ofString entry.1).group? = some group →
      WritesByKey (KeyPath.ofString entry.1) entry.2)
    (ends : set entry.2 (KeyPath.ofString entry.1) settings = .ok next) :
    next.Shows group fun name =>
      ((written group (KeyPath.ofString entry.1) entry.2).reverse.lookup name).or (shown name) := by
  by_cases here : (KeyPath.ofString entry.1).group? = some group
  · obtain ⟨_, also, shows⟩ := shows.set_byKey here (byKey here)
    cases ends.symm.trans also
    exact shows
  · simp only [written_other here]
    obtain ⟨name, rest, path⟩ := KeyPath.ofString_field entry.1
    rw [path] at ends here
    obtain ⟨inner, rfl⟩ := set_field ends
    exact shows.write_other (fun same => here (congrArg some same)) inner

def writtenAll (group : String) (layer : Layer) : List (String × Raw) :=
  layer.flatMap fun entry => written group (KeyPath.ofString entry.1) entry.2

theorem Shows.layer {layer : Layer} (shows : settings.Shows group shown)
    (byKey : ∀ entry ∈ layer, (KeyPath.ofString entry.1).group? = some group →
      WritesByKey (KeyPath.ofString entry.1) entry.2)
    (ends : setAll layer settings = .ok next) :
    next.Shows group fun name =>
      ((writtenAll group layer).reverse.lookup name).or (shown name) := by
  induction layer generalizing settings shown with
  | nil =>
    cases ends
    exact shows
  | cons entry rest ih =>
    obtain ⟨here, there⟩ := List.forall_mem_cons.mp byKey
    rw [setAll, List.foldlM_cons] at ends
    cases first : set entry.2 (KeyPath.ofString entry.1) settings with
    | error cause => rw [first] at ends; cases ends
    | ok middle =>
      rw [first] at ends
      have following := ih (shows.entry here first) there ends
      simp only [writtenAll, List.flatMap_cons, List.reverse_append, List.lookup_append,
        Option.or_assoc]
      exact following

/-- Entries for a section that write key by key do not break down. -/
theorem Shows.layer_ok {layer : Layer} (shows : settings.Shows group shown)
    (byKey : ∀ entry ∈ layer, (KeyPath.ofString entry.1).group? = some group ∧
      WritesByKey (KeyPath.ofString entry.1) entry.2) :
    ∃ next, setAll layer settings = .ok next := by
  induction layer generalizing settings shown with
  | nil => exact ⟨settings, rfl⟩
  | cons entry rest ih =>
    obtain ⟨⟨here, writes⟩, there⟩ := List.forall_mem_cons.mp byKey
    obtain ⟨middle, first, shows⟩ := shows.set_byKey here writes
    rw [setAll, List.foldlM_cons, first]
    exact ih shows there

/-- Where a section shows a key, a configuration is read from. -/
theorem Shows.at? {key : Key} (shows : settings.Shows key.group.2 shown) :
    settings.at? key = shown key.field.2 := by
  obtain ⟨⟨fields, rfl⟩, inner, holds, lookup⟩ := shows
  simp only [Raw.at?, parts?, Option.bind_eq_bind, Option.bind_some]
  simp only [Raw.fields] at holds
  cases found : fields.lookup key.group.2 with
  | none =>
    rw [found] at holds
    cases holds
    exact lookup key.field.2
  | some value =>
    rw [found] at holds
    cases holds
    exact lookup key.field.2

end Raw

/-! ### Layers over one another -/

theorem Raw.writtenAll_about (group : String) (layer : Layer) :
    writtenAll group (layer.about group) = writtenAll group layer := by
  induction layer with
  | nil => rfl
  | cons entry rest ih =>
    simp only [Layer.about, writtenAll, List.filter_cons, List.flatMap_cons] at ih ⊢
    by_cases here : (KeyPath.ofString entry.1).group? = some group
    · rw [if_pos (beq_iff_eq.mpr here), List.flatMap_cons, ih]
    · rw [if_neg (mt beq_iff_eq.mp here), ih, written_other here, List.nil_append]

/-- What a layer writes key by key is what it gives a key by itself. -/
theorem Layer.setting?_byKey {layer : Layer} (byKey : layer.ByKey) (key : Key) :
    layer.setting? key = (Raw.writtenAll key.group.2 layer).reverse.lookup key.field.2 := by
  have about : ∀ entry ∈ layer.about key.group.2,
      (KeyPath.ofString entry.1).group? = some key.group.2 ∧
        WritesByKey (KeyPath.ofString entry.1) entry.2 := by
    intro entry member
    obtain ⟨member, here⟩ := List.mem_filter.mp member
    exact ⟨beq_iff_eq.mp here, byKey entry member key (beq_iff_eq.mp here)⟩
  have start := Raw.Shows.empty key.group.2
  obtain ⟨next, ends⟩ := start.layer_ok about
  have shows := start.layer (fun entry member _ => (about entry member).2) ends
  rw [setting?, ends, Except.toOption, Option.bind_some, shows.at?, Option.or_none,
    Raw.writtenAll_about]

end TickScript.Config
