import TickScript.Proofs.Paths
import TickScript.Proofs.PlainDocuments

/-! What the entries of a file set. An entry sets a key by its own name and that of its section, and
where several set a key, the last one counts. -/
namespace TickScript.Config

abbrev Document := List (String × Toml)

def tableFields : Toml → Document
  | .table fields => fields
  | _ => []

/-- A name with a dot in it that stands for a key by itself. -/
def Key.Dotted (key : Key) (name : String) : Prop :=
  name.toList.all (fun c => KeyPath.isNameChar c || c == '.') ∧
    Text.lower name = key.group.2 ++ "." ++ key.field.2

instance (key : Key) (name : String) : Decidable (key.Dotted name) :=
  inferInstanceAs (Decidable (_ ∧ _))

/-- The value that an entry of a document gives a key, as the section of the key or by itself. -/
def entrySetting? (key : Key) (entry : String × Toml) : Option Raw :=
  if Text.lower entry.1 = key.group.2 then
    (tableFields entry.2).reverse.findSome? fun field =>
      if Text.lower field.1 = key.field.2 then Raw.ofToml? field.2 else none
  else if key.Dotted entry.1 then Raw.ofToml? entry.2
  else none

def Document.setting? (document : Document) (key : Key) : Option Raw :=
  document.reverse.findSome? (entrySetting? key)

/-! ### Sections and names with dots -/

theorem ofFields?_cons {name : String} {value : Toml} {rest : Document}
    {settings : List (String × Raw)}
    (converts : Raw.ofFields? ((name, value) :: rest) = some settings) :
    ∃ setting others, Raw.ofToml? value = some setting ∧ Raw.ofFields? rest = some others ∧
      settings = (name, setting) :: others := by
  unfold Raw.ofFields? at converts
  split at converts
  case h_1 setting others first following =>
    cases converts
    exact ⟨setting, others, first, following, rfl⟩
  case h_2 => contradiction

theorem ofToml?_table {value : Toml} {fields : List (String × Raw)}
    (converts : Raw.ofToml? value = some (.table fields)) :
    Raw.ofFields? (tableFields value) = some fields := by
  unfold Raw.ofToml? at converts
  split at converts
  case h_7 name inner rest =>
    split at converts
    · obtain ⟨_, _, other⟩ := Option.map_eq_some_iff.mp converts
      cases other
    · split at converts
      case h_1 first following =>
        cases converts
        rw [tableFields, Raw.ofFields?, first, following]
      case h_2 => contradiction
  case h_8 =>
    cases converts
    rfl
  case h_6 =>
    obtain ⟨_, _, other⟩ := Option.map_eq_some_iff.mp converts
    cases other
  all_goals cases converts

/-- The last of the fields of a name has its value. -/
theorem lookup_lowered {fields : Document} {settings : List (String × Raw)}
    (converts : Raw.ofFields? fields = some settings) (name : String) :
    (lowered settings).reverse.lookup name = fields.reverse.findSome? fun field =>
      if Text.lower field.1 = name then Raw.ofToml? field.2 else none := by
  induction fields generalizing settings with
  | nil =>
    cases converts
    rfl
  | cons field rest ih =>
    obtain ⟨setting, others, first, following, rfl⟩ := ofFields?_cons converts
    have single := Raw.lookup_single_or (Text.lower field.1) setting name none
    rw [Option.or_none] at single
    rw [lowered, List.map_cons, List.reverse_cons, List.lookup_append, List.reverse_cons,
      List.findSome?_append, List.findSome?_singleton, ← ih following, lowered, single, first,
      ite_cond_congr (propext eq_comm)]

namespace Key

variable {key : Key} {name : String}

theorem not_mem_of_lower {c : Char} (fixed : Text.lowerChar c = c) {lowered : String}
    (same : Text.lower name = lowered) (absent : c ∉ lowered.toList) : c ∉ name.toList := by
  intro inside
  rw [← same, Text.toList_lower, ← fixed] at absent
  exact absent (List.mem_map_of_mem inside)

/-- A name of a section is a path by itself. -/
theorem path_of_section (here : Text.lower name = key.group.2) :
    KeyPath.ofString name = [.field name] :=
  KeyPath.ofString_plain (not_mem_of_lower (by decide) here key.group_plain.1)
    (not_mem_of_lower (by decide) here key.group_plain.2.1)

/-- A part of a name is a name where the part of the key is one. -/
theorem isName_of_lower {part : List Char} {lowered : String}
    (chars : ∀ c ∈ part, KeyPath.isNameChar c || c == '.')
    (same : part.map Text.lowerChar = lowered.toList)
    (named : KeyPath.IsName lowered.toList) (undotted : '.' ∉ lowered.toList) :
    KeyPath.IsName part := by
  refine ⟨fun empty => named.1 (same.symm.trans (congrArg _ empty)), fun c member => ?_⟩
  obtain letter | dot := Bool.or_eq_true_iff.mp (chars c member)
  · exact letter
  · cases beq_iff_eq.mp dot
    rw [← same] at undotted
    exact absurd (List.mem_map_of_mem (f := Text.lowerChar) member) undotted

theorem path_of_dotted (dotted : key.Dotted name) : ∃ outer inner,
    KeyPath.ofString name = [.field outer, .field inner] ∧ Text.lower outer = key.group.2 ∧
      Text.lower inner = key.field.2 := by
  obtain ⟨chars, same⟩ := dotted
  have parts : name.toList.map Text.lowerChar =
      key.group.2.toList ++ '.' :: key.field.2.toList := by
    rw [← Text.toList_lower, same, String.toList_append, String.toList_append, List.append_assoc]
    rfl
  obtain ⟨outer, back, whole, group, following⟩ := List.map_eq_append_iff.mp parts
  obtain ⟨dot, inner, rfl, middle, field⟩ := List.map_eq_cons_iff.mp following
  cases Text.lowerChar_eq_dot.mp middle
  rw [whole] at chars
  obtain ⟨outside, inside⟩ := List.forall_mem_append.mp (List.all_eq_true.mp chars)
  refine ⟨String.ofList outer, String.ofList inner, KeyPath.ofString_two.mpr ⟨?_, ?_, ?_⟩, ?_, ?_⟩
  · rw [String.toList_ofList, String.toList_ofList, whole]
  · rw [String.toList_ofList]
    exact isName_of_lower outside group key.isName.1 key.group_plain.1
  · rw [String.toList_ofList]
    exact isName_of_lower (List.forall_mem_cons.mp inside).2 field key.isName.2 key.field_plain
  · exact Text.lower_eq (by rw [String.toList_ofList, group])
  · exact Text.lower_eq (by rw [String.toList_ofList, field])

theorem dotted_of_path {outer inner : String}
    (path : KeyPath.ofString name = [.field outer, .field inner])
    (group : Text.lower outer = key.group.2) (field : Text.lower inner = key.field.2) :
    key.Dotted name := by
  obtain ⟨same, outside, inside⟩ := KeyPath.ofString_two.mp path
  constructor
  · rw [same, List.all_append, List.all_cons, Bool.and_eq_true, Bool.and_eq_true]
    have letters {part : List Char} (named : KeyPath.IsName part) :
        part.all (fun c => KeyPath.isNameChar c || c == '.') = true :=
      List.all_eq_true.mpr fun c member => Bool.or_eq_true_iff.mpr (.inl (named.2 c member))
    exact ⟨letters outside, by decide, letters inside⟩
  · refine String.toList_injective ?_
    rw [Text.toList_lower, same, List.map_append, List.map_cons, ← Text.toList_lower,
      ← Text.toList_lower, group, field, String.toList_append, String.toList_append,
      List.append_assoc]
    rfl

end Key

/-- What an entry of a document writes for a key. -/
theorem written_entry {name : String} {value : Toml} {raw : Raw} {key : Key}
    (converts : Raw.ofToml? value = some raw)
    (byKey : (KeyPath.ofString name).group? = some key.group.2 →
      WritesByKey (KeyPath.ofString name) raw) :
    (written key.group.2 (KeyPath.ofString name) raw).reverse.lookup key.field.2 =
      entrySetting? key (name, value) := by
  unfold entrySetting?
  by_cases sections : Text.lower name = key.group.2
  · have path := Key.path_of_section sections
    have here : (KeyPath.ofString name).group? = some key.group.2 := by
      rw [path, KeyPath.group?, sections]
    have writes := byKey here
    rw [path] at here writes
    cases raw with
    | table fields =>
      rw [path, if_pos sections, ← lookup_lowered (ofToml?_table converts), written, if_pos here]
    | nothing | bool | int | float | str | list => contradiction
  · rw [if_neg sections]
    by_cases dotted : key.Dotted name
    · obtain ⟨outer, inner, path, group, field⟩ := Key.path_of_dotted dotted
      rw [if_pos dotted, converts, path, lookup_written group, if_pos field]
    · rw [if_neg dotted]
      by_cases here : (KeyPath.ofString name).group? = some key.group.2
      · obtain ⟨outer, _, path, _⟩ | ⟨outer, inner, path⟩ := (byKey here).shape
        · cases KeyPath.ofString_one path
          rw [path] at here
          exact absurd (Option.some.inj here) sections
        · have group : Text.lower outer = key.group.2 := by
            rw [path] at here
            exact Option.some.inj here
          have other : Text.lower inner ≠ key.field.2 :=
            fun field => dotted (Key.dotted_of_path path group field)
          rw [path, lookup_written group, if_neg other]
      · rw [written_other here]
        rfl

/-- The last of the entries for a key gives it its value. -/
theorem documentLayer_setting {document : Document} {layer : Layer}
    (converts : Raw.ofFields? document = some layer) (byKey : layer.ByKey) (key : Key) :
    layer.setting? key = document.setting? key := by
  rw [Layer.setting?_byKey byKey]
  unfold Document.setting?
  induction document generalizing layer with
  | nil =>
    cases converts
    rfl
  | cons entry rest ih =>
    obtain ⟨raw, others, first, following, rfl⟩ := ofFields?_cons converts
    obtain ⟨here, there⟩ := List.forall_mem_cons.mp byKey
    rw [lookup_writtenAll_cons, ih following there, written_entry first (here key),
      List.reverse_cons, List.findSome?_append, List.findSome?_singleton]

/-! ### Plain documents -/

theorem ofFields?_spelled {fields : Document} (spelled : ∀ field ∈ fields, Toml.Spelled field.2) :
    ∃ settings, Raw.ofFields? fields = some settings ∧
      ∀ setting ∈ settings, setting.2.isPlain = true := by
  induction fields with
  | nil => exact ⟨[], rfl, List.forall_mem_nil _⟩
  | cons field rest ih =>
    obtain ⟨here, there⟩ := List.forall_mem_cons.mp spelled
    obtain ⟨settings, converts, plain⟩ := ih there
    obtain ⟨name, value⟩ := field
    have first : ∃ setting, Raw.ofToml? value = some setting ∧ setting.isPlain = true := by
      cases value with
      | int | bool | str => exact ⟨_, rfl, rfl⟩
      | float | moment | array | table => exact here.elim
    obtain ⟨setting, first, single⟩ := first
    refine ⟨(name, setting) :: settings, ?_, List.forall_mem_cons.mpr ⟨single, plain⟩⟩
    rw [Raw.ofFields?, first, converts]

theorem not_momentName {name : String} (bare : Toml.IsBare name.toList) :
    name ≠ Raw.momentName := by
  rintro rfl
  exact absurd (bare.2 '$' (by decide)) (by decide)

theorem ofToml?_section {part : Toml.Section} (plain : part.Plain) :
    ∃ settings, Raw.ofToml? (.table part.2) = some (.table settings) ∧
      ∀ setting ∈ settings, setting.2.isPlain = true := by
  obtain ⟨name, fields⟩ := part
  obtain ⟨settings, converts, single⟩ :=
    ofFields?_spelled fun field member => (plain.entries field member).2
  refine ⟨settings, ?_, single⟩
  cases fields with
  | nil =>
    cases converts
    rfl
  | cons field rest =>
    obtain ⟨setting, others, first, following, rfl⟩ := ofFields?_cons converts
    have other := not_momentName (plain.entries field List.mem_cons_self).1
    rw [Raw.ofToml?, if_neg other, first, following]

theorem ofFields?_sections {document : List Toml.Section} (plain : ∀ part ∈ document, part.Plain) :
    ∃ layer : Layer, layer.ByKey ∧
      Raw.ofFields? (document.map fun part => (part.1, .table part.2)) = some layer := by
  induction document with
  | nil => exact ⟨[], List.forall_mem_nil _, rfl⟩
  | cons part rest ih =>
    obtain ⟨here, there⟩ := List.forall_mem_cons.mp plain
    obtain ⟨layer, byKey, converts⟩ := ih there
    obtain ⟨settings, first, single⟩ := ofToml?_section here
    refine ⟨(part.1, .table settings) :: layer, List.forall_mem_cons.mpr ⟨?_, byKey⟩, ?_⟩
    · intro key _
      have letters := here.named.2
      have path := KeyPath.ofString_plain
        (fun inside => absurd (letters '.' inside) (by decide))
        (fun inside => absurd (letters '[' inside) (by decide))
      rw [path]
      exact single
    · rw [List.map_cons, Raw.ofFields?, first, converts]

/-- A plain document in a file is written key by key, and the last of its entries for a key gives
it its value. -/
theorem fileLayer?_plain {document : List Toml.Section} (plain : Toml.PlainDocument document) :
    ∃ layer, fileLayer? (String.ofList (Toml.documentText document)) = some layer ∧ layer.ByKey ∧
      ∀ key, layer.setting? key =
        Document.setting? (document.map fun part => (part.1, .table part.2)) key := by
  obtain ⟨layer, byKey, converts⟩ := ofFields?_sections plain.sections
  refine ⟨layer, ?_, byKey, documentLayer_setting converts byKey⟩
  rw [fileLayer?, String.toList_ofList, Toml.withoutMark_documentText, Toml.read?_plain plain,
    Option.bind_some, Raw.ofDocument?, if_neg, converts]
  cases document with
  | nil => exact Bool.false_ne_true
  | cons part rest =>
    have named := (plain.sections part List.mem_cons_self).named
    exact fun moment => not_momentName named (beq_iff_eq.mp moment)

end TickScript.Config
