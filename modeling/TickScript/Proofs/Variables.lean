import TickScript.Proofs.Paths

/-! What variables set. The name of a variable tells which key it sets, and where several set a key,
the last one counts. -/
namespace TickScript.Config

def Key.variable : Key → String
  | tickIntervalMs => "CADENCE_RUNNER__TICK_INTERVAL_MS"
  | maxTicks => "CADENCE_RUNNER__MAX_TICKS"
  | stopOnError => "CADENCE_RUNNER__STOP_ON_ERROR"
  | logLevel => "CADENCE_LOG__LEVEL"

/-- A variable sets a key. The case of letters does not matter. -/
def Key.Names (key : Key) (name : String) : Prop :=
  Text.lower name = "cadence_" ++ key.group.2 ++ "__" ++ key.field.2 ∨
    Text.lower name = "cadence_" ++ key.group.2 ++ "." ++ key.field.2

instance (key : Key) (name : String) : Decidable (key.Names name) :=
  inferInstanceAs (Decidable (_ ∨ _))

/-- The value that the last of the variables for a key gives it. -/
def Environment.setting? (environment : Environment) (key : Key) : Option Raw :=
  environment.entries.reverse.findSome? fun entry =>
    if key.Names entry.1 then some (variableValue entry.2) else none

/-! ### Names -/

theorem dotted_cons {c : Char} {rest : List Char}
    (single : ∀ others, c = '_' → rest = '_' :: others → False) :
    dotted (c :: rest) = c :: dotted rest :=
  dotted.eq_2 c rest single

theorem mem_dotted {c : Char} {text : List Char} (member : c ∈ dotted text) :
    c = '.' ∨ c ∈ text := by
  induction text using dotted.induct with
  | case1 rest ih =>
    obtain rfl | member := List.mem_cons.mp member
    · exact .inl rfl
    · exact (ih member).imp_right fun inside =>
        List.mem_cons_of_mem _ (List.mem_cons_of_mem _ inside)
  | case2 first rest single ih =>
    rw [dotted_cons single] at member
    obtain rfl | member := List.mem_cons.mp member
    · exact .inr List.mem_cons_self
    · exact (ih member).imp_right (List.mem_cons_of_mem _)
  | case3 => exact .inr member

/-- A text without dots comes from itself only. -/
theorem dotted_undotted {text : List Char} (undotted : '.' ∉ dotted text) : dotted text = text := by
  induction text using dotted.induct with
  | case1 rest ih => exact absurd List.mem_cons_self undotted
  | case2 first rest single ih =>
    rw [dotted_cons single] at undotted ⊢
    rw [ih (List.not_mem_of_not_mem_cons undotted)]
  | case3 => rfl

/-- A text with one dot comes from itself, or from low lines in place of the dot. -/
theorem dotted_inv {text front back : List Char} (before : '.' ∉ front) (after : '.' ∉ back)
    (same : dotted text = front ++ '.' :: back) :
    text = front ++ '_' :: '_' :: back ∨ text = front ++ '.' :: back := by
  induction text using dotted.induct generalizing front with
  | case1 rest ih =>
    cases front with
    | nil =>
      obtain rfl : dotted rest = back := (List.cons.inj same).2
      rw [dotted_undotted after]
      exact .inl rfl
    | cons first front =>
      cases (List.cons.inj same).1
      exact absurd List.mem_cons_self before
  | case2 first rest single ih =>
    rw [dotted_cons single] at same
    cases front with
    | nil =>
      obtain ⟨rfl, rfl⟩ := List.cons.inj same
      rw [dotted_undotted after]
      exact .inr rfl
    | cons other front =>
      obtain ⟨rfl, following⟩ := List.cons.inj same
      exact (ih (List.not_mem_of_not_mem_cons before) following).imp (congrArg _) (congrArg _)
  | case3 => simp [dotted] at same

theorem dotted_append {front : List Char} (plain : '_' ∉ front) (rest : List Char) :
    dotted (front ++ rest) = front ++ dotted rest := by
  induction front with
  | nil => rfl
  | cons first front ih =>
    have other : '_' ≠ first := List.ne_of_not_mem_cons plain
    rw [List.cons_append, dotted_cons fun _ same _ => other same.symm,
      ih (List.not_mem_of_not_mem_cons plain), List.cons_append]

theorem after?_eq_some {front text rest : List Char} :
    Environment.after? front text = some rest ↔ text = front ++ rest := by
  induction front generalizing text with
  | nil =>
    rw [Environment.after?, List.nil_append]
    exact ⟨Option.some.inj, congrArg some⟩
  | cons c front ih =>
    cases text with
    | nil => simp [Environment.after?]
    | cons d text =>
      rw [Environment.after?, List.cons_append, List.cons.injEq]
      split
      case isTrue same => rw [ih, eq_comm (a := d), and_iff_right same]
      case isFalse other =>
        refine iff_of_false nofun fun both => other both.1.symm

theorem variableValue_plain (text : String) : (variableValue text).isPlain = true := by
  unfold variableValue
  dsimp only
  split
  · rfl
  · split
    · rfl
    · split
      · rfl
      · split <;> rfl

namespace Key

theorem dotted_field (key : Key) : dotted key.field.2.toList = key.field.2.toList := by
  cases key <;> decide

/-- The variable of a key sets it. -/
theorem names_variable (key : Key) : key.Names key.variable :=
  .inl (Text.lower_eq (by cases key <;> decide))

end Key

section Variables

variable {key : Key} {name setting : String}

theorem settingName?_of_names (names : key.Names name) :
    settingName? name = some (key.group.2 ++ "." ++ key.field.2) := by
  have marked {mark : String}
      (same : Text.lower name = "cadence_" ++ key.group.2 ++ mark ++ key.field.2)
      (dots : dotted (mark.toList ++ key.field.2.toList) = '.' :: key.field.2.toList) :
      settingName? name = some (key.group.2 ++ "." ++ key.field.2) := by
    have rest : Environment.after? "cadence_".toList (Text.lower name).toList =
        some (key.group.2.toList ++ (mark.toList ++ key.field.2.toList)) := by
      rw [same, after?_eq_some]
      simp only [String.toList_append, List.append_assoc]
    rw [settingName?, rest, Option.map_some, dotted_append key.group_plain.2.2, dots]
    refine congrArg some (String.toList_injective ?_)
    simp only [String.toList_ofList, String.toList_append, List.append_assoc]
    rfl
  obtain same | same := names
  · exact marked same (congrArg (List.cons '.') key.dotted_field)
  · exact marked same (by
      refine (dotted_cons ?_).trans (congrArg (List.cons '.') key.dotted_field)
      exact fun _ low _ => absurd low (by decide))

/-- What a variable stands for is in lower case. -/
theorem dotted_lowered {rest : List Char}
    (whole : (Text.lower name).toList = "cadence_".toList ++ rest) :
    ∀ c ∈ dotted rest, Text.lowerChar c = c := by
  intro c member
  obtain rfl | inside := mem_dotted member
  · decide
  · have among : c ∈ (Text.lower name).toList := whole ▸ List.mem_append_right _ inside
    rw [Text.toList_lower] at among
    obtain ⟨other, _, rfl⟩ := List.mem_map.mp among
    exact Text.lowerChar_lowerChar other

/-- A variable that stands for the path of a key has the name of one that sets it. -/
theorem names_of_path {outer inner : String} (stands : settingName? name = some setting)
    (path : KeyPath.ofString setting = [.field outer, .field inner])
    (group : Text.lower outer = key.group.2) (field : Text.lower inner = key.field.2) :
    key.Names name := by
  obtain ⟨rest, front, rfl⟩ := Option.map_eq_some_iff.mp stands
  have whole := after?_eq_some.mp front
  obtain ⟨same, -, -⟩ := KeyPath.ofString_two.mp path
  rw [String.toList_ofList] at same
  have lowered := dotted_lowered whole
  rw [same] at lowered
  obtain ⟨outside, inside⟩ := List.forall_mem_append.mp lowered
  obtain rfl : outer = key.group.2 := (Text.lower_of_fixed outside).symm.trans group
  obtain rfl : inner = key.field.2 :=
    (Text.lower_of_fixed (List.forall_mem_cons.mp inside).2).symm.trans field
  refine (dotted_inv key.group_plain.1 key.field_plain same).imp ?_ ?_ <;>
  · rintro rfl
    refine String.toList_injective (whole.trans ?_)
    simp only [String.toList_append, List.append_assoc]
    rfl

theorem path_of_names (names : key.Names name) (stands : settingName? name = some setting) :
    KeyPath.ofString setting = [.field key.group.2, .field key.field.2] := by
  cases (settingName?_of_names names).symm.trans stands
  exact key.path

/-- What a variable writes for a key. -/
theorem written_variable (stands : settingName? name = some setting) {value : Raw}
    (plain : value.isPlain = true)
    (byKey : (KeyPath.ofString setting).group? = some key.group.2 →
      WritesByKey (KeyPath.ofString setting) value) :
    (written key.group.2 (KeyPath.ofString setting) value).reverse.lookup key.field.2 =
      if key.Names name then some value else none := by
  by_cases names : key.Names name
  · rw [if_pos names, path_of_names names stands, lookup_written key.lower_group,
      if_pos key.lower_field]
  · rw [if_neg names]
    by_cases here : (KeyPath.ofString setting).group? = some key.group.2
    · obtain ⟨_, _, _, rfl⟩ | ⟨outer, inner, path⟩ := (byKey here).shape
      · contradiction
      · have group : Text.lower outer = key.group.2 := by
          rw [path] at here
          exact Option.some.inj here
        have other : Text.lower inner ≠ key.field.2 :=
          fun field => names (names_of_path stands path group field)
        rw [path, lookup_written group, if_neg other]
    · rw [written_other here]
      rfl

end Variables

theorem variableLayer_cons (name text : String) (rest : List (String × String)) :
    variableLayer ⟨(name, text) :: rest⟩ =
      ((settingName? name).map fun setting => (setting, variableValue text)).toList ++
        variableLayer ⟨rest⟩ := by
  unfold variableLayer
  rw [List.filterMap_cons]
  dsimp only
  cases settingName? name <;> rfl

/-- The last of the variables for a key gives it its value. -/
theorem variableLayer_setting {environment : Environment}
    (byKey : (variableLayer environment).ByKey) (key : Key) :
    Layer.setting? (variableLayer environment) key = environment.setting? key := by
  rw [Layer.setting?_byKey byKey]
  obtain ⟨entries⟩ := environment
  unfold Environment.setting?
  induction entries with
  | nil => rfl
  | cons entry rest ih =>
    obtain ⟨name, text⟩ := entry
    rw [variableLayer_cons] at byKey ⊢
    rw [List.reverse_cons, List.findSome?_append, List.findSome?_singleton]
    cases stands : settingName? name with
    | none =>
      rw [stands] at byKey
      have other : ¬ key.Names name := fun names => by
        cases (settingName?_of_names names).symm.trans stands
      rw [if_neg other, Option.or_none]
      exact ih byKey
    | some setting =>
      rw [stands] at byKey
      obtain ⟨here, there⟩ := List.forall_mem_cons.mp byKey
      have written := written_variable stands (variableValue_plain text) (here key)
      rw [Option.map_some, Option.toList_some, List.singleton_append, lookup_writtenAll_cons,
        ih there, written]

/-- Where variables stand for nothing but keys, they write key by key. -/
theorem variableLayer_byKey {environment : Environment}
    (own : ∀ entry ∈ environment.entries, ∀ setting, settingName? entry.1 = some setting →
      ∃ key : Key, key.Names entry.1) : (variableLayer environment).ByKey := by
  rintro ⟨setting, value⟩ member key -
  obtain ⟨⟨name, text⟩, among, written⟩ := List.mem_filterMap.mp member
  obtain ⟨found, stands, same⟩ := Option.map_eq_some_iff.mp written
  cases same
  obtain ⟨other, names⟩ := own _ among _ stands
  show WritesByKey (KeyPath.ofString setting) (variableValue text)
  rw [path_of_names names stands]
  have plain := variableValue_plain text
  generalize variableValue text = value at plain
  cases value <;> exact plain

/-! ### Values -/

theorem toString_low (n : Int) : ∀ c ∈ (toString n).toList, c.toNat < 'A'.toNat := by
  have digits (m : Nat) : ∀ c ∈ Nat.toDigits 10 m, c.toNat < 'A'.toNat := fun c member =>
    Nat.lt_of_le_of_lt (Char.isDigit_iff_toNat.mp (Literal.isDigit_toDigits member)).2 (by decide)
  obtain ⟨m, _, text⟩ | ⟨m, _, text⟩ := Literal.toList_toString n
  · exact text ▸ digits m
  · exact text ▸ List.forall_mem_cons.mpr ⟨by decide, digits m⟩

/-- The numeral of an integer that fits 64 bits stands for it. -/
theorem variableValue_toString {n : Int} (fits : Literal.isInt64 n = true) :
    variableValue (toString n) = .int n := by
  have low := toString_low n
  have same : Text.lower (toString n) = toString n :=
    Text.lower_of_fixed fun c member => Text.lowerChar_of_low (low c member)
  have other {word : String} {c : Char} (letter : c ∈ word.toList) (high : 'A'.toNat ≤ c.toNat) :
      toString n ≠ word := by
    rintro rfl
    exact absurd (low c letter) (Nat.not_lt.mpr high)
  have exact : (Int64.ofInt n).toInt = n := by
    simp only [Literal.isInt64, Bool.and_eq_true, decide_eq_true_eq] at fits
    exact Int64.toInt_ofInt_of_le (by omega) (by omega)
  simp only [variableValue, same]
  rw [if_neg (other (c := 't') (by decide) (by decide)),
    if_neg (other (c := 'f') (by decide) (by decide)), Literal.int?_toString, Option.bind_some,
    fitInt64?, if_pos fits]
  exact congrArg Raw.int exact

/-- A text that is neither a truth value nor a number. -/
structure IsWord (text : String) : Prop where
  front : ∀ c, text.toList.head? = some c → c.isDigit = false ∧ c ∉ ['+', '-', '.']
  other : Text.lower text ∉ ["true", "false", "inf", "infinity", "nan"]

namespace IsWord

variable {text : String}

theorem sign (word : IsWord text) : Literal.sign text.toList = (false, text.toList) := by
  have front := word.front
  unfold Literal.sign
  split
  case h_1 same => simp [same] at front
  case h_2 same => simp [same] at front
  case h_3 => rfl

theorem int? (word : IsWord text) : Literal.int? text.toList = none := by
  have front := word.front
  rw [Literal.int?, word.sign]
  cases chars : text.toList with
  | nil => rfl
  | cons c rest =>
    rw [chars] at front
    simp [(front c rfl).1]

theorem decimal? (word : IsWord text) : Literal.decimal? text.toList = none := by
  have front := word.front
  cases chars : text.toList with
  | nil => rfl
  | cons c rest =>
    rw [chars] at front
    obtain ⟨other, unsigned⟩ := front c rfl
    have pointless : c ≠ '.' := fun point => unsigned (by simp [point])
    unfold Literal.decimal?
    simp only [List.takeWhile_cons, List.dropWhile_cons, other, Bool.false_eq_true, if_false]
    split
    case h_1 same => exact absurd (List.cons.inj same).1 pointless
    case h_2 => rfl

theorem special? (word : IsWord text) : Literal.special? false text.toList = none := by
  have none_of {other : String} (among : other ∈ ["true", "false", "inf", "infinity", "nan"])
      (plain : '\u212a' ∉ other.toList) : String.ofList (text.toList.map Char.toLower) ≠ other := by
    rintro rfl
    refine word.other (Text.lower_of_toLower String.toList_ofList.symm plain ▸ among)
  unfold Literal.special?
  dsimp only
  rw [if_neg, if_neg (none_of (by decide) (by decide))]
  rintro (inf | infinity)
  · exact none_of (by decide) (by decide) inf
  · exact none_of (by decide) (by decide) infinity

end IsWord

theorem variableValue_word {text : String} (word : IsWord text) :
    variableValue text = .str text := by
  have other {name : String} (among : name ∈ ["true", "false", "inf", "infinity", "nan"]) :
      Text.lower text ≠ name := fun same => word.other (same ▸ among)
  simp only [variableValue]
  rw [if_neg (other (by decide)), if_neg (other (by decide)), word.int?, Option.bind_none,
    Literal.binary64?, word.sign]
  simp only [word.decimal?, word.special?]

end TickScript.Config
