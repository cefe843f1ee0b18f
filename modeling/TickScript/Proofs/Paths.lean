import TickScript.Proofs.Settings

/-! The texts of paths. A section and a key in it are read from their names with a dot between
them, and from nothing else. -/
namespace TickScript.Config

namespace KeyPath

/-- A name of a field as it stands in a path. -/
def IsName (name : List Char) : Prop := name ≠ [] ∧ ∀ c ∈ name, isNameChar c = true

/-- What a path can begin with. -/
theorem steps?_cases {bound : Nat} {text : List Char} {path : KeyPath}
    (read : steps? bound text = some path) :
    (text = [] ∧ path = []) ∨
      (∃ less name rest tail, text = '.' :: (name ++ rest) ∧ IsName name ∧
        steps? less rest = some tail ∧ path = .field (String.ofList name) :: tail) ∨
      ∃ rest index tail, text = '[' :: rest ∧ path = .place index :: tail := by
  unfold steps? at read
  split at read
  · cases read
    exact .inl ⟨rfl, rfl⟩
  · contradiction
  case h_3 less rest =>
    dsimp only at read
    split at read
    case isTrue => contradiction
    case isFalse filled =>
      obtain ⟨tail, following, rfl⟩ := Option.map_eq_some_iff.mp read
      refine .inr (.inl ⟨less, _, _, tail, ?_, ⟨?_, ?_⟩, following, rfl⟩)
      · rw [List.prefix_iff_eq_append.mp (List.takeWhile_prefix _)]
      · exact mt List.isEmpty_iff.mpr filled
      · exact List.all_eq_true.mp List.all_takeWhile
  case h_4 =>
    dsimp only at read
    split at read
    · obtain ⟨tail, _, rfl⟩ := Option.map_eq_some_iff.mp read
      exact .inr (.inr ⟨_, _, tail, rfl, rfl⟩)
    · contradiction
  · contradiction

theorem steps?_nil {bound : Nat} {text : List Char} (read : steps? bound text = some []) :
    text = [] := by
  obtain ⟨same, _⟩ | ⟨_, _, _, _, _, _, _, other⟩ | ⟨_, _, _, _, other⟩ := steps?_cases read
  · exact same
  · cases other
  · cases other

theorem steps?_field {bound : Nat} {text : List Char} {name : String} {path : KeyPath}
    (read : steps? bound text = some (.field name :: path)) :
    ∃ less rest, text = '.' :: (name.toList ++ rest) ∧ IsName name.toList ∧
      steps? less rest = some path := by
  obtain ⟨_, other⟩ | ⟨less, chars, rest, tail, same, named, read, here⟩ |
    ⟨_, _, _, _, other⟩ := steps?_cases read
  · cases other
  · cases here
    rw [String.toList_ofList]
    exact ⟨less, rest, same, named, read⟩
  · cases other

theorem steps?_append {less : Nat} {name rest : List Char} (named : IsName name)
    (ends : rest = [] ∨ ∃ others, rest = '.' :: others) :
    steps? (less + 1) ('.' :: (name ++ rest)) =
      (steps? less rest).map (.field (String.ofList name) :: ·) := by
  have front : (name ++ rest).takeWhile isNameChar = name := by
    rw [List.takeWhile_append_of_pos named.2]
    obtain rfl | ⟨others, rfl⟩ := ends
    · exact List.append_nil _
    · exact List.append_nil _
  have filled : name.isEmpty = false := by
    cases name with
    | nil => exact absurd rfl named.1
    | cons => rfl
  simp only [steps?, front, filled, List.drop_left, Bool.false_eq_true, if_false]

/-- A path of a section and a key in it. -/
theorem ofString_two {text outer inner : String} :
    ofString text = [.field outer, .field inner] ↔
      text.toList = outer.toList ++ '.' :: inner.toList ∧ IsName outer.toList ∧
        IsName inner.toList := by
  constructor
  · intro path
    unfold ofString at path
    cases read : read? text.toList with
    | none =>
      rw [read] at path
      cases path
    | some found =>
      rw [read] at path
      cases path
      obtain ⟨_, _, front, outside, read⟩ := steps?_field read
      obtain ⟨_, _, back, inside, read⟩ := steps?_field read
      cases steps?_nil read
      rw [List.append_nil] at back
      exact ⟨(List.cons.inj front).2.trans (congrArg _ back), outside, inside⟩
  · rintro ⟨same, outside, inside⟩
    have read : read? text.toList = some [.field outer, .field inner] := by
      have more : text.toList.length = outer.toList.length + inner.toList.length + 1 := by
        rw [same, List.length_append, List.length_cons, Nat.add_assoc]
      have back : steps? text.toList.length ('.' :: (inner.toList ++ [])) =
          some [.field inner] := by
        rw [more, steps?_append inside (.inl rfl), String.ofList_toList]
        cases outer.toList.length + inner.toList.length <;> rfl
      rw [List.append_nil] at back
      rw [read?, same, steps?_append outside (.inr ⟨_, rfl⟩), ← same, back, String.ofList_toList]
      rfl
    rw [ofString, read]
    rfl

/-- A path of a section only. -/
theorem ofString_one {text outer : String} (path : ofString text = [.field outer]) :
    outer = text := by
  unfold ofString at path
  cases read : read? text.toList with
  | none =>
    rw [read] at path
    cases path
    rfl
  | some found =>
    rw [read] at path
    cases path
    obtain ⟨_, _, front, _, read⟩ := steps?_field read
    cases steps?_nil read
    rw [List.append_nil] at front
    exact String.toList_injective (List.cons.inj front).2.symm

/-- A text with neither a dot nor a bracket is a path by itself. -/
theorem ofString_plain {text : String} (undotted : '.' ∉ text.toList)
    (unbracketed : '[' ∉ text.toList) : ofString text = [.field text] := by
  unfold ofString
  cases read : read? text.toList with
  | none => rfl
  | some path =>
    obtain ⟨other, _⟩ | ⟨less, name, rest, tail, same, _, following, rfl⟩ | ⟨_, _, _, other, _⟩ :=
      steps?_cases read
    · cases other
    · have whole : text.toList = name ++ rest := (List.cons.inj same).2
      rw [whole] at undotted unbracketed
      obtain ⟨rfl, rfl⟩ | ⟨_, _, _, _, rfl, _⟩ | ⟨_, _, _, rfl, _⟩ := steps?_cases following
      · rw [List.append_nil] at whole
        rw [← whole, String.ofList_toList]
        rfl
      · simp at undotted
      · simp at unbracketed
    · cases other

end KeyPath

namespace Key

variable (key : Key)

theorem group_plain : '.' ∉ key.group.2.toList ∧ '[' ∉ key.group.2.toList ∧
    '_' ∉ key.group.2.toList := by
  cases key <;> decide

theorem field_plain : '.' ∉ key.field.2.toList := by
  cases key <;> decide

theorem lower_field : Text.lower key.field.2 = key.field.2 :=
  Text.lower_eq (by cases key <;> decide)

theorem lower_group : Text.lower key.group.2 = key.group.2 :=
  Text.lower_eq (by cases key <;> decide)

theorem isName : KeyPath.IsName key.group.2.toList ∧ KeyPath.IsName key.field.2.toList := by
  have letters : key.group.2.toList.all KeyPath.isNameChar = true ∧
      key.field.2.toList.all KeyPath.isNameChar = true := by
    cases key <;> decide
  have filled : key.group.2.toList ≠ [] ∧ key.field.2.toList ≠ [] := by
    cases key <;> decide
  exact ⟨⟨filled.1, List.all_eq_true.mp letters.1⟩, filled.2, List.all_eq_true.mp letters.2⟩

/-- The path of a key. -/
theorem path : KeyPath.ofString (key.group.2 ++ "." ++ key.field.2) =
    [.field key.group.2, .field key.field.2] := by
  refine KeyPath.ofString_two.mpr ⟨?_, key.isName⟩
  rw [String.toList_append, String.toList_append, List.append_assoc]
  rfl

end Key

/-- What a path of the section of a key writes for the key. -/
theorem lookup_written {key : Key} {outer : String} (here : Text.lower outer = key.group.2)
    (inner : String) (value : Raw) :
    (written key.group.2 [.field outer, .field inner] value).reverse.lookup key.field.2 =
      if Text.lower inner = key.field.2 then some value else none := by
  rw [written_field here, List.reverse_singleton, List.lookup_cons, List.lookup_nil]
  by_cases same : Text.lower inner = key.field.2
  · rw [if_pos same, same, beq_self_eq_true]
  · rw [if_neg same, beq_false_of_ne (Ne.symm same)]

theorem lookup_writtenAll_cons (group name : String) (entry : String × Raw) (rest : Layer) :
    (Raw.writtenAll group (entry :: rest)).reverse.lookup name =
      ((Raw.writtenAll group rest).reverse.lookup name).or
        ((written group (KeyPath.ofString entry.1) entry.2).reverse.lookup name) := by
  rw [Raw.writtenAll, List.flatMap_cons, List.reverse_append, List.lookup_append]
  rfl

end TickScript.Config
