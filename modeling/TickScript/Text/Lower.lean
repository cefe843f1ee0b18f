/-! Text with its Latin letters in lower case. -/
namespace TickScript.Text

/-- The lower case of a character whose lower case is a letter from a to z: a capital letter, or the
kelvin sign. Other characters stay as they are. -/
def lowerChar (c : Char) : Char := if c = '\u212a' then 'k' else c.toLower

def lower (text : String) : String := text.map lowerChar

theorem toLower_cases (c : Char) :
    c.toLower = c ∨ 'A'.toNat ≤ c.toNat ∧ c.toNat ≤ 'Z'.toNat ∧
      'a'.toNat ≤ c.toLower.toNat ∧ c.toLower.toNat ≤ 'z'.toNat := by
  unfold Char.toLower
  split
  case isTrue capital =>
    have least : 65 ≤ c.val.toNat := UInt32.le_iff_toNat_le.mp capital.1
    have greatest : c.val.toNat ≤ 90 := UInt32.le_iff_toNat_le.mp capital.2
    have shift : ('a'.val - 'A'.val).toNat = 32 := rfl
    have shifted : (c.val + ('a'.val - 'A'.val)).toNat = c.val.toNat + 32 := by
      rw [UInt32.toNat_add]
      exact Nat.mod_eq_of_lt (by omega)
    refine .inr ⟨least, greatest, ?_, ?_⟩
    · exact Nat.le_trans (Nat.add_le_add_right least 32) (Nat.le_of_eq shifted.symm)
    · exact Nat.le_trans (Nat.le_of_eq shifted) (Nat.add_le_add_right greatest 32)
  case isFalse => exact .inl rfl

theorem lowerChar_lowerChar (c : Char) : lowerChar (lowerChar c) = lowerChar c := by
  by_cases kelvin : c = '\u212a'
  · subst kelvin
    decide
  · have same : lowerChar c = c.toLower := if_neg kelvin
    obtain still | ⟨_, _, least, greatest⟩ := toLower_cases c
    · rw [same, still, same, still]
    · have other : c.toLower ≠ '\u212a' := fun now => absurd (now ▸ greatest) (by decide)
      rw [same, lowerChar, if_neg other]
      obtain still | ⟨_, capital, _⟩ := toLower_cases c.toLower
      · exact still
      · exact absurd (Nat.le_trans least capital) (by decide)

/-- Digits and signs have no other case. -/
theorem lowerChar_of_low {c : Char} (low : c.toNat < 'A'.toNat) : lowerChar c = c := by
  have plain : c ≠ '\u212a' := by
    rintro rfl
    exact absurd low (by decide)
  rw [lowerChar, if_neg plain]
  obtain same | ⟨capital, _⟩ := toLower_cases c
  · exact same
  · exact absurd low (Nat.not_lt.mpr capital)

theorem toList_lower (text : String) : (lower text).toList = text.toList.map lowerChar :=
  String.toList_map

theorem lower_eq {text lowered : String} (same : text.toList.map lowerChar = lowered.toList) :
    lower text = lowered :=
  String.toList_injective ((toList_lower text).trans same)

theorem lower_of_fixed {text : String} (fixed : ∀ c ∈ text.toList, lowerChar c = c) :
    lower text = text :=
  lower_eq ((List.map_congr_left fixed).trans (List.map_id' _))

theorem lowerChar_eq_dot {c : Char} : lowerChar c = '.' ↔ c = '.' := by
  constructor
  · intro dot
    by_cases kelvin : c = '\u212a'
    · subst kelvin
      exact absurd dot (by decide)
    · rw [lowerChar, if_neg kelvin] at dot
      obtain same | ⟨_, _, least, _⟩ := toLower_cases c
      · exact same ▸ dot
      · exact absurd (dot ▸ least) (by decide)
  · rintro rfl
    decide

theorem lower_of_toLower {text word : String} (same : text.toList.map Char.toLower = word.toList)
    (plain : '\u212a' ∉ word.toList) : lower text = word := by
  refine lower_eq (Eq.trans (List.map_congr_left fun c member => ?_) same)
  refine if_neg ?_
  rintro rfl
  rw [← same] at plain
  exact plain (List.mem_map_of_mem (f := Char.toLower) member)

end TickScript.Text
