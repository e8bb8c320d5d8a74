/-!
# Small letters

What becomes of a character and of a text in small letters. A property of the characters below a
number is looked at character by character (`forall_char_of_lt`).
-/

namespace HttpRpc.Text

/-- What holds of all numbers below a bound holds of the characters that have them. -/
theorem forall_char_of_lt {bound : Nat} (holds : Char → Prop)
    (h : ∀ n < bound, holds (Char.ofNat n)) {c : Char} (hc : c.toNat < bound) : holds c := by
  have hholds := h c.toNat hc
  rwa [Char.ofNat_toNat] at hholds

/-- The number of a character in small letters. -/
theorem toNat_toLower (c : Char) :
    c.toLower.toNat = if 65 ≤ c.toNat ∧ c.toNat ≤ 90 then c.toNat + 32 else c.toNat := by
  by_cases h : 65 ≤ c.toNat ∧ c.toNat ≤ 90
  · have hcapitals : ∀ n < 91, 65 ≤ (Char.ofNat n).toNat →
        (Char.ofNat n).toLower.toNat = (Char.ofNat n).toNat + 32 := by
      decide
    have hcapital := forall_char_of_lt (fun c => 65 ≤ c.toNat → c.toLower.toNat = c.toNat + 32)
      hcapitals (Nat.lt_succ_of_le h.2)
    rw [if_pos h, hcapital h.1]
  · have hself : c.toLower = c := dif_neg h
    rw [if_neg h, hself]

/-- A text in small letters is that of its characters in small letters. -/
theorem toList_toLower (text : String) : text.toLower.toList = text.toList.map Char.toLower :=
  String.toList_map

/-- Two texts are the same in small letters if their characters are. -/
theorem toLower_eq_toLower_iff {text other : String} :
    text.toLower = other.toLower ↔
      text.toList.map Char.toLower = other.toList.map Char.toLower := by
  rw [← String.toList_inj, toList_toLower, toList_toLower]

/-- Small letters stay as they are. -/
theorem toLower_toLower (text : String) : text.toLower.toLower = text.toLower := by
  have hchar (c : Char) : c.toLower.toLower = c.toLower := by
    have hsmall : ¬(65 ≤ c.toLower.toNat ∧ c.toLower.toNat ≤ 90) := by
      rw [toNat_toLower]
      split <;> omega
    rw [← Char.toNat_inj, toNat_toLower c.toLower, if_neg hsmall]
  rw [← String.toList_inj, toList_toLower, toList_toLower, List.map_map]
  exact List.map_congr_left fun c _ => hchar c

end HttpRpc.Text
