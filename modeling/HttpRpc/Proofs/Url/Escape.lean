import HttpRpc.Url.Path

/-!
# What escaping leaves

The characters of an escaped text are characters of the text outside the escaped set, percent signs
and hexadecimal digits. A text whose escaped form shows no percent sign has not been changed.
-/

namespace HttpRpc.Url.Percent

open HttpRpc.Text

/-- The digits of an escape are hexadecimal. -/
theorem isHexDigit_of_mem_octetHex {octet : UInt8} {c : Char} (h : c ∈ octetHex octet) :
    isHexDigit c = true := by
  have hdigit : ∀ n < 16, isHexDigit (Nat.digitChar n).toUpper = true := by decide
  have hhigh : octet.toNat / 16 < 16 := by
    have := octet.toNat_lt
    omega
  have hlow : octet.toNat % 16 < 16 := Nat.mod_lt _ (by decide)
  simp only [octetHex, List.mem_cons, List.not_mem_nil, or_false] at h
  rcases h with rfl | rfl
  · exact hdigit _ hhigh
  · exact hdigit _ hlow

/-- Escapes are made of percent signs and hexadecimal digits. -/
theorem mem_escapes {octets : List UInt8} {c : Char} (h : c ∈ octets.flatMap escapeOctet) :
    c = '%' ∨ isHexDigit c = true := by
  obtain ⟨octet, -, hc⟩ := List.mem_flatMap.1 h
  rcases List.mem_cons.1 hc with hc | hc
  · exact Or.inl hc
  · exact Or.inr (isHexDigit_of_mem_octetHex hc)

/-- A character stays as it is, or one or more octets of it are escaped. -/
theorem encodeChar_cases (escaped : Char → Bool) (c : Char) :
    (encodeChar escaped c = [c] ∧ c.toNat < 0x80 ∧ escaped c = false) ∨
      ∃ octet octets, encodeChar escaped c = (octet :: octets).flatMap escapeOctet := by
  unfold encodeChar
  split
  · next hc =>
      simp only [Bool.and_eq_true, decide_eq_true_eq, Bool.not_eq_true'] at hc
      exact Or.inl ⟨rfl, hc.1, hc.2⟩
  · refine Or.inr ?_
    cases hoctets : String.utf8EncodeChar c with
    | nil =>
        have hsize : c.utf8Size = 0 := by simpa using congrArg List.length hoctets
        exact absurd hsize (Nat.ne_of_gt (Char.utf8Size_pos c))
    | cons octet octets => exact ⟨octet, octets, rfl⟩

/-- Where a character of an escaped text comes from. -/
theorem mem_encode {escaped : Char → Bool} {text : List Char} {c : Char}
    (h : c ∈ encode escaped text) :
    (c ∈ text ∧ c.toNat < 0x80 ∧ escaped c = false) ∨ c = '%' ∨ isHexDigit c = true := by
  obtain ⟨d, hd, hc⟩ := List.mem_flatMap.1 h
  rcases encodeChar_cases escaped d with ⟨hplain, hascii, hescaped⟩ | ⟨octet, octets, hescapes⟩
  · rw [hplain, List.mem_singleton] at hc
    subst hc
    exact Or.inl ⟨hd, hascii, hescaped⟩
  · rw [hescapes] at hc
    exact Or.inr (mem_escapes hc)

/-- A character of the set that no escape is made of does not occur in an escaped text. -/
theorem not_mem_encode {escaped : Char → Bool} {c : Char} (hescaped : escaped c = true)
    (hpercent : c ≠ '%') (hdigit : isHexDigit c = false) (text : List Char) :
    c ∉ encode escaped text := by
  intro h
  rcases mem_encode h with ⟨-, -, h⟩ | h | h
  · exact absurd (hescaped.symm.trans h) (by decide)
  · exact hpercent h
  · exact absurd (hdigit.symm.trans h) (by decide)

/-- A text whose escaped form shows no percent sign is its own escaped form. -/
theorem encode_eq_self {escaped : Char → Bool} {text : List Char}
    (h : '%' ∉ encode escaped text) : encode escaped text = text := by
  induction text with
  | nil => rfl
  | cons c rest ih =>
      have hsplit : encode escaped (c :: rest) = encodeChar escaped c ++ encode escaped rest :=
        List.flatMap_cons
      rw [hsplit, List.mem_append, not_or] at h
      -- A first character that is escaped would show its percent sign.
      rcases encodeChar_cases escaped c with ⟨hplain, -⟩ | ⟨_, _, hescapes⟩
      · rw [hsplit, hplain, ih h.2]
        rfl
      · rw [hescapes] at h
        exact absurd List.mem_cons_self h.1

/-- Escaping makes no text shorter. -/
theorem length_le_length_encode (escaped : Char → Bool) (text : List Char) :
    text.length ≤ (encode escaped text).length := by
  induction text with
  | nil => exact Nat.le_refl _
  | cons c rest ih =>
      have hchar : 1 ≤ (encodeChar escaped c).length := by
        rcases encodeChar_cases escaped c with ⟨hplain, -⟩ | ⟨octet, octets, hescapes⟩
        · exact Nat.le_of_eq (congrArg List.length hplain).symm
        · rw [hescapes, List.flatMap_cons, List.length_append]
          exact Nat.le_add_right_of_le (Nat.le_add_left 1 _)
      rw [encode, List.flatMap_cons, List.length_append, List.length_cons, Nat.add_comm]
      exact Nat.add_le_add hchar ih

/-- A text is its own escaped form exactly if none of its characters is escaped. -/
theorem encode_eq_self_iff {escaped : Char → Bool} {text : List Char} :
    encode escaped text = text ↔ ∀ c ∈ text, c.toNat < 0x80 ∧ escaped c = false := by
  induction text with
  | nil => exact iff_of_true rfl nofun
  | cons c rest ih =>
      have hsplit : encode escaped (c :: rest) = encodeChar escaped c ++ encode escaped rest :=
        List.flatMap_cons
      rw [hsplit, List.forall_mem_cons, ← ih]
      rcases encodeChar_cases escaped c with ⟨hplain, hkept⟩ | ⟨octet, octets, hescapes⟩
      · rw [hplain, List.singleton_append, List.cons_inj_right]
        exact (and_iff_right hkept).symm
      · -- An escape is longer than the one character that it stands for.
        have hlong : 1 < (encodeChar escaped c).length := by
          have hescape : (escapeOctet octet).length = 3 := rfl
          rw [hescapes, List.flatMap_cons, List.length_append, hescape]
          omega
        refine iff_of_false (fun heq => ?_) fun h => ?_
        · have hlength := congrArg List.length heq
          have hrest := length_le_length_encode escaped rest
          rw [List.length_append, List.length_cons] at hlength
          omega
        · have hplain : encodeChar escaped c = [c] := if_pos (by simp [h.1])
          rw [hplain] at hlong
          exact Nat.lt_irrefl _ hlong

end HttpRpc.Url.Percent
