import HttpRpc.Proofs.Text.Utf8
import HttpRpc.Proofs.Url.Escape

/-!
# Escapes read back

Resolving the escapes of an escaped text gives the octets of the text, if percent signs are among
what is escaped (`decode_encode`). So the text of a path segment can be read off the segment
(`unescaped?_encode`), and no two texts have one escaped form.
-/

namespace HttpRpc.Url.Percent

open HttpRpc.Text

/-- The digit of an escape stands for its number. -/
theorem digitValue?_digit {n : Nat} (h : n < 16) :
    digitValue? (Nat.digitChar n).toUpper = some n := by
  have hdigit : ∀ n < 16, digitValue? (Nat.digitChar n).toUpper = some n := by decide
  exact hdigit n h

/-- An escaped octet is resolved, whatever follows it. -/
theorem decode_escapeOctet (octet : UInt8) (rest : List Char) :
    decode (escapeOctet octet ++ rest) = octet :: decode rest := by
  have hhigh : octet.toNat / 16 < 16 := by
    have := octet.toNat_lt
    omega
  have hlow : octet.toNat % 16 < 16 := Nat.mod_lt _ (by decide)
  have hhex : ∀ c ∈ octetHex octet, isHexDigit c = true := fun c => isHexDigit_of_mem_octetHex
  have hvalue : octet.toNat / 16 * 16 + octet.toNat % 16 = octet.toNat := by omega
  simp only [octetHex, List.mem_cons, List.not_mem_nil, or_false, forall_eq_or_imp,
    forall_eq] at hhex
  show decode ('%' :: (Nat.digitChar (octet.toNat / 16)).toUpper ::
    (Nat.digitChar (octet.toNat % 16)).toUpper :: rest) = _
  rw [decode, hhex.1, hhex.2, digitValue?_digit hhigh, digitValue?_digit hlow]
  simp only [Bool.and_self, if_true, Option.getD_some, hvalue, UInt8.ofNat_toNat]

/-- Escaped octets are resolved, whatever follows them. -/
theorem decode_escapes (octets : List UInt8) (rest : List Char) :
    decode (octets.flatMap escapeOctet ++ rest) = octets ++ decode rest := by
  induction octets with
  | nil => rfl
  | cons octet octets ih =>
      rw [List.flatMap_cons, List.append_assoc, decode_escapeOctet, ih, List.cons_append]

/-- A character that is no percent sign stands for itself. -/
theorem decode_cons {c : Char} (h : c ≠ '%') (rest : List Char) :
    decode (c :: rest) = String.utf8EncodeChar c ++ decode rest := by
  rw [decode]
  rintro a b more rfl
  exact absurd rfl h

variable {escaped : Char → Bool}

/-- The escaped form of a character stands for its octets, whatever follows it. -/
theorem decode_encodeChar (hpercent : escaped '%' = true) (c : Char) (rest : List Char) :
    decode (encodeChar escaped c ++ rest) = String.utf8EncodeChar c ++ decode rest := by
  unfold encodeChar
  split
  · next hplain =>
      rw [List.singleton_append, decode_cons]
      rintro rfl
      rw [hpercent] at hplain
      exact absurd hplain (by decide)
  · exact decode_escapes _ rest

/-- The escaped form of a text stands for its octets. -/
theorem decode_encode (hpercent : escaped '%' = true) (text : List Char) :
    decode (encode escaped text) = Utf8.encode text := by
  induction text with
  | nil => rfl
  | cons c rest ih =>
      show decode (encodeChar escaped c ++ encode escaped rest) = _
      rw [decode_encodeChar hpercent, ih]
      rfl

/-- The text that an escaped text stands for, if its octets are well formed. -/
def unescaped? (text : String) : Option String :=
  Utf8.decodeString? (decode text.toList)

/-- An escaped text stands for the text. -/
theorem unescaped?_encode (hpercent : escaped '%' = true) (text : List Char) :
    unescaped? (String.ofList (encode escaped text)) = some (String.ofList text) := by
  rw [unescaped?, String.toList_ofList, decode_encode hpercent, Utf8.decodeString?,
    Utf8.decode?_encode]
  rfl

end HttpRpc.Url.Percent
