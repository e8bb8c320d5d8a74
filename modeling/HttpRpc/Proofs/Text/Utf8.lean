import HttpRpc.Text.Utf8

/-!
# UTF-8 reads back

The octets of a character are read as that character whatever follows them (`pieces_encodeChar`), so
decoding the octets of a text gives the text (`decode?_encode`).
-/

namespace HttpRpc.Text.Utf8

/-- A small number is an octet. -/
theorem toNat_octet {n : Nat} (h : n < 256) : (UInt8.ofNat n).toNat = n := by
  rw [UInt8.toNat_ofNat']
  exact Nat.mod_eq_of_lt h

/-! ## Octets that continue a sequence -/

section

variable {n : Nat}

/-- Six bits make an octet that lies in a range if they do. -/
theorem within_tail (low high : Nat) (h : n < 64) :
    within low high (UInt8.ofNat (n + 0x80)) = (low ≤ n + 0x80 && n + 0x80 ≤ high) := by
  rw [within, toNat_octet (by omega)]

/-- Six bits make an octet that continues a sequence. -/
theorem isTail_tail (h : n < 64) : isTail (UInt8.ofNat (n + 0x80)) = true := by
  rw [isTail, within_tail 0x80 0xBF h, Bool.and_eq_true, decide_eq_true_eq, decide_eq_true_eq]
  omega

/-- The six bits of an octet are appended. -/
theorem append_tail (bits : Nat) (h : n < 64) :
    append bits (UInt8.ofNat (n + 0x80)) = bits * 64 + n := by
  have hbits : (UInt8.ofNat (n + 0x80)).toNat - 0x80 = n := by
    rw [toNat_octet (by omega)]
    exact Nat.add_sub_cancel n 0x80
  exact congrArg (bits * 64 + ·) hbits

end

/-! ## Octets that start a sequence -/

/-- An ASCII character stands for itself. -/
theorem lead?_one {n : Nat} (h : n < 0x80) : lead? (UInt8.ofNat n) = some (.one n) := by
  have hoctet := toNat_octet (n := n) (by omega)
  simp only [lead?, hoctet]
  rw [if_pos h]

/-- The start of a sequence of two octets. -/
theorem lead?_two {n : Nat} (hlow : 2 ≤ n) (hhigh : n < 32) :
    lead? (UInt8.ofNat (n + 0xC0)) = some (.two n) := by
  have hoctet := toNat_octet (n := n + 0xC0) (by omega)
  simp only [lead?, hoctet]
  rw [if_neg (by omega), if_neg (by omega), if_pos (by omega), Nat.add_sub_cancel]

/-- The start of a sequence of three octets. -/
theorem lead?_three {n : Nat} (h : n < 16) :
    lead? (UInt8.ofNat (n + 0xE0)) =
      some (.three n (if n = 0 then 0xA0 else 0x80) (if n = 13 then 0x9F else 0xBF)) := by
  have hoctet := toNat_octet (n := n + 0xE0) (by omega)
  simp only [lead?, hoctet]
  rw [if_neg (by omega), if_neg (by omega), if_neg (by omega)]
  by_cases hzero : n = 0
  · subst hzero
    rfl
  rw [if_neg (by omega), if_neg hzero]
  by_cases hsurrogate : n = 13
  · subst hsurrogate
    rfl
  rw [if_neg (by omega), if_pos (by omega), if_neg hsurrogate, Nat.add_sub_cancel]

/-- The start of a sequence of four octets. -/
theorem lead?_four {n : Nat} (h : n ≤ 4) :
    lead? (UInt8.ofNat (n + 0xF0)) =
      some (.four n (if n = 0 then 0x90 else 0x80) (if n = 4 then 0x8F else 0xBF)) := by
  have hoctet := toNat_octet (n := n + 0xF0) (by omega)
  simp only [lead?, hoctet]
  rw [if_neg (by omega), if_neg (by omega), if_neg (by omega), if_neg (by omega),
    if_neg (by omega), if_neg (by omega)]
  by_cases hzero : n = 0
  · subst hzero
    rfl
  rw [if_neg (by omega), if_neg hzero]
  by_cases hlast : n = 4
  · subst hlast
    rfl
  rw [if_pos (by omega), if_neg hlast, Nat.add_sub_cancel]

/-! ## Texts -/

/-- The octets of a character are read as that character, whatever follows them. -/
theorem pieces_encodeChar (c : Char) (rest : List UInt8) :
    pieces (String.utf8EncodeChar c ++ rest) = some c :: pieces rest := by
  have hvalid : c.toNat < 0xD800 ∨ 0xDFFF < c.toNat ∧ c.toNat < 0x110000 := c.valid
  have hback : Char.ofNat c.toNat = c := Char.ofNat_toNat c
  unfold String.utf8EncodeChar
  rw [show c.val.toNat = c.toNat from rfl]
  by_cases hone : c.toNat ≤ 0x7F
  · rw [if_pos hone, List.cons_append, List.nil_append, pieces, lead?_one (by omega)]
    show some (Char.ofNat c.toNat) :: pieces rest = _
    rw [hback]
  rw [if_neg hone]
  have htail : c.toNat % 64 < 64 := Nat.mod_lt _ (by decide)
  by_cases htwo : c.toNat ≤ 0x7FF
  · have hbits : c.toNat / 64 % 32 * 64 + c.toNat % 64 = c.toNat := by omega
    rw [if_pos htwo, List.cons_append, pieces, lead?_two (by omega) (by omega)]
    simp only [List.cons_append, List.nil_append, isTail_tail htail, append_tail _ htail, if_true]
    rw [hbits, hback]
  rw [if_neg htwo]
  have hmiddle : c.toNat / 64 % 64 < 64 := Nat.mod_lt _ (by decide)
  by_cases hthree : c.toNat ≤ 0xFFFF
  · -- The range of the second octet shuts out short numbers and surrogates, and `c` is neither.
    have hbits : (c.toNat / 4096 % 16 * 64 + c.toNat / 64 % 64) * 64 + c.toNat % 64 = c.toNat := by
      omega
    have hrange : ((if c.toNat / 4096 % 16 = 0 then 0xA0 else 0x80) ≤ c.toNat / 64 % 64 + 0x80 &&
        c.toNat / 64 % 64 + 0x80 ≤ if c.toNat / 4096 % 16 = 13 then 0x9F else 0xBF) = true := by
      rw [Bool.and_eq_true, decide_eq_true_eq, decide_eq_true_eq]
      constructor <;> split <;> omega
    rw [if_pos hthree, List.cons_append, pieces, lead?_three (by omega)]
    simp only [List.cons_append, List.nil_append, within_tail _ _ hmiddle, hrange,
      isTail_tail htail, append_tail _ hmiddle, append_tail _ htail, if_true]
    rw [hbits, hback]
  rw [if_neg hthree]
  have hupper : c.toNat / 4096 % 64 < 64 := Nat.mod_lt _ (by decide)
  have hbits : ((c.toNat / 262144 % 8 * 64 + c.toNat / 4096 % 64) * 64 + c.toNat / 64 % 64) * 64 +
      c.toNat % 64 = c.toNat := by
    omega
  have hrange : ((if c.toNat / 262144 % 8 = 0 then 0x90 else 0x80) ≤ c.toNat / 4096 % 64 + 0x80 &&
      c.toNat / 4096 % 64 + 0x80 ≤ if c.toNat / 262144 % 8 = 4 then 0x8F else 0xBF) = true := by
    rw [Bool.and_eq_true, decide_eq_true_eq, decide_eq_true_eq]
    constructor <;> split <;> omega
  rw [List.cons_append, pieces, lead?_four (by omega)]
  simp only [List.cons_append, List.nil_append, within_tail _ _ hupper, hrange,
    isTail_tail hmiddle, isTail_tail htail, append_tail _ hupper, append_tail _ hmiddle,
    append_tail _ htail, if_true]
  rw [hbits, hback]

/-- The octets of a text are read as its characters. -/
theorem pieces_encode (text : List Char) : pieces (encode text) = text.map some := by
  induction text with
  | nil => rfl
  | cons c rest ih =>
      show pieces (String.utf8EncodeChar c ++ encode rest) = _
      rw [pieces_encodeChar, ih, List.map_cons]

/-- Decoding the octets of a text gives the text. -/
theorem decode?_encode (text : List Char) : decode? (encode text) = some text := by
  rw [decode?, pieces_encode]
  induction text with
  | nil => rfl
  | cons c rest ih => rw [List.map_cons, List.mapM_cons, ih]; rfl

/-- Decoding the octets of a string gives its characters. -/
theorem decode?_encodeString (text : String) : decode? (encodeString text) = some text.toList :=
  decode?_encode text.toList

/-! ## ASCII -/

/-- An ASCII text takes one octet for each character. -/
theorem encode_of_ascii {text : List Char} (h : ∀ c ∈ text, c.toNat < 0x80) :
    encode text = text.map fun c => UInt8.ofNat c.toNat := by
  induction text with
  | nil => rfl
  | cons c rest ih =>
      rw [List.forall_mem_cons] at h
      have hc : String.utf8EncodeChar c = [UInt8.ofNat c.toNat] := by
        unfold String.utf8EncodeChar
        rw [show c.val.toNat = c.toNat from rfl, if_pos (Nat.le_of_lt_succ h.1)]
      show String.utf8EncodeChar c ++ encode rest = _
      rw [hc, ih h.2, List.singleton_append, List.map_cons]

/-- A character whose octets are all those of ASCII is one of ASCII. -/
theorem toNat_lt_of_encodeChar {c : Char}
    (h : ∀ octet ∈ String.utf8EncodeChar c, octet.toNat < 0x80) : c.toNat < 0x80 := by
  refine Nat.lt_of_not_le fun hlarge => ?_
  have hfirst (n : Nat) {bits : Nat} (hbits : n ≤ bits) (hlow : 0x80 ≤ n)
      (hhigh : bits < 256) : ¬(UInt8.ofNat bits).toNat < 0x80 := by
    rw [toNat_octet hhigh]
    omega
  unfold String.utf8EncodeChar at h
  rw [show c.val.toNat = c.toNat from rfl, if_neg (by omega)] at h
  -- Every longer sequence starts with an octet above 0xC0.
  split at h
  · exact hfirst 0xC0 (by omega) (by decide) (by omega) (h _ List.mem_cons_self)
  split at h
  · exact hfirst 0xE0 (by omega) (by decide) (by omega) (h _ List.mem_cons_self)
  · exact hfirst 0xF0 (by omega) (by decide) (by omega) (h _ List.mem_cons_self)

/-- The octets of a text are all in a part of ASCII exactly if its characters are. -/
theorem forall_mem_encode_iff (part : Nat → Prop) (hpart : ∀ n, part n → n < 0x80)
    (text : List Char) :
    (∀ octet ∈ encode text, part octet.toNat) ↔ ∀ c ∈ text, part c.toNat := by
  constructor
  · intro h
    have hascii : ∀ c ∈ text, c.toNat < 0x80 := fun c hc =>
      toNat_lt_of_encodeChar fun octet hoctet =>
        hpart _ (h octet (List.mem_flatMap.2 ⟨c, hc, hoctet⟩))
    rw [encode_of_ascii hascii, List.forall_mem_map] at h
    intro c hc
    have hc' := h c hc
    rwa [toNat_octet (by have := hascii c hc; omega)] at hc'
  · intro h
    rw [encode_of_ascii fun c hc => hpart _ (h c hc), List.forall_mem_map]
    intro c hc
    rw [toNat_octet (by have := hpart _ (h c hc); omega)]
    exact h c hc

end HttpRpc.Text.Utf8
