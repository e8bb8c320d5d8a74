import HttpRpc.Proofs.Text.Digits
import HttpRpc.Source.Literal

/-!
# Literals read back

The literal that is written for a text stands for that text (`Literal.text?_ofText`), whichever
escapes its characters need.
-/

namespace HttpRpc.Source

namespace Literal

variable {tail : List Char}

/-- The digits of a code point are read up to the brace behind them. -/
theorem unescape_digits {digits : List Char} (h : ∀ c ∈ digits, Text.isHexDigit c = true)
    (n : Nat) : unescape (.codePoint n) (digits ++ '\x7d' :: tail) =
      (Text.valueFrom? 16 n digits).bind fun value =>
        (unescape (.plain false) tail).map (Char.ofNat value :: ·) := by
  induction digits generalizing n with
  | nil => simp [unescape, Text.valueFrom?]
  | cons c rest ih =>
      rw [List.forall_mem_cons] at h
      obtain ⟨hdigit, hrest⟩ := h
      have hbrace : c ≠ '\x7d' := by
        rintro rfl
        exact absurd hdigit (by decide)
      have hgap : c ≠ '_' := by
        rintro rfl
        exact absurd hdigit (by decide)
      rw [List.cons_append, unescape, if_neg hbrace, if_neg hgap, Text.valueFrom?, Text.value?,
        if_neg (by simp), Text.valueFrom?]
      cases Text.digitValue? c with
      | none => rfl
      | some digit =>
          dsimp only
          split
          · rw [Text.valueFrom?, Option.bind_some, Nat.zero_mul, Nat.zero_add]
            exact ih hrest _
          · rfl

/-- A character that is none of a few is read as it is. -/
theorem unescape_cons {c : Char} (hquote : c ≠ '"') (hescape : c ≠ '\\') (hreturn : c ≠ '\r') :
    unescape (.plain false) (c :: tail) = (unescape (.plain false) tail).map (c :: ·) := by
  simp [unescape, hquote, hescape, hreturn]

/-- A letter behind a backslash is read as the character that it stands for. -/
theorem unescape_escaped {letter c : Char} (h : escaped? letter = some c) :
    unescape (.plain false) ('\\' :: letter :: tail) =
      (unescape (.plain false) tail).map (c :: ·) := by
  have hne {other : Char} (hother : escaped? other = none) : letter ≠ other := by
    rintro rfl
    rw [h] at hother
    cases hother
  have hhex : letter ≠ 'x' := hne (by decide)
  have hcode : letter ≠ 'u' := hne (by decide)
  have hbreak : ¬(letter = '\n' ∨ letter = '\r') := by
    rintro (rfl | rfl) <;> cases h
  simp [unescape, hhex, hcode, hbreak, h]

/-- A character is read back from its form inside quotes. -/
theorem unescape_quoteChar (c : Char) :
    unescape (.plain false) (Text.quoteChar c ++ tail) =
      (unescape (.plain false) tail).map (c :: ·) := by
  unfold Text.quoteChar
  split
  · next hnull => exact unescape_escaped (hnull ▸ rfl)
  split
  · next htab => exact unescape_escaped (htab ▸ rfl)
  split
  · next hfeed => exact unescape_escaped (hfeed ▸ rfl)
  split
  · next hreturn => exact unescape_escaped (hreturn ▸ rfl)
  split
  · next hquote => exact unescape_escaped (by rw [hquote]; decide)
  split
  · next hescape => exact unescape_escaped (by rw [hescape]; decide)
  split
  · exact unescape_cons ‹_› ‹_› ‹_›
  · -- The digits of the code point are those of the character.
    have hvalue : Text.valueFrom? 16 0 (Nat.toDigits 16 c.toNat) = some c.toNat := by
      have hread : Text.value? 16 (Nat.toDigits 16 c.toNat) = some c.toNat :=
        Text.value?_toDigits (by decide) _
      rwa [Text.value?, if_neg (by simp [Nat.toDigits_ne_nil])] at hread
    have hdigits : ∀ d ∈ Nat.toDigits 16 c.toNat, Text.isHexDigit d = true :=
      fun d hd => Text.isHexDigit_of_mem_toDigits (by decide) hd
    rw [List.append_assoc, List.append_assoc, List.singleton_append]
    show unescape (.codePoint 0) (Nat.toDigits 16 c.toNat ++ '\x7d' :: tail) = _
    rw [unescape_digits hdigits, hvalue, Option.bind_some, Char.ofNat_toNat]

/-- A null character is read back from its two digits. -/
theorem unescape_null : unescape (.plain false) ('\\' :: 'x' :: '0' :: '0' :: tail) =
    (unescape (.plain false) tail).map ('\x00' :: ·) := by
  rw [unescape]
  rfl

/-- A text is read back from its form up to the quote. -/
theorem unescape_escape (text : List Char) :
    unescape (.plain false) (escape text ++ ['"']) = some text := by
  have hquote : unescape (.plain false) ['"'] = some [] := rfl
  induction text using escape.induct with
  | case1 => exact hquote
  | case2 c => rw [escape, unescape_quoteChar, hquote, Option.map_some]
  | case3 c next rest ih =>
      rw [escape, List.append_assoc]
      split
      · next hnull =>
          obtain ⟨rfl, -, -⟩ := hnull
          exact unescape_null.trans (congrArg _ ih)
      · rw [unescape_quoteChar, ih, Option.map_some]

end Literal

/-- The text that a token stands for, if it is a literal of one. -/
def Token.text? : Token → Option String
  | literal text => Literal.text? text
  | _ => none

/-- The literal of a text stands for that text. -/
@[simp] theorem Literal.text?_ofText (text : String) : (ofText text).text? = some text := by
  rw [ofText, Token.text?, text?, String.toList_ofList, List.append_assoc, List.singleton_append]
  simp only [unescape_escape, Option.map_some, String.ofList_toList]

end HttpRpc.Source
