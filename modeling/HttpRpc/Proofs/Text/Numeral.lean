import HttpRpc.Proofs.Text.Digits
import HttpRpc.Proofs.Text.Letter
import Mathlib.Data.List.Induction
import Mathlib.Data.Nat.Digits.Defs

/-!
# Numerals as they are written

Hexadecimal digits may be written in capitals and with zeros in front. They are read as the number
that they denote by their places (`value?_eq_hexNumber`), and the digits of that number are the ones
written, in small letters and without the zeros (`toDigits_hexNumber`).
-/

namespace HttpRpc.Text

/-- The number that hexadecimal digits denote by their places, the last of which is that of the
units. -/
def hexNumber (text : List Char) : Nat :=
  Nat.ofDigits 16 (text.reverse.map fun c => (digitValue? c).getD 0)

/-- The digits in small letters and without zeros in front, one of which is kept where there is
nothing else. -/
def shortDigits (text : List Char) : List Char :=
  let digits := (text.map Char.toLower).dropWhile (· == '0')
  if digits.isEmpty then ['0'] else digits

variable {text : List Char} {c : Char}

/-- A hexadecimal digit stands for a number whose digit is the small letter. -/
theorem exists_digitValue?_eq (h : isHexDigit c = true) :
    ∃ n < 16, digitValue? c = some n ∧ Nat.digitChar n = c.toLower := by
  have hrange : c.toNat < 103 := by
    simp only [isHexDigit, isDigit, Bool.or_eq_true, Bool.and_eq_true, decide_eq_true_eq] at h
    omega
  have hdigit := forall_char_of_lt (fun c => isHexDigit c = true → (digitValue? c).any
    (fun n => decide (n < 16) && Nat.digitChar n == c.toLower) = true) (by decide) hrange
  obtain ⟨n, hvalue, hn⟩ := (Option.any_eq_true ..).1 (hdigit h)
  simp only [Bool.and_eq_true, decide_eq_true_eq, beq_iff_eq] at hn
  exact ⟨n, hn.1, hvalue, hn.2⟩

/-- One more digit takes the place of the units. -/
theorem hexNumber_concat {n : Nat} (text : List Char) (h : digitValue? c = some n) :
    hexNumber (text ++ [c]) = 16 * hexNumber text + n := by
  rw [hexNumber, List.reverse_append, List.reverse_singleton, List.singleton_append,
    List.map_cons, Nat.ofDigits_cons, h, Option.getD_some, Nat.add_comm]
  rfl

/-- Hexadecimal digits are read as the number that they denote. -/
theorem value?_eq_hexNumber (hne : text ≠ []) (h : ∀ c ∈ text, isHexDigit c = true) :
    value? 16 text = some (hexNumber text) := by
  have hvalue : valueFrom? 16 0 text = some (hexNumber text) := by
    clear hne
    induction text using List.reverseRecOn with
    | nil => rfl
    | append_singleton front c ih =>
        rw [List.forall_mem_append, List.forall_mem_singleton] at h
        obtain ⟨n, hn, hdigit, -⟩ := exists_digitValue?_eq h.2
        rw [valueFrom?_append, ih h.1, Option.bind_some, hexNumber_concat front hdigit]
        simp only [valueFrom?, hdigit]
        rw [if_pos hn, Nat.mul_comm]
  rw [value?, if_neg (by simpa using hne), hvalue]

/-- Behind digits that are not all zeros, one more digit is written as it is. -/
theorem shortDigits_concat (front : List Char) (c : Char) :
    shortDigits (front ++ [c]) =
      if (front.map Char.toLower).dropWhile (· == '0') = [] then [c.toLower]
      else shortDigits front ++ [c.toLower] := by
  simp only [shortDigits, List.map_append, List.map_singleton, List.dropWhile_append,
    List.isEmpty_iff]
  by_cases hzeros : (front.map Char.toLower).dropWhile (· == '0') = []
  · by_cases hc : c.toLower = '0'
    · simp [hzeros, hc]
    · simp [hzeros, hc]
  · simp [hzeros]

/-- Digits whose number is written without the zeros in front are all zeros exactly if that number
is zero. -/
theorem eq_zero_iff_of_toDigits_eq {n : Nat} (h : Nat.toDigits 16 n = shortDigits text) :
    n = 0 ↔ (text.map Char.toLower).dropWhile (· == '0') = [] := by
  constructor
  · intro hzero
    by_contra hdigits
    rw [hzero, shortDigits, if_neg (by simpa using hdigits)] at h
    have hhead := List.head_dropWhile_not (· == '0') hdigits
    simp [← h] at hhead
  · intro hzeros
    rw [shortDigits, hzeros] at h
    have hback : value? 16 (Nat.toDigits 16 n) = some n :=
      value?_toDigits ⟨by decide, by decide⟩ n
    rw [h] at hback
    exact (Option.some.inj hback).symm

/-- The digits of the number that hexadecimal digits denote are those digits, in small letters and
without zeros in front. -/
theorem toDigits_hexNumber (hne : text ≠ []) (h : ∀ c ∈ text, isHexDigit c = true) :
    Nat.toDigits 16 (hexNumber text) = shortDigits text := by
  induction text using List.reverseRecOn with
  | nil => exact absurd rfl hne
  | append_singleton front c ih =>
      rw [List.forall_mem_append, List.forall_mem_singleton] at h
      obtain ⟨n, hn, hdigit, hletter⟩ := exists_digitValue?_eq h.2
      rw [hexNumber_concat front hdigit, shortDigits_concat]
      by_cases hfront : front = []
      · subst hfront
        rw [if_pos (by rfl), show hexNumber [] = 0 from rfl, Nat.mul_zero, Nat.zero_add,
          Nat.toDigits_of_lt_base hn, hletter]
      have hdigits := ih hfront h.1
      by_cases hzeros : (front.map Char.toLower).dropWhile (· == '0') = []
      · -- Zeros denote zero, so the last digit is all that is written.
        rw [if_pos hzeros, (eq_zero_iff_of_toDigits_eq hdigits).2 hzeros, Nat.mul_zero,
          Nat.zero_add, Nat.toDigits_of_lt_base hn, hletter]
      · have hpositive : 0 < hexNumber front :=
          Nat.pos_of_ne_zero fun hzero => hzeros ((eq_zero_iff_of_toDigits_eq hdigits).1 hzero)
        rw [if_neg hzeros, ← hdigits, ← hletter, ← Nat.toDigits_of_lt_base hn,
          Nat.toDigits_append_toDigits (by decide) hpositive hn]

end HttpRpc.Text
