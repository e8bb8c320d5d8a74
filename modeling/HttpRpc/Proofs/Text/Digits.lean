import HttpRpc.Text.Digits

/-!
# Numerals read back

The digits of a number in a base up to sixteen are hexadecimal, and stand for the number
(`value?_toDigits`), so that different numbers have different numerals.
-/

namespace HttpRpc.Text

variable {base n : Nat}

/-- The digits of a number are hexadecimal. -/
theorem isHexDigit_of_mem_toDigits {c : Char} (hbase : 1 < base ∧ base ≤ 16)
    (h : c ∈ Nat.toDigits base n) : isHexDigit c = true := by
  have hdigit : ∀ n < 16, isHexDigit (Nat.digitChar n) = true := by decide
  induction n using Nat.strongRecOn with
  | ind n ih =>
      by_cases hn : n < base
      · rw [Nat.toDigits_of_lt_base hn, List.mem_singleton] at h
        rw [h]
        exact hdigit n (by omega)
      · rw [Nat.toDigits_of_base_le hbase.1 (Nat.not_lt.1 hn), List.mem_append,
          List.mem_singleton] at h
        rcases h with h | h
        · exact ih (n / base) (Nat.div_lt_self (by omega) hbase.1) h
        · rw [h]
          have := Nat.mod_lt n (show 0 < base by omega)
          exact hdigit _ (by omega)

/-- Digits are read one after the other. -/
theorem valueFrom?_append (sum : Nat) (front back : List Char) :
    valueFrom? base sum (front ++ back) =
      (valueFrom? base sum front).bind fun sum => valueFrom? base sum back := by
  induction front generalizing sum with
  | nil => rfl
  | cons c rest ih =>
      simp only [List.cons_append, valueFrom?]
      split
      · split
        · exact ih _
        · rfl
      · rfl

/-- A digit of the base is read behind the digits before it. -/
theorem valueFrom?_digitChar (hbase : base ≤ 16) (h : n < base) (sum : Nat) :
    valueFrom? base sum [Nat.digitChar n] = some (sum * base + n) := by
  have hdigit : ∀ n < 16, digitValue? (Nat.digitChar n) = some n := by decide
  rw [valueFrom?, hdigit n (by omega)]
  exact if_pos h

/-- The digits of a number stand for it. -/
theorem value?_toDigits (hbase : 1 < base ∧ base ≤ 16) (n : Nat) :
    value? base (Nat.toDigits base n) = some n := by
  have hvalue : valueFrom? base 0 (Nat.toDigits base n) = some n := by
    induction n using Nat.strongRecOn with
    | ind n ih =>
        by_cases hn : n < base
        · rw [Nat.toDigits_of_lt_base hn, valueFrom?_digitChar hbase.2 hn, Nat.zero_mul,
            Nat.zero_add]
        · -- The last digit is the remainder, and those before it are the quotient's.
          have hlast : n % base < base := Nat.mod_lt n (by omega)
          rw [Nat.toDigits_of_base_le hbase.1 (Nat.not_lt.1 hn), valueFrom?_append,
            ih (n / base) (Nat.div_lt_self (by omega) hbase.1), Option.bind_some,
            valueFrom?_digitChar hbase.2 hlast, Nat.div_add_mod']
  rw [value?, if_neg (by simp [Nat.toDigits_ne_nil]), hvalue]

/-- Numerals show their numbers. -/
theorem decimal_injective : Function.Injective decimal := by
  intro first second h
  have hread (n : Nat) : Nat.ofDigitChars 10 (Nat.toDigits 10 n) 0 = n :=
    Nat.ofDigitChars_toDigits (by decide) (by decide)
  rw [← hread first, String.ofList_injective h, hread]

end HttpRpc.Text
