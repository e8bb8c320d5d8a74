import HttpRpc.Json.Parser
import HttpRpc.Json.Printer
import HttpRpc.Proofs.Text.Letter

/-!
# Strings in JSON texts

A string is read back from its JSON text, whatever stands behind the closing quote
(`stringTail?_escapes`): a character is either left as it is or escaped behind a backslash, and each
escape stands for its character. So different strings have different texts
(`renderString_injective`).
-/

namespace HttpRpc.Json

open HttpRpc.Text

/-- A character that stands for itself is read as itself. -/
theorem stringTail?_cons {c : Char} (hquote : c ≠ '"') (hbackslash : c ≠ '\\')
    (hcontrol : ¬ c.toNat < 0x20) (rest : List Char) :
    stringTail? (c :: rest) = (stringTail? rest).map (withChar c) := by
  rw [stringTail?]
  · rw [if_neg (not_or.2 ⟨hcontrol, hbackslash⟩)]
  all_goals grind

/-- A one-letter escape is read as its character. -/
theorem stringTail?_simple {c letter : Char} (h : simpleEscape? letter = some c)
    (rest : List Char) :
    stringTail? ('\\' :: letter :: rest) = (stringTail? rest).map (withChar c) := by
  rw [stringTail?, h]
  rintro _ _ _ _ _ rfl
  cases h

/-- A control character in hexadecimal digits is read as that character. -/
theorem stringTail?_hex {c first second : Char} (hcontrol : c.toNat < 0x20)
    (h : hex4? '0' '0' first second = some c.toNat) (rest : List Char) :
    stringTail? ('\\' :: 'u' :: '0' :: '0' :: first :: second :: rest) =
      (stringTail? rest).map (withChar c) := by
  rw [stringTail?, h]
  simp only
  rw [if_neg (by omega), if_neg (by omega), Char.ofNat_toNat]

/-- The form of a character is read as the character. -/
theorem stringTail?_escape (c : Char) (rest : List Char) :
    stringTail? ((escape c).toList ++ rest) = (stringTail? rest).map (withChar c) := by
  -- First the seven characters with an escape of one letter, in the order in which they are tried.
  unfold escape
  split
  case isTrue h => rw [h]; exact stringTail?_simple rfl rest
  split
  case isTrue h => rw [h]; exact stringTail?_simple rfl rest
  split
  case isTrue h => rw [h]; exact stringTail?_simple rfl rest
  split
  case isTrue h => rw [h]; exact stringTail?_simple rfl rest
  split
  case isTrue h => rw [h]; exact stringTail?_simple rfl rest
  split
  case isTrue h => rw [h]; exact stringTail?_simple rfl rest
  split
  case isTrue h => rw [h]; exact stringTail?_simple rfl rest
  -- Of the others the control characters have a form of two hexadecimal digits.
  next hquote hbackslash _ _ _ _ _ =>
    split
    case isFalse hcontrol =>
      rw [Char.toString_eq_singleton, String.toList_singleton, List.singleton_append]
      exact stringTail?_cons hquote hbackslash hcontrol rest
    case isTrue hcontrol =>
      have hdigits : ∀ n < 0x20, hex4? '0' '0' (if n < 0x10 then '0' else '1')
          (Nat.digitChar (n % 16)) = some n := by
        decide
      have hlast : (hexadecimal (c.toNat % 16)).toList = [Nat.digitChar (c.toNat % 16)] := by
        rw [hexadecimal, String.toList_ofList, Nat.toDigits_of_lt_base (Nat.mod_lt _ (by decide))]
      have hfirst : (if c.toNat < 0x10 then "0" else "1").toList =
          [if c.toNat < 0x10 then '0' else '1'] := by
        split <;> rfl
      rw [String.toList_append, String.toList_append, hfirst, hlast]
      exact stringTail?_hex hcontrol (hdigits _ hcontrol) rest

/-- The forms of the characters of a string are read as the string. -/
theorem stringTail?_escapes (text rest : List Char) :
    stringTail? (text.flatMap (fun c => (escape c).toList) ++ '"' :: rest) =
      some (some text, rest) := by
  induction text with
  | nil => rw [List.flatMap_nil, List.nil_append, stringTail?]
  | cons c text ih =>
      rw [List.flatMap_cons, List.append_assoc, stringTail?_escape, ih]
      rfl

/-- Different strings have different JSON texts. -/
theorem renderString_injective : Function.Injective renderString := by
  intro first second h
  have hlist := congrArg String.toList h
  simp only [renderString, String.toList_append, String.toList_join, List.flatMap_map,
    List.append_assoc] at hlist
  have hread := congrArg stringTail? (List.append_cancel_left hlist)
  have hclose : "\"".toList = '"' :: [] := rfl
  rw [hclose, stringTail?_escapes, stringTail?_escapes] at hread
  exact String.toList_inj.1 (Option.some.inj (Prod.mk.inj (Option.some.inj hread)).1)

end HttpRpc.Json
