import HttpRpc.Proofs.Text.Split
import HttpRpc.Proofs.Url.Unescape
import HttpRpc.Url.Basic

/-!
# Queries read back

A query in form encoding shows its pairs again: no separator occurs in an encoded text, so cutting
the query gives the encoded texts, and each of them stands for its text (`decodePairs_encodePairs`).
Pairs that are appended to a URL stand behind those that its query had before
(`queryPairs_appendPairs`).
-/

namespace HttpRpc.Url

open HttpRpc.Text

namespace Form

/-! ## Parts of a pair -/

/-- The escaped form of a character holds no character that is escaped, percent signs and digits
apart. -/
theorem not_mem_encodeChar {c : Char} (hescaped : isEscaped c = true) (hpercent : c ≠ '%')
    (hdigit : isHexDigit c = false) (d : Char) : c ∉ Percent.encodeChar isEscaped d := by
  have hsingle : Percent.encode isEscaped [d] = Percent.encodeChar isEscaped d :=
    List.flatMap_singleton _ _
  rw [← hsingle]
  exact Percent.not_mem_encode hescaped hpercent hdigit [d]

/-- An encoded text holds no such character either, plus signs apart. -/
theorem not_mem_encode {c : Char} (hescaped : isEscaped c = true) (hplus : c ≠ '+')
    (hpercent : c ≠ '%') (hdigit : isHexDigit c = false) (text : List Char) : c ∉ encode text := by
  intro h
  obtain ⟨d, -, hc⟩ := List.mem_flatMap.1 h
  split at hc
  · exact hplus (List.mem_singleton.1 hc)
  · exact not_mem_encodeChar hescaped hpercent hdigit d hc

/-- The text with the spaces that plus signs stand for. -/
def spaced (text : List Char) : List Char :=
  text.map fun c => if c = '+' then ' ' else c

/-- Plus signs are escaped, so the escaped form of a character has none of them. -/
theorem spaced_encodeChar (c : Char) :
    spaced (Percent.encodeChar isEscaped c) = Percent.encodeChar isEscaped c := by
  refine (List.map_congr_left fun d hd => if_neg ?_).trans (List.map_id _)
  rintro rfl
  exact not_mem_encodeChar (by decide) (by decide) (by decide) c hd

/-- An encoded text stands for its octets. -/
theorem decode_spaced_encode (text : List Char) :
    Percent.decode (spaced (encode text)) = Utf8.encode text := by
  induction text with
  | nil => rfl
  | cons c rest ih =>
      rw [encode, List.flatMap_cons, spaced, List.map_append, ← encode, ← spaced, ← spaced]
      show _ = String.utf8EncodeChar c ++ Utf8.encode rest
      by_cases hspace : c = ' '
      · subst hspace
        rw [if_pos rfl]
        show Percent.decode (' ' :: spaced (encode rest)) = _
        rw [Percent.decode_cons (by decide), ih]
      · rw [if_neg hspace, spaced_encodeChar, Percent.decode_encodeChar (by decide), ih]

/-- An encoded text stands for the text. -/
theorem decode_encode (text : List Char) : decode (encode text) = text := by
  show Utf8.decodeLossy (Percent.decode (spaced (encode text))) = text
  rw [decode_spaced_encode, Utf8.decodeLossy, Utf8.pieces_encode, List.map_map]
  exact List.map_id text

/-! ## Pairs -/

/-- An encoded pair stands for the pair. -/
theorem decodePair_encodePair (pair : String × String) : decodePair (encodePair pair) = pair := by
  have hkey : '=' ∉ encode pair.1.toList :=
    not_mem_encode (by decide) (by decide) (by decide) (by decide) _
  rw [decodePair, encodePair, List.append_assoc, List.singleton_append, splitOnce_append hkey]
  simp only [decode_encode, String.ofList_toList]

/-- An encoded pair does not end a pair. -/
theorem not_mem_encodePair (pair : String × String) : '&' ∉ encodePair pair := by
  have hpart (text : List Char) : '&' ∉ encode text :=
    not_mem_encode (by decide) (by decide) (by decide) (by decide) text
  simp only [encodePair, List.mem_append, List.mem_singleton, hpart, or_false, false_or]
  decide

/-- An encoded pair is not empty. -/
theorem encodePair_ne_nil (pair : String × String) : encodePair pair ≠ [] := by
  simp [encodePair]

/-- Pairs are read one by one. -/
theorem decodePairs_append (before behind : List Char) :
    decodePairs (before ++ '&' :: behind) = decodePairs before ++ decodePairs behind := by
  rw [decodePairs, splitOn_append, List.filter_append, List.map_append]
  rfl

/-- A query of one encoded pair stands for the pair. -/
theorem decodePairs_encodePair (pair : String × String) :
    decodePairs (encodePair pair) = [pair] := by
  have hfilter : [encodePair pair].filter (fun part => !part.isEmpty) = [encodePair pair] := by
    simp [encodePair_ne_nil]
  rw [decodePairs, splitOn_eq_self (not_mem_encodePair pair), hfilter, List.map_singleton,
    decodePair_encodePair]

/-- A query of encoded pairs stands for the pairs. -/
theorem decodePairs_encodePairs (pairs : List (String × String)) :
    decodePairs (encodePairs pairs) = pairs := by
  induction pairs with
  | nil => rfl
  | cons pair rest ih =>
      cases rest with
      | nil => exact decodePairs_encodePair pair
      | cons next others =>
          have hjoin : encodePairs (pair :: next :: others) =
              encodePair pair ++ '&' :: encodePairs (next :: others) := by
            rw [encodePairs, List.map_cons, join_cons _ _ _ (by simp), List.append_assoc]
            rfl
          rw [hjoin, decodePairs_append, decodePairs_encodePair, ih]
          rfl

end Form

/-! ## Queries of URLs -/

/-- The pairs that the query of a URL stands for. -/
def queryPairs (url : Url) : List (String × String) :=
  match url.query with
  | some query => Form.decodePairs query.toList
  | none => []

/-- Appended pairs are read behind those before. -/
theorem queryPairs_appendPairs (url : Url) (pairs : List (String × String)) :
    (url.appendPairs pairs).queryPairs = url.queryPairs ++ pairs := by
  cases hquery : url.query with
  | none => simp [appendPairs, queryPairs, hquery, Form.decodePairs_encodePairs]
  | some query =>
      simp only [appendPairs, queryPairs, hquery]
      by_cases hempty : query.isEmpty
      · have hnone : Form.decodePairs query.toList = [] := by
          rw [String.isEmpty_iff.1 hempty]
          rfl
        rw [if_pos hempty, hnone, String.toList_ofList, Form.decodePairs_encodePairs]
        rfl
      · have hchars : (query ++ "&" ++ String.ofList (Form.encodePairs pairs)).toList =
            query.toList ++ '&' :: Form.encodePairs pairs := by
          simp [String.toList_append]
        rw [if_neg hempty, hchars, Form.decodePairs_append, Form.decodePairs_encodePairs]

end HttpRpc.Url
