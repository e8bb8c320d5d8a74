import HttpRpc.Proofs.Text.Utf8
import HttpRpc.Service.Dispatcher

/-!
# What headers keep

A header that is set reads back, and the other headers are left as they were. A text of visible
ASCII characters, spaces and tabs is the value of a header and reads back as itself.
-/

namespace HttpRpc

open HttpRpc.Text

/-- A text of visible ASCII characters and spaces is the value of a header and reads back. -/
theorem HeaderValue.exists_ofString?_eq {text : String}
    (h : ∀ c ∈ text.toList, 32 ≤ c.toNat ∧ c.toNat < 127) :
    ∃ value, ofString? text = some value ∧ value.text? = some text := by
  have hoctets : Utf8.encodeString text = text.toList.map fun c => UInt8.ofNat c.toNat :=
    Utf8.encode_of_ascii fun c hc => Nat.lt_succ_of_lt (h c hc).2
  have hoctet {c : Char} (hc : c ∈ text.toList) : (UInt8.ofNat c.toNat).toNat = c.toNat :=
    Utf8.toNat_octet (by have := (h c hc).2; omega)
  have hallowed : (Utf8.encodeString text).all isAllowed = true := by
    rw [hoctets, List.all_map, List.all_eq_true]
    intro c hc
    have hrange := h c hc
    simp only [Function.comp_apply, isAllowed, hoctet hc, Bool.or_eq_true, Bool.and_eq_true,
      decide_eq_true_eq, bne_iff_ne]
    omega
  have hvisible : (Utf8.encodeString text).all isVisible = true := by
    rw [hoctets, List.all_map, List.all_eq_true]
    intro c hc
    have hrange := h c hc
    simp only [Function.comp_apply, isVisible, hoctet hc, Bool.or_eq_true, Bool.and_eq_true,
      decide_eq_true_eq]
    omega
  have hback : (Utf8.encodeString text).map (fun octet => Char.ofNat octet.toNat) =
      text.toList := by
    rw [hoctets, List.map_map]
    refine (List.map_congr_left fun c hc => ?_).trans (List.map_id _)
    rw [Function.comp_apply, hoctet hc, Char.ofNat_toNat, id]
  refine ⟨⟨Utf8.encodeString text⟩, if_pos hallowed, ?_⟩
  rw [text?, if_pos hvisible, hback, String.ofList_toList]

namespace Headers

variable {name other : String} {value : HeaderValue}

/-- The entry that is set is found under its name. -/
theorem lookup_setEntry_self (name : String) (values : List HeaderValue)
    (entries : List (String × List HeaderValue)) :
    (setEntry name values entries).lookup name = some values := by
  induction entries with
  | nil => simp [setEntry]
  | cons entry rest ih =>
      obtain ⟨key, old⟩ := entry
      unfold setEntry
      by_cases h : key = name
      · rw [if_pos h, List.lookup_cons_self]
      · rw [if_neg h, List.lookup_cons, beq_eq_false_iff_ne.2 (Ne.symm h)]
        exact ih

/-- Setting an entry leaves those of other names alone. -/
theorem lookup_setEntry_of_ne (h : other ≠ name) (values : List HeaderValue)
    (entries : List (String × List HeaderValue)) :
    (setEntry name values entries).lookup other = entries.lookup other := by
  induction entries with
  | nil =>
      rw [setEntry, List.lookup_cons, beq_eq_false_iff_ne.2 h]
  | cons entry rest ih =>
      obtain ⟨key, old⟩ := entry
      unfold setEntry
      by_cases hkey : key = name
      · rw [if_pos hkey, List.lookup_cons, List.lookup_cons, hkey]
        rw [beq_eq_false_iff_ne.2 h]
      · rw [if_neg hkey, List.lookup_cons, List.lookup_cons, ih]

/-- A header that is set has one value. -/
theorem values_insert_self (headers : Headers) (name : String) (value : HeaderValue) :
    (headers.insert name value).values name = [value] := by
  unfold values insert
  rw [lookup_setEntry_self]
  rfl

/-- Setting a header leaves all values of the others alone. -/
theorem values_insert_of_ne (headers : Headers) (h : other ≠ name) :
    (headers.insert name value).values other = headers.values other := by
  unfold values insert
  rw [lookup_setEntry_of_ne h]

/-- A header that is set reads back. -/
theorem get?_insert_self (headers : Headers) (name : String) (value : HeaderValue) :
    (headers.insert name value).get? name = some value := by
  rw [get?, values_insert_self]
  rfl

/-- Setting a header leaves the others alone. -/
theorem get?_insert_of_ne (headers : Headers) (h : other ≠ name) :
    (headers.insert name value).get? other = headers.get? other := by
  rw [get?, values_insert_of_ne headers h, get?]

end Headers

namespace HttpDispatcher

variable {name other text : String}

/-- A header whose text may be a value reads back. -/
theorem get?_setText_self (headers : Headers) {value : HeaderValue}
    (h : HeaderValue.ofString? text = some value) :
    (setText headers name text).get? name = some value := by
  rw [setText, h]
  exact headers.get?_insert_self name value

/-- A header that is set or left out leaves the others alone. -/
theorem get?_setText_of_ne (headers : Headers) (h : other ≠ name) :
    (setText headers name text).get? other = headers.get? other := by
  unfold setText
  split
  · exact headers.get?_insert_of_ne h
  · rfl

end HttpDispatcher

end HttpRpc
