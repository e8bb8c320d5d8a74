import HttpRpc.Proofs.Media.Type
import HttpRpc.Proofs.Text.Split
import Mathlib.Data.List.Basic

/-!
# Lists of media types

A list of accepted media types accepts those that are listed and not refused (`mem_parseAccept`). A
media type is plain if it is concrete, of tokens, and without parameters. A plain media type is read
as it was written (`parse?_render`), and so is a list of them (`parseAccept_renderList`), which is
how a client lists what its codecs read.
-/

namespace HttpRpc.MediaType

open HttpRpc.Text

variable {media other : MediaType} {header : String}

/-! ## What is listed -/

/-- The media types that a list states, in its order. -/
def listed (header : String) : List MediaType :=
  (((splitOn ',' header.toList).map trim).filter fun entry => !entry.isEmpty).filterMap parse?

/-- What is listed and not refused is accepted, the most preferred first. -/
theorem parseAccept_eq (header : String) :
    parseAccept header =
      let accepted := (listed header).filter fun media => media.quality.isPositive
      if accepted.isEmpty && (trim header.toList).isEmpty then [any]
      else accepted.mergeSort fun a b => b.quality.code ≤ a.quality.code :=
  rfl

/-- What is accepted is listed and not refused, or anything is accepted. -/
theorem mem_parseAccept (h : media ∈ parseAccept header) :
    media = any ∨ media ∈ listed header ∧ media.quality.isPositive = true := by
  rw [parseAccept_eq] at h
  simp only at h
  split at h
  · exact .inl (List.mem_singleton.1 h)
  · rw [List.mem_mergeSort, List.mem_filter] at h
    exact .inr h

/-- What is listed is made. -/
theorem made_of_mem_listed (h : media ∈ listed header) : media.Made := by
  obtain ⟨entry, -, hentry⟩ := List.mem_filterMap.1 h
  exact made_of_parse? hentry

/-- What is listed is of tokens. -/
theorem hasTokens_of_mem_listed (h : media ∈ listed header) : media.HasTokens := by
  obtain ⟨entry, -, hentry⟩ := List.mem_filterMap.1 h
  exact hasTokens_of_parse? hentry

/-- What is accepted is made. -/
theorem made_of_mem_parseAccept (h : media ∈ parseAccept header) : media.Made := by
  rcases mem_parseAccept h with rfl | ⟨hlisted, -⟩
  · exact .new wildcard wildcard
  · exact made_of_mem_listed hlisted

/-! ## Plain media types -/

/-- A concrete media type of tokens without parameters. -/
structure IsPlain (media : MediaType) : Prop where
  made : media.Made
  hasTokens : media.HasTokens
  concrete : media.isWildcard = false
  params_eq : media.params = []

/-- The media type of JSON texts is plain. -/
theorem isPlain_json : json.IsPlain where
  made := .new "application" "json"
  hasTokens := by
    rw [json_eq]
    exact ⟨by decide, by decide⟩
  concrete := isWildcard_json
  params_eq := rfl

/-- The media type of plain texts is plain. -/
theorem isPlain_plainText : plainText.IsPlain where
  made := .new "text" "plain"
  hasTokens := by
    rw [plainText_eq]
    exact ⟨by decide, by decide⟩
  concrete := isWildcard_plainText
  params_eq := rfl

namespace IsPlain

/-- The characters of the text of a plain media type. -/
theorem isTokenChar_of_mem (h : media.IsPlain) {c : Char} (hc : c ∈ media.render.toList) :
    isTokenChar c = true ∨ c = '/' := by
  rw [toList_render_of_params h.params_eq, List.mem_append, List.mem_cons] at hc
  rcases hc with hc | rfl | hc
  · exact .inl (isTokenChar_of_isToken h.hasTokens.1 hc)
  · exact .inr rfl
  · exact .inl (isTokenChar_of_isToken h.hasTokens.2 hc)

/-- The text of a plain media type is visible. -/
theorem toNat_of_mem (h : media.IsPlain) {c : Char} (hc : c ∈ media.render.toList) :
    32 < c.toNat ∧ c.toNat < 127 := by
  rcases h.isTokenChar_of_mem hc with hc | rfl
  · exact toNat_of_isTokenChar hc
  · decide

/-- A character other than a slash that is no part of a token is no part of the text. -/
theorem not_mem_render (h : media.IsPlain) {c : Char} (hc : isTokenChar c = false)
    (hslash : c ≠ '/') : c ∉ media.render.toList := fun hmem =>
  (h.isTokenChar_of_mem hmem).elim (fun htoken => Bool.eq_false_iff.1 hc htoken) hslash

/-- The text of a plain media type has no blanks. -/
theorem trim_render (h : media.IsPlain) : trim media.render.toList = media.render.toList := by
  refine trim_eq_self fun c hc => ?_
  rcases h.isTokenChar_of_mem hc with hc | rfl
  · exact isBlank_of_isTokenChar hc
  · decide

/-- A plain media type is read as it was written. -/
theorem parse?_render (h : media.IsPlain) : parse? media.render.toList = some media := by
  have hconcrete : media.main ≠ wildcard := by
    intro hwildcard
    have hsingle := h.concrete
    rw [isWildcard, hwildcard] at hsingle
    cases hsingle
  have hessence : parseEssence? media.render.toList = some media := by
    rw [toList_render_of_params h.params_eq,
      h.hasTokens.parseEssence?_eq h.made fun hmain => absurd hmain hconcrete, ← h.params_eq]
  rw [parse?, splitOn_eq_self (h.not_mem_render (by decide) (by decide))]
  show (parseEssence? media.render.toList).bind _ = some media
  rw [hessence]
  rfl

/-- The characters of the text of a plain media type may stand in a header. -/
theorem isPrintable_of_mem (h : media.IsPlain) {c : Char} (hc : c ∈ media.render.toList) :
    32 ≤ c.toNat ∧ c.toNat < 127 :=
  ⟨Nat.le_of_lt (h.toNat_of_mem hc).1, (h.toNat_of_mem hc).2⟩

/-- The text of a plain media type is the value of a header and reads back. -/
theorem exists_ofString?_eq (h : media.IsPlain) :
    ∃ value, HeaderValue.ofString? media.render = some value ∧ value.text? = some media.render :=
  HeaderValue.exists_ofString?_eq fun _ => h.isPrintable_of_mem

/-- A plain media type is preferred as much as possible. -/
theorem quality_eq (h : media.IsPlain) : media.quality = .one := by
  rw [quality, param?, h.params_eq]
  rfl

end IsPlain

/-! ## Lists of plain media types -/

/-- The text of a list is the first text and each other one behind a comma and a space. -/
theorem toList_renderList (first : MediaType) (rest : List MediaType) :
    (renderList (first :: rest)).toList = first.render.toList ++
      (rest.map fun media => ' ' :: media.render.toList).flatMap (',' :: ·) := by
  induction rest generalizing first with
  | nil => simp [renderList, String.intercalate_singleton]
  | cons second rest ih =>
      have hcons : renderList (first :: second :: rest) =
          first.render ++ ", " ++ renderList (second :: rest) :=
        String.intercalate_cons_cons
      rw [hcons, String.toList_append, String.toList_append, ih]
      simp

/-- Plain media types that are listed are read as they were written. -/
theorem listed_renderList {list : List MediaType} (hne : list ≠ [])
    (hplain : ∀ media ∈ list, media.IsPlain) : listed (renderList list) = list := by
  obtain ⟨first, rest, rfl⟩ := List.exists_cons_of_ne_nil hne
  obtain ⟨hfirst, hrest⟩ := List.forall_mem_cons.1 hplain
  have hcomma {media : MediaType} (h : media.IsPlain) : ',' ∉ media.render.toList :=
    h.not_mem_render (by decide) (by decide)
  have hsplit : splitOn ',' (renderList (first :: rest)).toList =
      first.render.toList :: rest.map fun media => ' ' :: media.render.toList := by
    rw [toList_renderList, splitOn_append_flatMap (hcomma hfirst)]
    rw [List.forall_mem_map]
    intro media hmedia
    rw [List.mem_cons, not_or]
    exact ⟨by decide, hcomma (hrest media hmedia)⟩
  have htrim : (splitOn ',' (renderList (first :: rest)).toList).map trim =
      (first :: rest).map fun media => media.render.toList := by
    rw [hsplit, List.map_cons, hfirst.trim_render, List.map_map, List.map_cons]
    refine congrArg _ (List.map_congr_left fun media hmedia => ?_)
    rw [Function.comp_apply, trim_cons (by decide), (hrest media hmedia).trim_render]
  have hfilter : ((first :: rest).map fun media => media.render.toList).filter
      (fun entry => !entry.isEmpty) = (first :: rest).map fun media => media.render.toList := by
    rw [List.filter_eq_self, List.forall_mem_map]
    intro media hmedia
    rw [toList_render_of_params (hplain media hmedia).params_eq]
    simp
  rw [listed, htrim, hfilter, List.filterMap_map]
  exact (List.filterMap_congr fun media hmedia => (hplain media hmedia).parse?_render).trans
    List.filterMap_some

/-- A list of plain media types accepts them in their order. -/
theorem parseAccept_renderList {list : List MediaType} (hne : list ≠ [])
    (hplain : ∀ media ∈ list, media.IsPlain) : parseAccept (renderList list) = list := by
  have haccepted : list.filter (fun media => media.quality.isPositive) = list := by
    rw [List.filter_eq_self]
    intro media hmedia
    rw [(hplain media hmedia).quality_eq]
    decide
  have hsorted : list.Pairwise fun a b => decide (b.quality.code ≤ a.quality.code) = true := by
    refine List.pairwise_of_forall_mem_list fun a ha b hb => ?_
    rw [(hplain a ha).quality_eq, (hplain b hb).quality_eq]
    decide
  rw [parseAccept_eq, listed_renderList hne hplain, haccepted]
  simp only [List.isEmpty_eq_false_iff.2 hne, Bool.false_and, Bool.false_eq_true, if_false]
  exact List.mergeSort_of_pairwise hsorted

/-- A list of plain media types is the value of a header and reads back. -/
theorem exists_ofString?_renderList {list : List MediaType}
    (hplain : ∀ media ∈ list, media.IsPlain) :
    ∃ value, HeaderValue.ofString? (renderList list) = some value ∧
      value.text? = some (renderList list) := by
  refine HeaderValue.exists_ofString?_eq ?_
  cases list with
  | nil => exact nofun
  | cons first rest =>
      obtain ⟨hfirst, hrest⟩ := List.forall_mem_cons.1 hplain
      intro c hc
      rw [toList_renderList, List.mem_append] at hc
      rcases hc with hc | hc
      · exact hfirst.isPrintable_of_mem hc
      · obtain ⟨part, hpart, hc⟩ := List.mem_flatMap.1 hc
        obtain ⟨media, hmem, rfl⟩ := List.mem_map.1 hpart
        simp only [List.mem_cons] at hc
        rcases hc with rfl | rfl | hc
        · decide
        · decide
        · exact (hrest media hmem).isPrintable_of_mem hc

end HttpRpc.MediaType
