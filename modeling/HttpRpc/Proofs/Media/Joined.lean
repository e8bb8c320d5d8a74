import HttpRpc.Proofs.Media.Accept
import Mathlib.Algebra.GroupWithZero.Nat
import Mathlib.Data.List.Perm.Basic
import Mathlib.Data.List.TakeWhile

/-!
# Lists of media types that are joined

The lines of a list may be joined to one. The joined list accepts what its lines accept one after
the other (`parseAccept_join`), so it accepts what its first line accepts exactly if the other lines
add nothing (`parseAccept_join_eq`). Where they do add something, the lists have different texts
(`addsNothing_of_renderList_eq`).
-/

namespace HttpRpc

/-- Only blanks are left out of a text of which nothing is left. -/
theorem Text.isBlank_of_trim_eq_nil {text : List Char} (h : trim text = []) :
    ∀ c ∈ text, isBlank c = true := by
  rw [trim, trimMatches, dropWhileEnd, List.reverse_eq_nil_iff, List.dropWhile_eq_nil_iff] at h
  refine List.dropWhile_eq_nil_iff.1 ?_
  cases hkept : text.dropWhile isBlank with
  | nil => rfl
  | cons c rest =>
      have hblank : isBlank c = true := h c (by simp [hkept])
      have hfirst := List.head_dropWhile_not isBlank (hkept ▸ List.cons_ne_nil c rest)
      simp only [hkept, List.head_cons] at hfirst
      rw [hblank] at hfirst
      cases hfirst

namespace MediaType

open HttpRpc.Text

variable {media : MediaType} {header first : String} {rest : List String}

/-! ## What lines accept -/

/-- The media types that a list states and does not refuse, in its order. -/
def usable (header : String) : List MediaType :=
  (listed header).filter fun media => media.quality.isPositive

/-- What is usable is of tokens. -/
theorem hasTokens_of_mem_usable (h : media ∈ usable header) : media.HasTokens :=
  hasTokens_of_mem_listed (List.mem_filter.1 h).1

/-- A joined list states what the two lists state. -/
theorem listed_append (first second : String) :
    listed (first ++ ", " ++ second) = listed first ++ listed second := by
  have htrim : (splitOn ',' (' ' :: second.toList)).map trim =
      (splitOn ',' second.toList).map trim := by
    rw [splitOn, if_neg (by decide)]
    cases hsplit : splitOn ',' second.toList with
    | nil => exact absurd hsplit (splitOn_ne_nil ',' second.toList)
    | cons part parts => rw [List.map_cons, List.map_cons, trim_cons (by decide)]
  have htext : (first ++ ", " ++ second).toList =
      first.toList ++ ',' :: ' ' :: second.toList := by
    simp
  rw [listed, htext, splitOn_append, List.map_append, htrim, List.filter_append,
    List.filterMap_append]
  rfl

/-- A joined list states what its lines state. -/
theorem usable_intercalate (first : String) (rest : List String) :
    usable (String.intercalate ", " (first :: rest)) = (first :: rest).flatMap usable := by
  induction rest generalizing first with
  | nil => rw [String.intercalate_singleton, List.flatMap_singleton]
  | cons second rest ih =>
      rw [String.intercalate_cons_cons, List.flatMap_cons, ← ih, usable, listed_append,
        List.filter_append]
      rfl

/-- A list that is not blank accepts what is usable, the most preferred first. -/
theorem parseAccept_of_ne (h : trim header.toList ≠ []) :
    parseAccept header =
      (usable header).mergeSort fun a b => b.quality.code ≤ a.quality.code := by
  have hblank : (trim header.toList).isEmpty = false := List.isEmpty_eq_false_iff.2 h
  rw [parseAccept_eq]
  simp only [hblank, Bool.and_false, Bool.false_eq_true, if_false]
  rfl

/-- A blank list states nothing, and accepts anything. -/
theorem parseAccept_of_blank (h : trim header.toList = []) :
    usable header = [] ∧ parseAccept header = [any] := by
  have hcomma : ',' ∉ header.toList := fun hmem =>
    absurd (isBlank_of_trim_eq_nil h ',' hmem) (by decide)
  have hlisted : listed header = [] := by
    rw [listed, splitOn_eq_self hcomma, List.map_singleton, h]
    rfl
  refine ⟨by rw [usable, hlisted, List.filter_nil], ?_⟩
  rw [parseAccept_eq, hlisted, h]
  rfl

/-- Lines that are joined accept together what each of them states. -/
theorem parseAccept_join (first second : String) (rest : List String) :
    parseAccept (String.intercalate ", " (first :: second :: rest)) =
      ((first :: second :: rest).flatMap usable).mergeSort fun a b =>
        b.quality.code ≤ a.quality.code := by
  rw [parseAccept_of_ne, usable_intercalate]
  intro hblank
  have hcomma : ',' ∈ (String.intercalate ", " (first :: second :: rest)).toList := by
    rw [String.intercalate_cons_cons]
    simp
  exact absurd (isBlank_of_trim_eq_nil hblank ',' hcomma) (by decide)

/-- Further lines add nothing to a first one: they state nothing that is usable, or the first one is
blank, so that it accepts anything, and they state just that. A first line that is blank does not
stand for anything any more where others follow. -/
def AddsNothing (first : String) (rest : List String) : Prop :=
  rest.flatMap usable = [] ∧ (rest = [] ∨ trim first.toList ≠ []) ∨
    trim first.toList = [] ∧ rest.flatMap usable = [any]

/-- Lines that add nothing leave the media types as they are. -/
theorem parseAccept_join_eq (h : AddsNothing first rest) :
    parseAccept (String.intercalate ", " (first :: rest)) = parseAccept first := by
  cases rest with
  | nil => rw [String.intercalate_singleton]
  | cons second rest =>
      rw [parseAccept_join, List.flatMap_cons]
      rcases h with ⟨hnone, hfirst⟩ | ⟨hblank, hany⟩
      · rw [hnone, List.append_nil, parseAccept_of_ne (hfirst.resolve_left nofun)]
      · rw [hany, (parseAccept_of_blank hblank).1, (parseAccept_of_blank hblank).2,
          List.nil_append, List.mergeSort_singleton]

/-! ## Texts of lists -/

/-- The room that media types take in the text of a list, each with a comma and a space. -/
def room (list : List MediaType) : Nat :=
  (list.map fun media => media.render.length + 2).sum

/-- The order of a list does not matter to its room. -/
theorem room_of_perm {list other : List MediaType} (h : list.Perm other) :
    room list = room other :=
  (h.map _).sum_nat

/-- The text of a list takes the room of its media types without the last comma and space. -/
theorem length_renderList (list : List MediaType) : (renderList list).length = room list - 2 := by
  cases list with
  | nil => rfl
  | cons first rest =>
      rw [← String.length_toList, toList_renderList, List.length_append, List.length_flatMap,
        List.map_map, room, List.map_cons, List.sum_cons, String.length_toList]
      simp only [Function.comp_def, List.length_cons, String.length_toList, Nat.add_assoc,
        Nat.reduceAdd]
      omega

/-- A media type has a text. -/
theorem length_render_pos (media : MediaType) : 0 < media.render.length := by
  rw [render, essence, String.length_append, String.length_append, String.length_append]
  have : "/".length = 1 := rfl
  omega

/-- Media types take room. -/
theorem le_room_of_ne_nil {list : List MediaType} (h : list ≠ []) : 3 ≤ room list := by
  obtain ⟨first, rest, rfl⟩ := List.exists_cons_of_ne_nil h
  have := first.length_render_pos
  rw [room, List.map_cons, List.sum_cons]
  omega

/-- The media type of anything is told by its text. -/
theorem eq_any_of_render (hmedia : media.HasTokens) (h : media.render = any.render) :
    media = any := by
  obtain ⟨main, sub, params⟩ := media
  have hne {token : String} (htoken : isToken token.toList = true) : token.toList ≠ [] := by
    rw [isToken, Bool.and_eq_true, Bool.not_eq_true'] at htoken
    exact List.isEmpty_eq_false_iff.1 htoken.1
  obtain ⟨a, as, hmain⟩ := List.exists_cons_of_ne_nil (hne hmedia.1)
  obtain ⟨b, bs, hsub⟩ := List.exists_cons_of_ne_nil (hne hmedia.2)
  simp only at hmain hsub
  have hlist : (MediaType.mk main sub params).render.toList = ['*', '/', '*'] := by
    rw [h, any_eq]
    decide
  have hslash : "/".toList = ['/'] := rfl
  simp only [render, essence, String.toList_append, hmain, hsub, hslash] at hlist
  generalize hbehind : (String.join _).toList = behind at hlist
  -- The type and the subtype take one character each, so that nothing is left for parameters.
  have hlength := congrArg List.length hlist
  simp only [List.length_append, List.length_cons, List.length_nil] at hlength
  obtain rfl : as = [] := List.eq_nil_of_length_eq_zero (by omega)
  obtain rfl : bs = [] := List.eq_nil_of_length_eq_zero (by omega)
  obtain rfl : behind = [] := List.eq_nil_of_length_eq_zero (by omega)
  simp only [List.append_nil, List.cons_append, List.nil_append, List.cons.injEq, true_and,
    and_true] at hlist
  obtain ⟨rfl, rfl⟩ := hlist
  obtain rfl : main = "*" := String.toList_inj.1 hmain
  obtain rfl : sub = "*" := String.toList_inj.1 hsub
  cases params with
  | nil => exact any_eq.symm
  | cons param rest =>
      rw [String.toList_join] at hbehind
      simp at hbehind

/-- The list of anything is told by its text. -/
theorem eq_any_of_renderList {list : List MediaType} (hlist : ∀ media ∈ list, media.HasTokens)
    (h : renderList list = renderList [any]) : list = [any] := by
  have hlength := congrArg String.length h
  rw [length_renderList, length_renderList] at hlength
  have hany : room [any] = 5 := by
    rw [any_eq]
    decide
  match list with
  | [] => exact absurd hlength (by rw [hany]; decide)
  | [media] =>
      have hrender (media : MediaType) : renderList [media] = media.render :=
        String.intercalate_singleton
      rw [hrender, hrender] at h
      rw [eq_any_of_render (hlist media List.mem_cons_self) h]
  | first :: second :: rest =>
      have := first.length_render_pos
      have := le_room_of_ne_nil (List.cons_ne_nil second rest)
      rw [hany, room, List.map_cons, List.sum_cons, ← room] at hlength
      omega

/-- Lines that add something to a list change its text. -/
theorem addsNothing_of_renderList_eq
    (h : renderList (parseAccept (String.intercalate ", " (first :: rest))) =
      renderList (parseAccept first)) : AddsNothing first rest := by
  cases rest with
  | nil => exact .inl ⟨rfl, .inl rfl⟩
  | cons second rest =>
      rw [parseAccept_join] at h
      by_cases hblank : trim first.toList = []
      · obtain ⟨hnone, hany⟩ := parseAccept_of_blank hblank
        rw [hany] at h
        have hsorted := eq_any_of_renderList (fun media hmedia => by
          obtain ⟨line, -, hline⟩ := List.mem_flatMap.1 (List.mem_mergeSort.1 hmedia)
          exact hasTokens_of_mem_usable hline) h
        have hperm := List.mergeSort_perm ((first :: second :: rest).flatMap usable)
          fun a b => b.quality.code ≤ a.quality.code
        rw [hsorted, List.flatMap_cons, hnone, List.nil_append] at hperm
        exact .inr ⟨hblank, List.perm_singleton.1 hperm.symm⟩
      · refine .inl ⟨?_, .inr hblank⟩
        by_contra hadded
        rw [parseAccept_of_ne hblank, List.flatMap_cons] at h
        have hlength := congrArg String.length h
        rw [length_renderList, length_renderList, room_of_perm (List.mergeSort_perm ..),
          room_of_perm (List.mergeSort_perm ..), room, List.map_append, List.sum_append, ← room,
          ← room] at hlength
        have := le_room_of_ne_nil hadded
        omega

end MediaType

end HttpRpc
