import HttpRpc.Proofs.Binding.Placeholder
import Mathlib.Order.Bounds.Basic

/-!
# Numbers of placeholders

The numbers that the search for a placeholder tries are counted in 32 bits. The search finds the
first candidate that is not in use, unless that has a number beyond the counter
(`exists_addQueryParameter?_eq`). Such a number takes as many names in use, so the counter goes far
enough as long as names and calls together are no more than its values (`addQueryParameters?_eq`).
Calls with one key need all of these numbers (`length_add_le_of_replicate`), so one call more
overflows it (`addQueryParameters?_overflows`). The main statement is `addQueryParameters?_decided`.
Methods are bound without a limit, which within that bound is the same
(`addQueryParameters?_eq_addQueryKeys`).
-/

namespace HttpRpc.UriTemplate

open HttpRpc.Text

variable {template final : UriTemplate} {key : String} {keys names taken : List String} {n : Nat}

/-! ## The first free number -/

/-- A candidate behind the first one is the key with a number. -/
theorem candidate_of_pos (h : 0 < n) : candidate key n = key ++ decimal n :=
  if_neg (Nat.ne_of_gt h)

namespace IsFirstFree

/-- A key that is not in use is free without a number. -/
theorem eq_zero (h : template.IsFirstFree key n) (hkey : key ∉ template.placeholders) : n = 0 := by
  by_contra hpos
  exact hkey (h.used 0 (Nat.pos_of_ne_zero hpos))

/-- A key in use is free with the least positive number for which the name is. -/
theorem isLeast (h : template.IsFirstFree key n) (hkey : key ∈ template.placeholders) :
    IsLeast {m | 0 < m ∧ key ++ decimal m ∉ template.placeholders} n := by
  have hpos : 0 < n := by
    rw [Nat.pos_iff_ne_zero]
    rintro rfl
    exact h.free hkey
  refine ⟨⟨hpos, candidate_of_pos hpos ▸ h.free⟩, ?_⟩
  rintro m ⟨hm, hmfree⟩
  by_contra hlt
  exact hmfree (candidate_of_pos hm ▸ h.used m (Nat.not_le.1 hlt))

/-- There are as many names in use at least as numbers that are not free. -/
theorem le_length (h : template.IsFirstFree key n) (htaken : template.placeholders ⊆ taken) :
    n ≤ taken.length :=
  le_length_of_candidates fun m hm => htaken (h.used m hm)

/-- The counter goes from a number to the first free one, unless it overflows before. -/
theorem countedFrom_eq (h : template.IsFirstFree key n) {room suffix : Nat}
    (hroom : suffix + room = UInt32.size) (hle : suffix ≤ n) :
    template.countedFrom key room (UInt32.ofNat suffix) =
      if n < UInt32.size then some (candidate key n) else none := by
  induction room generalizing suffix with
  | zero =>
      -- All numbers that the counter has are in use.
      rw [countedFrom, if_neg (by omega)]
  | succ room ih =>
      have hcounted : (UInt32.ofNat suffix).toNat = suffix :=
        UInt32.toNat_ofNat_of_lt' (by omega)
      rw [countedFrom, hcounted]
      rcases hle.eq_or_lt with rfl | hlt
      · rw [if_neg (mt hasPlaceholder_iff.1 h.free), if_pos (by omega)]
      · have hnext : UInt32.ofNat suffix + 1 = UInt32.ofNat (suffix + 1) :=
          (UInt32.ofNat_add suffix 1).symm
        rw [if_pos (hasPlaceholder_iff.2 (h.used suffix hlt)), hnext]
        exact ih (by omega) hlt

end IsFirstFree

/-- A call adds the parameter under the first free candidate, unless the number of that is beyond
the counter. -/
theorem exists_addQueryParameter?_eq (template : UriTemplate) (key : String) :
    ∃ n, template.IsFirstFree key n ∧ (template.addQueryParameter key).2 = candidate key n ∧
      template.addQueryParameter? key =
        if n < UInt32.size then some (template.addQueryParameter key) else none := by
  obtain ⟨n, hfirst, hname⟩ := exists_isFirstFree template key
  refine ⟨n, hfirst, hname, ?_⟩
  have hcounted : template.countedFrom key UInt32.size 0 =
      if n < UInt32.size then some (template.freshPlaceholder key) else none := by
    rw [hname]
    exact hfirst.countedFrom_eq (Nat.zero_add _) (Nat.zero_le n)
  rw [addQueryParameter?, hcounted]
  split <;> rfl

/-! ## Rows of calls -/

/-- The first of calls with a result adds its parameter under a number that the counter has, and the
others go on from there. -/
theorem exists_of_addQueryParameters?_cons
    (h : template.addQueryParameters? (key :: keys) = some (final, names)) :
    ∃ others, names = template.freshPlaceholder key :: others ∧
      (∃ n < UInt32.size, template.freshPlaceholder key = candidate key n) ∧
      (template.addQueryParameter key).1.addQueryParameters? keys = some (final, others) := by
  obtain ⟨n, -, hname, hcall⟩ := exists_addQueryParameter?_eq template key
  rw [addQueryParameters?, hcall] at h
  split at h
  · next hcounted =>
      rw [Option.bind_eq_bind, Option.bind_some] at h
      obtain ⟨⟨later, others⟩, hrest, hresult⟩ := Option.bind_eq_some_iff.1 h
      cases hresult
      exact ⟨others, rfl, ⟨n, hcounted, hname⟩, hrest⟩
  · cases h

/-- Calls with a result do what they do without a limit. -/
theorem eq_of_addQueryParameters?_eq_some
    (h : template.addQueryParameters? keys = some (final, names)) :
    final = template.withQuery keys ∧ names = template.freshNames keys := by
  induction keys generalizing template names with
  | nil =>
      cases h
      exact ⟨rfl, rfl⟩
  | cons key rest ih =>
      obtain ⟨others, rfl, -, hrest⟩ := exists_of_addQueryParameters?_cons h
      obtain ⟨rfl, rfl⟩ := ih hrest
      exact ⟨rfl, rfl⟩

/-- Calls with a result give keys with numbers that the counter has. -/
theorem exists_candidate_of_addQueryParameters?
    (h : template.addQueryParameters? keys = some (final, names)) :
    ∀ name ∈ names, ∃ key ∈ keys, ∃ n < UInt32.size, name = candidate key n := by
  induction keys generalizing template names with
  | nil =>
      cases h
      exact nofun
  | cons key rest ih =>
      obtain ⟨others, rfl, hfirst, hrest⟩ := exists_of_addQueryParameters?_cons h
      intro name hname
      rcases List.mem_cons.1 hname with rfl | hname
      · exact ⟨key, List.mem_cons_self, hfirst⟩
      · obtain ⟨other, hother, hnumber⟩ := ih hrest name hname
        exact ⟨other, List.mem_cons_of_mem key hother, hnumber⟩

/-- Calls have a result as long as they and the names in use are no more than the values of the
counter. -/
theorem addQueryParameters?_eq (htaken : template.placeholders ⊆ taken)
    (hcount : taken.length + keys.length ≤ UInt32.size) :
    template.addQueryParameters? keys =
      some (template.withQuery keys, template.freshNames keys) := by
  induction keys generalizing template taken with
  | nil => rfl
  | cons key rest ih =>
      rw [List.length_cons] at hcount
      obtain ⟨n, hfirst, -, hcall⟩ := exists_addQueryParameter?_eq template key
      have hle := hfirst.le_length htaken
      rw [if_pos (by omega)] at hcall
      have hadded : (template.addQueryParameter key).1.placeholders ⊆
          taken ++ [template.freshPlaceholder key] := by
        rw [placeholders_addQueryParameter]
        exact List.append_subset.2
          ⟨List.subset_append_of_subset_left _ htaken, List.subset_append_right _ _⟩
      have hrest := ih hadded (by simp only [List.length_append, List.length_singleton]; omega)
      rw [addQueryParameters?, hcall]
      simp only [Option.bind_eq_bind, Option.bind_some, hrest]
      rfl

/-- Calls with one key need as many numbers as there are names in use and calls. -/
theorem length_add_le_of_replicate {calls : Nat} (hnodup : taken.Nodup)
    (htaken : ∀ name ∈ taken,
      name ∈ template.placeholders ∧ ∃ n < UInt32.size, name = candidate key n)
    (h : template.addQueryParameters? (List.replicate calls key) = some (final, names)) :
    taken.length + calls ≤ UInt32.size := by
  obtain ⟨-, rfl⟩ := eq_of_addQueryParameters?_eq_some h
  have hall : (taken ++ template.freshNames (List.replicate calls key)).Nodup := by
    refine List.nodup_append.2 ⟨hnodup, nodup_freshNames, ?_⟩
    rintro name hused other hfresh rfl
    exact not_mem_of_mem_freshNames hfresh (htaken name hused).1
  -- All of these are candidates for the one key, and the counter has so many numbers only.
  have hnumbered : taken ++ template.freshNames (List.replicate calls key) ⊆
      (List.range UInt32.size).map (candidate key) := by
    intro name hname
    rw [List.mem_map]
    rcases List.mem_append.1 hname with hused | hfresh
    · obtain ⟨-, n, hn, rfl⟩ := htaken name hused
      exact ⟨n, List.mem_range.2 hn, rfl⟩
    · obtain ⟨other, hother, n, hn, rfl⟩ :=
        exists_candidate_of_addQueryParameters? h name hfresh
      obtain rfl := List.eq_of_mem_replicate hother
      exact ⟨n, List.mem_range.2 hn, rfl⟩
  have hle := (hall.subperm hnumbered).length_le
  rwa [List.length_append, length_freshNames, List.length_replicate, List.length_map,
    List.length_range] at hle

/-! ## Parsed templates -/

section

variable {text : String} {parsed : UriTemplate}

/-- Calls that add parameters to a parsed template have a result as long as they and the
placeholders of the path are no more than a counter of 32 bits has values. Their placeholders differ
from each other and from those of the path. The placeholder for one more key is the key itself,
unless that is in use; then it is the key with the least positive number for which the name is free.
That number is at most the number of the names in use; if it is beyond the counter, the call has no
result. -/
theorem addQueryParameters?_decided (hparse : parse text = .ok parsed) (keys : List String) :
    (parsed.pathVariables.length + keys.length ≤ UInt32.size →
      (parsed.addQueryParameters? keys).isSome) ∧
    ∀ template names, parsed.addQueryParameters? keys = some (template, names) →
      names = template.query.map QueryParameter.placeholder ∧ names.length = keys.length ∧
      (parsed.pathVariables ++ names).Nodup ∧
      ∀ key,
        let taken := parsed.pathVariables ++ names
        let placeholder := (template.addQueryParameter? key).map Prod.snd
        (key ∉ taken → placeholder = some key) ∧
        (key ∈ taken → ∃ n, IsLeast {n | 0 < n ∧ key ++ decimal n ∉ taken} n ∧
          n ≤ taken.length ∧
          placeholder = if n < UInt32.size then some (key ++ decimal n) else none) := by
  have hpath : parsed.placeholders ⊆ parsed.pathVariables := by
    intro name hname
    have hmem : name ∈ parsed.pathVariables ++ parsed.freshNames [] :=
      (mem_placeholders_withQuery hparse).1 hname
    rwa [freshNames, List.append_nil] at hmem
  refine ⟨fun hcount => by rw [addQueryParameters?_eq hpath hcount, Option.isSome_some], ?_⟩
  intro template names hrun
  obtain ⟨rfl, rfl⟩ := eq_of_addQueryParameters?_eq_some hrun
  refine ⟨(map_placeholder_withQuery hparse).symm, length_freshNames parsed keys,
    nodup_withQuery parsed keys, ?_⟩
  intro key taken placeholder
  have hused (name : String) : name ∈ (parsed.withQuery keys).placeholders ↔ name ∈ taken :=
    mem_placeholders_withQuery hparse
  obtain ⟨n, hfirst, hname, hcall⟩ := exists_addQueryParameter?_eq (parsed.withQuery keys) key
  have hplaceholder : placeholder = if n < UInt32.size then some (candidate key n) else none := by
    rw [← hname]
    show Option.map Prod.snd _ = _
    rw [hcall]
    split <;> rfl
  rw [hplaceholder]
  constructor
  · intro hkey
    rw [← hused] at hkey
    rw [hfirst.eq_zero hkey]
    rfl
  · intro hkey
    rw [← hused] at hkey
    have hleast := hfirst.isLeast hkey
    rw [candidate_of_pos hleast.1.1]
    simp only [hused] at hleast
    exact ⟨n, hleast, hfirst.le_length fun name hmem => (hused name).1 hmem, rfl⟩

/-- Two keys that the path has placeholders for, with one of the numbered names in use. -/
theorem addQueryParameters?_decided_id :
    ∃ parsed template, parse "/a/{id}/{id2}" = .ok parsed ∧
      parsed.addQueryParameters? ["id"] = some (template, ["id1"]) ∧
      (template.addQueryParameter? "id").map Prod.snd = some "id3" ∧
      IsLeast {n | 0 < n ∧ "id" ++ decimal n ∉ ["id", "id2", "id1"]} 3 := by
  have hparse : parse "/a/{id}/{id2}" =
      .ok ⟨[[.literal "a"], [.placeholder "id"], [.placeholder "id2"]], false, []⟩ := by rfl
  have hrun : addQueryParameters?
      ⟨[[.literal "a"], [.placeholder "id"], [.placeholder "id2"]], false, []⟩ ["id"] =
      some (⟨[[.literal "a"], [.placeholder "id"], [.placeholder "id2"]], false, [⟨"id", "id1"⟩]⟩,
        ["id1"]) := by rfl
  have hthree : (addQueryParameter?
      ⟨[[.literal "a"], [.placeholder "id"], [.placeholder "id2"]], false, [⟨"id", "id1"⟩]⟩
      "id").map Prod.snd = some ("id" ++ decimal 3) := by rfl
  obtain ⟨-, hcalls⟩ := addQueryParameters?_decided hparse ["id"]
  obtain ⟨-, -, -, hnext⟩ := hcalls _ _ hrun
  obtain ⟨n, hleast, hle, hname⟩ := (hnext "id").2 (by decide)
  rw [hthree, if_pos (hle.trans_lt (by decide))] at hname
  obtain rfl : 3 = n :=
    decimal_injective ((String.append_right_inj "id").1 (Option.some.inj hname))
  exact ⟨_, _, hparse, hrun, hthree, hleast⟩

/-- A path that has two of the names which calls with one key try leaves the counter a number less
than they need. -/
theorem addQueryParameters?_overflows :
    ∃ parsed, parse "/{k}/{k1}" = .ok parsed ∧
      (List.replicate (UInt32.size - 1) "k").length < UInt32.size ∧
      parsed.addQueryParameters? (List.replicate (UInt32.size - 1) "k") = none := by
  have hparse : parse "/{k}/{k1}" =
      .ok ⟨[[.placeholder "k"], [.placeholder "k1"]], false, []⟩ := by rfl
  refine ⟨_, hparse, ?_, ?_⟩
  · rw [List.length_replicate]
    decide
  · refine Option.eq_none_iff_forall_ne_some.2 ?_
    rintro ⟨final, names⟩ hrun
    have hle : ["k", "k1"].length + (UInt32.size - 1) ≤ UInt32.size := by
      refine length_add_le_of_replicate (by decide) ?_ hrun
      intro name hname
      rcases List.mem_pair.1 hname with rfl | rfl
      · exact ⟨by decide, 0, by decide, rfl⟩
      · exact ⟨by decide, 1, by decide, rfl⟩
    exact absurd hle (by decide)

end

end HttpRpc.UriTemplate

namespace HttpRpc.BoundMethod

/-- Binding gives the keys of the query the placeholders that a counter of 32 bits gives them, as
long as they and the names in use are no more than its values. -/
theorem addQueryParameters?_eq_addQueryKeys {template : UriTemplate} {taken : List String}
    (htaken : template.placeholders ⊆ taken) (keys : List (Nat × String × String))
    (hcount : taken.length + keys.length ≤ UInt32.size) :
    template.addQueryParameters? (keys.map (·.2.2)) =
      some ((addQueryKeys template keys).1,
        (addQueryKeys template keys).2.map QueryParam.placeholder) := by
  have hnames : (addQueryKeys template keys).2.map QueryParam.placeholder =
      template.freshNames (keys.map (·.2.2)) := by
    rw [addQueryKeys_eq, List.map_map]
    exact List.map_snd_zip (by simp)
  rw [hnames, addQueryKeys_eq]
  exact UriTemplate.addQueryParameters?_eq htaken (by rwa [List.length_map])

end HttpRpc.BoundMethod
