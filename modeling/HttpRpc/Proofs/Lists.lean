import Mathlib.Data.List.Basic
import Mathlib.Data.List.Induction

/-!
# Lists in order

The items of a list without its repetitions stand in the order of their first occurrences
(`pairwise_eraseDups`). The first fit item of a list in reverse is the last one of the list
(`find?_reverse_eq_some_iff`). Sorting a list leaves tied items in the order that they have in the
list (`filter_mergeSort`).
-/

namespace HttpRpc

variable {α : Type}

/-- Items without repetitions stand in the order of their first occurrences. -/
theorem pairwise_eraseDups [BEq α] [LawfulBEq α] (items : List α) :
    items.eraseDups.Pairwise fun item later => items.idxOf item < items.idxOf later := by
  induction items using List.reverseRecOn with
  | nil => exact .nil
  | append_singleton front last ih =>
      have hfront : ∀ item ∈ front.eraseDups, (front ++ [last]).idxOf item = front.idxOf item :=
        fun item hitem => List.idxOf_append_of_mem (List.mem_eraseDups.1 hitem)
      have hpairs : front.eraseDups.Pairwise fun item later =>
          (front ++ [last]).idxOf item < (front ++ [last]).idxOf later := by
        refine ih.imp_of_mem fun hitem hlater hlt => ?_
        rwa [hfront _ hitem, hfront _ hlater]
      rw [List.eraseDups_append]
      by_cases hlast : last ∈ front
      · have hnone : [last].removeAll front = [] := by simp [List.removeAll, hlast]
        rw [hnone, List.eraseDups_nil, List.append_nil]
        exact hpairs
      · have hone : [last].removeAll front = [last] := by simp [List.removeAll, hlast]
        rw [hone, List.pairwise_append]
        refine ⟨hpairs, List.pairwise_singleton _ _, fun item hitem later hlater => ?_⟩
        rw [List.mem_eraseDups, List.mem_singleton] at hlater
        rw [hlater, hfront item hitem, List.idxOf_append_of_notMem hlast]
        have := List.idxOf_lt_length_of_mem (List.mem_eraseDups.1 hitem)
        omega

/-- Without its repetitions a list has none. -/
theorem nodup_eraseDups [BEq α] [LawfulBEq α] (items : List α) : items.eraseDups.Nodup := by
  refine (pairwise_eraseDups items).imp fun hlt heq => ?_
  rw [heq] at hlt
  exact Nat.lt_irrefl _ hlt

/-- An item is the first fit one of a list in reverse if it is the last fit one of the list. -/
theorem find?_reverse_eq_some_iff {fits : α → Bool} {items : List α} {item : α} :
    items.reverse.find? fits = some item ↔
      ∃ before behind, items = before ++ item :: behind ∧ fits item = true ∧
        ∀ later ∈ behind, fits later = false := by
  rw [List.find?_eq_some_iff_append]
  constructor
  · rintro ⟨hfits, behind, before, hsplit, hlater⟩
    refine ⟨before.reverse, behind.reverse, ?_, hfits, fun later hmem => ?_⟩
    · rw [← List.reverse_reverse items, hsplit]
      simp
    · simpa using hlater later (List.mem_reverse.1 hmem)
  · rintro ⟨before, behind, rfl, hfits, hlater⟩
    refine ⟨hfits, behind.reverse, before.reverse, by simp, fun later hmem => ?_⟩
    simpa using hlater later (List.mem_reverse.1 hmem)

/-- Items that are all tied with each other stand in a sorted list as they stood before. -/
theorem filter_mergeSort {le : α → α → Bool}
    (htrans : ∀ a b c, le a b = true → le b c = true → le a c = true)
    (htotal : ∀ a b, (le a b || le b a) = true) {tied : α → Bool}
    {items : List α}
    (htied : ∀ a ∈ items, ∀ b ∈ items, tied a = true → tied b = true → le a b = true) :
    (items.mergeSort le).filter tied = items.filter tied := by
  have hpairs : (items.filter tied).Pairwise fun a b => le a b = true := by
    refine List.pairwise_of_forall_mem_list fun a ha b hb => ?_
    obtain ⟨ha, htieda⟩ := List.mem_filter.1 ha
    obtain ⟨hb, htiedb⟩ := List.mem_filter.1 hb
    exact htied a ha b hb htieda htiedb
  -- The tied items are sorted, so they are part of the sorted list in their order.
  have hsublist : (items.filter tied).Sublist ((items.mergeSort le).filter tied) := by
    have hkept := (List.sublist_mergeSort htrans htotal hpairs List.filter_sublist).filter tied
    simpa only [List.filter_filter, Bool.and_self] using hkept
  exact (hsublist.eq_of_length ((items.mergeSort_perm le).filter tied).length_eq.symm).symm

end HttpRpc
