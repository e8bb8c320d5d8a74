import Mathlib.Data.List.Forall2
import Mathlib.Data.List.Induction

/-!
# Rows of checks

A row of checks is an `Except` computation that ends at the first check that fails. The lemmas here
take a passed row apart.
-/

namespace HttpRpc

/-- A row of checks is passed if its first part is passed and then the rest. -/
theorem bind_eq_ok {α β ε : Type} {first : Except ε α} {rest : α → Except ε β} {b : β} :
    (first >>= rest) = .ok b ↔ ∃ a, first = .ok a ∧ rest a = .ok b := by
  cases first with
  | error e => simp [bind, Except.bind]
  | ok a => simp [bind, Except.bind]

/-- A row of checks fails in its first part or in the rest. -/
theorem bind_eq_error {α β ε : Type} {first : Except ε α} {rest : α → Except ε β} {e : ε} :
    (first >>= rest) = .error e ↔
      first = .error e ∨ ∃ a, first = .ok a ∧ rest a = .error e := by
  cases first with
  | error other => simp [bind, Except.bind]
  | ok a => simp [bind, Except.bind]

/-- A part that is passed hands its result to the rest. -/
theorem ok_bind {α β ε : Type} (a : α) (rest : α → Except ε β) : (.ok a >>= rest) = rest a := rfl

/-- What is made of the result of a check is there if the check is passed. -/
theorem map_eq_ok {α β ε : Type} {check : Except ε α} {f : α → β} {b : β} :
    check.map f = .ok b ↔ ∃ a, check = .ok a ∧ b = f a := by
  cases check with
  | error e =>
      constructor
      · rintro ⟨⟩
      · rintro ⟨_, ⟨⟩, -⟩
  | ok a =>
      constructor
      · rintro ⟨⟩
        exact ⟨a, rfl, rfl⟩
      · rintro ⟨_, ⟨⟩, rfl⟩
        rfl

/-- What is made of the result of a check fails as the check does. -/
theorem map_eq_error {α β ε : Type} {check : Except ε α} {f : α → β} {e : ε} :
    check.map f = .error e ↔ check = .error e := by
  cases check <;> simp [Except.map]

/-- A check of every item of a list is passed by each of them. -/
theorem forall₂_of_mapM_eq_ok {α β ε : Type} {f : α → Except ε β} {items : List α}
    {results : List β} (h : items.mapM f = .ok results) :
    List.Forall₂ (fun item result => f item = .ok result) items results := by
  induction items generalizing results with
  | nil =>
      rw [List.mapM_nil] at h
      cases h
      exact .nil
  | cons item rest ih =>
      rw [List.mapM_cons, bind_eq_ok] at h
      obtain ⟨result, hitem, h⟩ := h
      obtain ⟨others, hrest, h⟩ := bind_eq_ok.1 h
      cases h
      exact .cons hitem (ih hrest)

/-- A check that every item of a list passes is a check that the list passes. -/
theorem mapM_eq_ok_of_forall₂ {α β ε : Type} {f : α → Except ε β} {items : List α}
    {results : List β} (h : List.Forall₂ (fun item result => f item = .ok result) items results) :
    items.mapM f = .ok results := by
  induction h with
  | nil => rfl
  | cons hitem _ ih =>
      rw [List.mapM_cons, hitem, ok_bind, ih]
      rfl

/-- A check of every item of a list is passed if each item passes it. -/
theorem exists_mapM_eq_ok_iff {α β ε : Type} {f : α → Except ε β} {items : List α} :
    (∃ results, items.mapM f = .ok results) ↔ ∀ item ∈ items, ∃ result, f item = .ok result := by
  induction items with
  | nil => exact ⟨fun _ item hitem => absurd hitem List.not_mem_nil, fun _ => ⟨[], rfl⟩⟩
  | cons item rest ih =>
      rw [List.forall_mem_cons, ← ih]
      simp only [List.mapM_cons, bind_eq_ok]
      constructor
      · rintro ⟨_, result, hitem, others, hrest, -⟩
        exact ⟨⟨result, hitem⟩, ⟨others, hrest⟩⟩
      · rintro ⟨⟨result, hitem⟩, ⟨others, hrest⟩⟩
        exact ⟨_, result, hitem, others, hrest, rfl⟩

/-- Checks that give a value for each fit item give these values for a list of fit items. -/
theorem mapM_eq_ok_iff {α β ε : Type} {f : α → Except ε β} {fits : α → Prop} {value : α → β}
    (h : ∀ item result, f item = .ok result ↔ fits item ∧ result = value item) {items : List α}
    {results : List β} :
    items.mapM f = .ok results ↔ (∀ item ∈ items, fits item) ∧ results = items.map value := by
  induction items generalizing results with
  | nil => simp [pure, Except.pure, eq_comm]
  | cons item rest ih =>
      simp only [List.mapM_cons, bind_eq_ok, List.forall_mem_cons, List.map_cons, h, ih]
      constructor
      · rintro ⟨_, ⟨hitem, rfl⟩, _, ⟨hrest, rfl⟩, hresults⟩
        cases hresults
        exact ⟨⟨hitem, hrest⟩, rfl⟩
      · rintro ⟨⟨hitem, hrest⟩, rfl⟩
        exact ⟨_, ⟨hitem, rfl⟩, _, ⟨hrest, rfl⟩, rfl⟩

/-- Checks that agree on the items of a list agree on the list. -/
theorem mapM_congr {α β ε : Type} {f g : α → Except ε β} {items : List α}
    (h : ∀ item ∈ items, f item = g item) : items.mapM f = items.mapM g := by
  induction items with
  | nil => rfl
  | cons item rest ih =>
      rw [List.forall_mem_cons] at h
      rw [List.mapM_cons, List.mapM_cons, h.1, ih h.2]

/-- A row of steps that are taken for fit items is a row of plain steps if all items are fit. -/
theorem foldlM_eq_ok_iff {α β ε : Type} {f : β → α → Except ε β} {fits : α → Prop}
    {step : β → α → β}
    (h : ∀ state item next, f state item = .ok next ↔ fits item ∧ next = step state item)
    {items : List α} {start last : β} :
    items.foldlM f start = .ok last ↔
      (∀ item ∈ items, fits item) ∧ last = items.foldl step start := by
  induction items generalizing start with
  | nil => simp [pure, Except.pure, eq_comm]
  | cons item rest ih =>
      simp only [List.foldlM_cons, bind_eq_ok, List.forall_mem_cons, List.foldl_cons, h, ih]
      constructor
      · rintro ⟨_, ⟨hitem, rfl⟩, hrest, rfl⟩
        exact ⟨⟨hitem, hrest⟩, rfl⟩
      · rintro ⟨⟨hitem, hrest⟩, rfl⟩
        exact ⟨_, ⟨hitem, rfl⟩, hrest, rfl⟩

/-- A list of items that break rules only behind others is sound, or has a first item that breaks
one. -/
theorem sound_or_fault {α ε : Type} {sound : List α → Prop} {fault : List α → α → ε → Prop}
    (hnil : sound [])
    (hconcat : ∀ front last, sound front → (∀ e, ¬fault front last e) → sound (front ++ [last]))
    (items : List α) :
    sound items ∨ ∃ before item behind e, items = before ++ item :: behind ∧
      sound before ∧ fault before item e := by
  induction items using List.reverseRecOn with
  | nil => exact Or.inl hnil
  | append_singleton front last ih =>
      rcases ih with hfront | ⟨before, item, behind, e, rfl, hsound, hfault⟩
      · by_cases hlast : ∃ e, fault front last e
        · obtain ⟨e, hfault⟩ := hlast
          exact Or.inr ⟨front, last, [], e, rfl, hfront, hfault⟩
        · exact Or.inl (hconcat front last hfront (not_exists.1 hlast))
      · refine Or.inr ⟨before, item, behind ++ [last], e, ?_, hsound, hfault⟩
        rw [List.append_assoc, List.cons_append]

/-- A check of a list fails at one of its items. -/
theorem exists_of_mapM_eq_error {α β ε : Type} {f : α → Except ε β} {items : List α} {e : ε}
    (h : items.mapM f = .error e) : ∃ item ∈ items, f item = .error e := by
  induction items with
  | nil => cases h
  | cons item rest ih =>
      rw [List.mapM_cons, bind_eq_error] at h
      rcases h with hitem | ⟨_, _, h⟩
      · exact ⟨item, List.mem_cons_self, hitem⟩
      · rcases bind_eq_error.1 h with hrest | ⟨_, _, h⟩
        · obtain ⟨culprit, hmem, hculprit⟩ := ih hrest
          exact ⟨culprit, List.mem_cons_of_mem _ hmem, hculprit⟩
        · cases h

/-- A row of steps fails at one of its items. -/
theorem exists_of_foldlM_eq_error {α β ε : Type} {f : β → α → Except ε β} {items : List α}
    {start : β} {e : ε} (h : items.foldlM f start = .error e) :
    ∃ item ∈ items, ∃ state, f state item = .error e := by
  induction items generalizing start with
  | nil => cases h
  | cons item rest ih =>
      rw [List.foldlM_cons, bind_eq_error] at h
      rcases h with hitem | ⟨next, _, h⟩
      · exact ⟨item, List.mem_cons_self, start, hitem⟩
      · obtain ⟨culprit, hmem, hculprit⟩ := ih h
        exact ⟨culprit, List.mem_cons_of_mem _ hmem, hculprit⟩

end HttpRpc
