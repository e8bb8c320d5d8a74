import HttpRpc.Interface.Error
import HttpRpc.Proofs.Checks
import HttpRpc.Source.Trait

/-!
# Items of a trait

The methods among the items of a trait are read in their order, and each item is left in its place
(`readItems_eq_ok`). What is read of a method depends on the kind of the interface.
-/

namespace HttpRpc

open Source

namespace Source.Item

/-- The method that an item is, if it is one. -/
def method? : Item → Option Method
  | method m => some m
  | other _ => none

/-- The item with a change of its method, if it is one. -/
def mapMethod (change : Method → Method) : Item → Item
  | method m => method (change m)
  | other tokens => other tokens

/-- The methods among changed items are the changed methods. -/
theorem filterMap_method?_map (change : Method → Method) (items : List Item) :
    (items.map (mapMethod change)).filterMap method? = (items.filterMap method?).map change := by
  rw [List.filterMap_map, List.map_filterMap]
  refine congrArg (List.filterMap · items) (funext fun item => ?_)
  cases item <;> rfl

end Source.Item

namespace Interface

/-- If each method is read as something that fits it and is left with a change, items are read as
what fits the methods among them, in their order, and are left with these changes. -/
theorem readItems_eq_ok {α : Type} {read : Method → Except InterfaceError (α × Method)}
    {readItems : List Item → Except InterfaceError (List α × List Item)}
    {fits : Method → α → Prop} {change : Method → Method}
    (hread : ∀ declared left found, read declared = .ok (found, left) →
      fits declared found ∧ left = change declared)
    (hnil : readItems [] = .ok ([], []))
    (hother : ∀ tokens rest, readItems (.other tokens :: rest) = do
      let (found, items) ← readItems rest
      return (found, .other tokens :: items))
    (hmethod : ∀ declared rest, readItems (.method declared :: rest) = do
      let (first, stripped) ← read declared
      let (found, items) ← readItems rest
      return (first :: found, .method stripped :: items))
    {items left : List Item} {found : List α} (h : readItems items = .ok (found, left)) :
    List.Forall₂ fits (items.filterMap Item.method?) found ∧
      left = items.map (Item.mapMethod change) := by
  induction items generalizing found left with
  | nil =>
      rw [hnil] at h
      cases h
      exact ⟨.nil, rfl⟩
  | cons item rest ih =>
      cases item with
      | other tokens =>
          rw [hother, bind_eq_ok] at h
          obtain ⟨⟨others, items⟩, hrest, h⟩ := h
          cases h
          obtain ⟨hothers, rfl⟩ := ih hrest
          exact ⟨hothers, rfl⟩
      | method declared =>
          rw [hmethod, bind_eq_ok] at h
          obtain ⟨⟨first, stripped⟩, hfirst, h⟩ := h
          obtain ⟨⟨others, items⟩, hrest, h⟩ := bind_eq_ok.1 h
          cases h
          obtain ⟨hothers, rfl⟩ := ih hrest
          obtain ⟨hfits, rfl⟩ := hread _ _ _ hfirst
          exact ⟨.cons hfits hothers, rfl⟩

end Interface

end HttpRpc
