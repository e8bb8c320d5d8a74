import HttpRpc.Source.Reader

/-!
# Runs of readers

What a reader reads is handed to those after it (`bind_apply`), and rows of items with a sign
between neighbours are read item by item (`terminated_last`, `terminated_more`).
-/

namespace HttpRpc.Source.Reader

variable {α β : Type} {tokens rest : List Token}

/-- What is read first is handed to what is read after it. -/
theorem bind_apply {first : Reader α} {more : α → Reader β} {a : α}
    (h : first tokens = .ok (a, rest)) : (first >>= more) tokens = more a rest := by
  show (first tokens >>= fun read => more read.1 read.2) = _
  rw [h]
  rfl

/-! ## Rows -/

/-- A row ends with an item that says so. -/
theorem rows_last {item : Reader (α × Bool)} {a : α} (h : item tokens = .ok ((a, false), rest)) :
    rows item tokens = .ok ([a], rest) := by
  rw [rows, h]

section

variable {more : List Token → Bool} {item : Reader α} {a : α}

/-- Where no item is to be read there are none. -/
theorem many_none (h : more tokens = false) : many more item tokens = .ok ([], tokens) := by
  refine (bind_apply rfl).trans ?_
  rw [if_neg (by simp [h])]
  rfl

/-- Behind an item there are the others. -/
theorem many_cons (h : more tokens = true) (hitem : item tokens = .ok (a, rest))
    (hrest : rest.length < tokens.length) :
    many more item tokens =
      (many more item rest).map fun (others, left) => (a :: others, left) := by
  let row : Reader (α × Bool) := do
    let found ← item
    return (found, more (← get))
  have hmany {tokens : List Token} (h : more tokens = true) :
      many more item tokens = rows row tokens :=
    (bind_apply rfl).trans (by rw [if_pos h])
  have hrow : row tokens = .ok ((a, more rest), rest) := bind_apply hitem
  rw [hmany h, rows, hrow]
  cases hmore : more rest with
  | false =>
      rw [many_none hmore]
      rfl
  | true =>
      rw [hmany hmore]
      exact if_pos hrest

end

/-! ## Items with a sign between neighbours -/

section

variable {stop : List Token → Bool} {separator : String} {item : Reader α} {a : α}
  {found after : List Token}

/-- Where items stop there are none. -/
theorem terminated_stop (h : stop tokens = true) :
    terminated stop separator item tokens = .ok ([], tokens) :=
  many_none (by simp [h])

/-- The last item has no sign behind it. -/
theorem terminated_last (hstop : stop tokens = false) (hitem : item tokens = .ok (a, rest))
    (hrest : stop rest = true) (hlength : rest.length < tokens.length) :
    terminated stop separator item tokens = .ok ([(a, [])], rest) := by
  have hone : (do
      let found ← item
      if stop (← get) then return (found, [])
      return (found, ← sign separator) : Reader (α × List Token)) tokens = .ok ((a, []), rest) := by
    refine (bind_apply hitem).trans ((bind_apply rfl).trans ?_)
    rw [if_pos hrest]
    rfl
  rw [terminated, many_cons (by simp [hstop]) hone hlength, many_none (by simp [hrest])]
  rfl

/-- Behind an item and its sign there are the others. -/
theorem terminated_more (hstop : stop tokens = false) (hitem : item tokens = .ok (a, rest))
    (hrest : stop rest = false) (hsign : sign separator rest = .ok (found, after))
    (hafter : after.length < tokens.length) :
    terminated stop separator item tokens =
      (terminated stop separator item after).map
        fun (more, left) => ((a, found) :: more, left) := by
  have hone : (do
      let found ← item
      if stop (← get) then return (found, [])
      return (found, ← sign separator) : Reader (α × List Token)) tokens =
        .ok ((a, found), after) := by
    refine (bind_apply hitem).trans ((bind_apply rfl).trans ?_)
    rw [if_neg (by simp [hrest])]
    exact bind_apply hsign
  rw [terminated, many_cons (by simp [hstop]) hone hafter]

end

end HttpRpc.Source.Reader
