import HttpRpc.Interface.Arguments
import HttpRpc.Proofs.Checks
import HttpRpc.Proofs.Source.Literal
import HttpRpc.Proofs.Source.Reader

/-!
# Arguments as they are written

A text is read from the literal of it (`onlyText_eq_ok_iff`). Texts that are assigned to the keys of
a route, with commas between them, are read as these assignments in their order
(`assignments_spelled`).
-/

namespace HttpRpc.Interface

open HttpRpc.Source

/-- Tokens are taken for what a reader reads from them if it takes them all. -/
theorem reading_eq_ok_iff {α : Type} {content : Grammar → Reader α} {tokens : List Token} {a : α} :
    reading content tokens = .ok a ↔ content (Grammar.forTokens tokens) tokens = .ok (a, []) := by
  unfold reading Reader.whole
  split <;> rename_i h <;> rw [h] <;> simp [Except.mapError]

/-! ## Texts -/

/-- A value stands for a text if it is a literal of that text. -/
theorem textOf_eq_ok_iff {value : List Token} {text : String} :
    textOf value = .ok text ↔ ∃ token, value = [token] ∧ token.text? = some text := by
  unfold textOf
  split
  · next literal =>
      have htoken : (∃ token, [Token.literal literal] = [token] ∧ token.text? = some text) ↔
          Literal.text? literal = some text := by
        simp [Token.text?]
      rw [htoken]
      cases Literal.text? literal <;> simp
  · next hother =>
      refine iff_of_false (fun h => by cases h) ?_
      rintro ⟨token, rfl, htext⟩
      cases token with
      | literal literal => exact hother literal rfl
      | _ => cases htext

/-- Reading a literal takes one token that stands for a text. -/
theorem textLiteral_eq_ok_iff {tokens rest : List Token} {text : String} :
    textLiteral tokens = .ok (text, rest) ↔
      ∃ token, tokens = token :: rest ∧ token.text? = some text := by
  rcases tokens with _ | ⟨token, tokens⟩
  · refine iff_of_false (fun h => by cases h) ?_
    rintro ⟨_, ⟨⟩, -⟩
  · have hread : textLiteral (token :: tokens) =
        token.text?.elim (.error (.expected "string literal" false)) fun text =>
          .ok (text, tokens) := by
      cases token with
      | literal literal =>
          unfold textLiteral Token.text?
          refine (Reader.bind_apply rfl).trans ?_
          dsimp only
          cases Literal.text? literal <;> rfl
      | _ => rfl
    rw [hread]
    constructor
    · intro h
      cases htext : token.text? with
      | none =>
          rw [htext] at h
          cases h
      | some found =>
          rw [htext] at h
          cases h
          exact ⟨token, rfl, htext⟩
    · rintro ⟨_, htokens, htext⟩
      cases htokens
      rw [htext]
      rfl

/-- The only argument is a text if it is a literal of that text. -/
theorem onlyText_eq_ok_iff {tokens : List Token} {text : String} :
    onlyText tokens = .ok text ↔ ∃ token, tokens = [token] ∧ token.text? = some text := by
  rw [← textLiteral_eq_ok_iff]
  exact reading_eq_ok_iff

/-! ## Assignments -/

/-- The keys of a route. -/
def routeKeys : List String := ["method", "path", "consumes", "produces", "headers", "params"]

/-- Literals that are assigned to keys, with commas between neighbours and perhaps behind the last.
-/
inductive Spells : List (String × String) → List Token → Prop where
  | nil : Spells [] []
  | last {key literal : String} {joined : Bool} (hkey : key ∈ routeKeys) :
      Spells [(key, literal)] [.name key, .mark '=' joined, .literal literal]
  | cons {key literal : String} {joined before : Bool} {rest : List (String × String)}
      {tokens : List Token} (hkey : key ∈ routeKeys) (hrest : Spells rest tokens) :
      Spells ((key, literal) :: rest)
        (.name key :: .mark '=' joined :: .literal literal :: .mark ',' before :: tokens)

/-- The assignment of a literal to a key. -/
def entryOf (entry : String × String) : Assignment := ⟨[.name entry.1], [.literal entry.2]⟩

section

variable {key : String} {joined : Bool} {rest : List Token}

/-- A key is read as a path. -/
theorem clausePath_key (hkey : key ∈ routeKeys) :
    clausePath (.name key :: .mark '=' joined :: rest) =
      .ok ([.name key], .mark '=' joined :: rest) := by
  have hqualified : ∀ key ∈ routeKeys, Token.atWord "unsafe" [.name key] = false := by decide
  have hwords : ∀ key ∈ routeKeys, atPathWord [.name key] = true := by decide
  have hqualified : Token.atWord "unsafe" (.name key :: .mark '=' joined :: rest) = false :=
    hqualified key hkey
  have hword : atPathWord (.name key :: .mark '=' joined :: rest) = true := hwords key hkey
  have hnames {item : Reader (List Token × Bool)}
      (h : item (.name key :: .mark '=' joined :: rest) =
        .ok (([.name key], false), .mark '=' joined :: rest)) :
      (Reader.rows item >>= fun names => (pure ([] ++ names.flatten) : Reader (List Token)))
        (.name key :: .mark '=' joined :: rest) = .ok ([.name key], .mark '=' joined :: rest) :=
    Reader.bind_apply (Reader.rows_last h)
  refine (Reader.bind_apply rfl).trans ?_
  rw [hqualified]
  refine (Reader.bind_apply rfl).trans ((Reader.bind_apply rfl).trans ?_)
  rw [hword]
  refine hnames ((Reader.bind_apply rfl).trans ?_)
  rw [hword]
  rfl

/-- An assignment of a literal to a key is read as it is written, at the end or in front of a comma.
-/
theorem read_entry (depth : Nat) (hkey : key ∈ routeKeys) (joined : Bool) (literal : String)
    (hrest : rest = [] ∨ ∃ before more, rest = .mark ',' before :: more) :
    Assignment.read (.upTo (depth + 1))
        (.name key :: .mark '=' joined :: .literal literal :: rest) =
      .ok (entryOf (key, literal), rest) := by
  have hvalue : assignedValue (.upTo (depth + 1)) (.literal literal :: rest) =
      .ok ([.literal literal], rest) := by
    rcases hrest with rfl | ⟨before, more, rfl⟩ <;> rfl
  refine (Reader.bind_apply (clausePath_key hkey)).trans ((Reader.bind_apply rfl).trans ?_)
  exact Reader.bind_apply hvalue

end

/-- Texts assigned to keys are read as these assignments in their order. -/
theorem assignments_spelled {entries : List (String × String)} {tokens : List Token}
    (h : Spells entries tokens) : assignments tokens = .ok (entries.map entryOf) := by
  have hread (depth : Nat) : ∃ items : List (Assignment × List Token),
      items.map Prod.fst = entries.map entryOf ∧
        Reader.terminated List.isEmpty "," (Assignment.read (.upTo (depth + 1))) tokens =
          .ok (items, []) := by
    induction h with
    | nil => exact ⟨[], rfl, Reader.terminated_stop rfl⟩
    | last hkey =>
        exact ⟨[(_, [])], rfl,
          Reader.terminated_last rfl (read_entry depth hkey _ _ (.inl rfl)) rfl (by simp)⟩
    | @cons key literal joined before rest tokens hkey _ ih =>
        obtain ⟨items, hitems, hread⟩ := ih
        refine ⟨(entryOf (key, literal), Token.ofWord [',']) :: items,
          congrArg (entryOf (key, literal) :: ·) hitems, ?_⟩
        have hitem := read_entry depth hkey joined literal (.inr ⟨before, tokens, rfl⟩)
        have hsign : Reader.sign "," (.mark ',' before :: tokens) =
            .ok (Token.ofWord [','], tokens) := rfl
        rw [Reader.terminated_more rfl hitem rfl hsign (by simp; omega), hread]
        rfl
  obtain ⟨items, hitems, hread⟩ := hread (4 * Token.count tokens + 15)
  rw [assignments, reading_eq_ok_iff, ← hitems]
  exact Reader.bind_apply hread

end HttpRpc.Interface
