import HttpRpc.Binding.Table
import HttpRpc.Proofs.Checks

/-!
# What a table binds

A table that was bound holds every row under its name, bound as it would be alone, because no two
rows have one name (`get?_of_bind`).
-/

namespace HttpRpc

/-- A bound method keeps its name. -/
theorem BoundMethod.method_of_bind {base : BaseUri} {row : RouteDecl} {bound : BoundMethod}
    (h : BoundMethod.bind base row = .ok bound) : bound.method = row.method := by
  unfold BoundMethod.bind at h
  split at h
  · cases h
  · obtain ⟨verb, -, h⟩ := bind_eq_ok.1 h
    obtain ⟨path, -, h⟩ := bind_eq_ok.1 h
    obtain ⟨parsed, -, h⟩ := bind_eq_ok.1 h
    obtain ⟨roles, -, h⟩ := bind_eq_ok.1 h
    cases hunbound : parsed.pathVariables.find? fun name =>
        !roles.pathParams.any fun param => param.placeholder == name with
    | some name =>
        simp only [hunbound] at h
        cases h
    | none =>
        simp only [hunbound] at h
        split at h
        · split at h
          · cases h
            rfl
          · cases h
        · cases h
          rfl

namespace RouteTable

variable {base : BaseUri} {above bound : List BoundMethod} {rows : List RouteDecl}
  {row : RouteDecl}

/-- A row that is bound below others without a failure has a name of its own and leaves the rest to
be bound below it. -/
theorem bindRows_cons {rest : List RouteDecl}
    (h : bindRows base above (row :: rest) = ⟨bound, none⟩) :
    ∃ method, BoundMethod.bind base row = .ok method ∧
      (∀ other ∈ above, other.method ≠ row.method) ∧
      bindRows base (above ++ [method]) rest = ⟨bound, none⟩ := by
  unfold bindRows at h
  split at h
  · cases h
  · next method hbind =>
      split at h
      · cases h
      · next hnew =>
          refine ⟨method, hbind, fun other hother heq => hnew ?_, h⟩
          exact List.any_eq_true.2 ⟨other, hother, beq_iff_eq.2 heq⟩

/-- Rows are bound behind those above. -/
theorem append_of_bindRows (h : bindRows base above rows = ⟨bound, none⟩) :
    ∃ more, bound = above ++ more := by
  induction rows generalizing above with
  | nil =>
      cases h
      exact ⟨[], (List.append_nil _).symm⟩
  | cons row rest ih =>
      obtain ⟨method, -, -, hrest⟩ := bindRows_cons h
      obtain ⟨more, hmore⟩ := ih hrest
      exact ⟨method :: more, by rw [hmore, List.append_assoc]; rfl⟩

/-- Rows have other names than those above. -/
theorem ne_of_bindRows (h : bindRows base above rows = ⟨bound, none⟩) (hrow : row ∈ rows) :
    ∀ other ∈ above, other.method ≠ row.method := by
  induction rows generalizing above with
  | nil => cases hrow
  | cons first rest ih =>
      obtain ⟨method, -, hnew, hrest⟩ := bindRows_cons h
      -- The rows above only become more, so a row further down is compared with these as well.
      rcases List.mem_cons.1 hrow with rfl | hrow
      · exact hnew
      · intro other hother
        exact ih hrest hrow other (List.mem_append_left _ hother)

/-- Each row is found under its name. -/
theorem find?_of_bindRows (h : bindRows base above rows = ⟨bound, none⟩) (hrow : row ∈ rows) :
    ∃ method, BoundMethod.bind base row = .ok method ∧
      bound.find? (fun other => other.method == row.method) = some method := by
  induction rows generalizing above with
  | nil => cases hrow
  | cons first rest ih =>
      have hnew := ne_of_bindRows h hrow
      obtain ⟨method, hbind, -, hrest⟩ := bindRows_cons h
      rcases List.mem_cons.1 hrow with rfl | hrow
      · obtain ⟨more, rfl⟩ := append_of_bindRows hrest
        refine ⟨method, hbind, ?_⟩
        have habove : above.find? (fun other => other.method == row.method) = none := by
          refine List.find?_eq_none.2 fun other hother => ?_
          rw [beq_iff_eq]
          exact hnew other hother
        have hname : (method.method == row.method) = true :=
          beq_iff_eq.2 (BoundMethod.method_of_bind hbind)
        rw [List.append_assoc, List.find?_append, habove, Option.none_or, List.singleton_append,
          List.find?_cons, hname]
      · exact ih hrest hrow

/-- A bound table has the base that its text states, and each row under its name. -/
theorem get?_of_bind {baseUri : String} {table : RouteTable} (h : bind baseUri rows = .ok table)
    (hrow : row ∈ rows) :
    BaseUri.parse baseUri = .ok table.base ∧
      ∃ method, BoundMethod.bind table.base row = .ok method ∧
        table.get? row.method = some method := by
  obtain ⟨base, hbase, h⟩ := bind_eq_ok.1 h
  cases hprogress : bindRows base [] rows with
  | mk bound failure =>
      simp only [hprogress] at h
      cases failure with
      | some e => cases h
      | none =>
          cases h
          exact ⟨hbase, find?_of_bindRows hprogress hrow⟩

end RouteTable

end HttpRpc
