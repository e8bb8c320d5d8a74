import HttpRpc.Binding.Method
import HttpRpc.Proofs.Binding.Grammar
import HttpRpc.Proofs.Text.Digits
import Mathlib.Data.List.Nodup
import Mathlib.Data.List.Perm.Subperm

/-!
# Placeholders of queries

The placeholder for a key is the first candidate that the template does not use
(`exists_isFirstFree`): there are more candidates than names in use, so the search finds one. The
placeholders of a row of keys therefore differ from each other and from those of the path
(`nodup_freshNames`, `not_mem_of_mem_freshNames`).
-/

namespace HttpRpc.UriTemplate

open HttpRpc.Text

/-! ## Names in use -/

/-- The placeholders of a template: those of the path, then those of the query. -/
def placeholders (template : UriTemplate) : List String :=
  template.segments.flatten.filterMap Piece.name? ++ template.query.map QueryParameter.placeholder

/-- A name is in use if it is among the placeholders. -/
theorem hasPlaceholder_iff {template : UriTemplate} {name : String} :
    template.hasPlaceholder name = true ↔ name ∈ template.placeholders := by
  rw [hasPlaceholder, Bool.or_eq_true, hasPathVariable, List.contains_iff_mem, placeholders,
    List.mem_append, mem_filterMap_name?, List.any_eq_true, List.mem_map]
  simp only [beq_iff_eq]

/-! ## Candidates -/

/-- No two candidates for a key are the same. -/
theorem candidate_injective (key : String) : Function.Injective (candidate key) := by
  have hsome (n : Nat) : key ≠ key ++ decimal n := by
    intro h
    have hempty : decimal n = "" := by
      rw [← String.append_right_inj key, String.append_empty]
      exact h.symm
    exact Nat.toDigits_ne_nil (String.ofList_eq_empty_iff.1 hempty)
  intro first second h
  unfold candidate at h
  split at h <;> split at h
  · next hfirst hsecond => rw [hfirst, hsecond]
  · exact absurd h (hsome _)
  · exact absurd h.symm (hsome _)
  · exact decimal_injective ((String.append_right_inj key).1 h)

/-- Names among which are the first candidates for a key are as many at least. -/
theorem le_length_of_candidates {key : String} {names : List String} {n : Nat}
    (h : ∀ m < n, candidate key m ∈ names) : n ≤ names.length := by
  have hsubset : (List.range n).map (candidate key) ⊆ names := by
    intro name hname
    obtain ⟨m, hm, rfl⟩ := List.mem_map.1 hname
    exact h m (List.mem_range.1 hm)
  have hnodup : ((List.range n).map (candidate key)).Nodup :=
    List.nodup_range.map (candidate_injective key)
  simpa using (hnodup.subperm hsubset).length_le

/-- The candidate of a number is the first one for a key that is not in use. -/
structure IsFirstFree (template : UriTemplate) (key : String) (n : Nat) : Prop where
  free : candidate key n ∉ template.placeholders
  used : ∀ m < n, candidate key m ∈ template.placeholders

section

variable (template : UriTemplate) (key : String)

/-- The search passes over candidates in use, and ends at a free one or with its fuel. -/
theorem freshFrom_eq (fuel attempt : Nat) :
    ∃ n, freshFrom template key fuel attempt = candidate key n ∧
      (∀ m, attempt ≤ m → m < n → template.hasPlaceholder (candidate key m) = true) ∧
      (template.hasPlaceholder (candidate key n) = false ∨ n = attempt + fuel) := by
  induction fuel generalizing attempt with
  | zero => exact ⟨attempt, rfl, fun m hle hlt => absurd hlt (by omega), Or.inr rfl⟩
  | succ fuel ih =>
      unfold freshFrom
      cases hused : template.hasPlaceholder (candidate key attempt) with
      | true =>
          obtain ⟨n, heq, hpassed, hend⟩ := ih (attempt + 1)
          refine ⟨n, heq, fun m hle hlt => ?_, hend.imp_right (by omega)⟩
          by_cases hm : m = attempt
          · rwa [hm]
          · exact hpassed m (by omega) hlt
      | false =>
          exact ⟨attempt, rfl, fun m hle hlt => absurd hlt (by omega), Or.inl hused⟩

/-- A key has a first candidate that is not in use, and that is its placeholder. -/
theorem exists_isFirstFree :
    ∃ n, template.IsFirstFree key n ∧ template.freshPlaceholder key = candidate key n := by
  obtain ⟨n, heq, hpassed, hend⟩ :=
    freshFrom_eq template key (template.segments.flatten.length + template.query.length) 0
  have hused : ∀ m < n, candidate key m ∈ template.placeholders :=
    fun m hm => hasPlaceholder_iff.1 (hpassed m (Nat.zero_le m) hm)
  refine ⟨n, ⟨fun hmem => ?_, hused⟩, heq⟩
  rcases hend with hfree | hfuel
  · rw [← hasPlaceholder_iff, hfree] at hmem
    cases hmem
  · -- With the last candidate in use as well there would be more names than placeholders.
    have hall : ∀ m < n + 1, candidate key m ∈ template.placeholders := by
      intro m hm
      rcases Nat.lt_or_eq_of_le (Nat.lt_succ_iff.1 hm) with hlt | rfl
      · exact hused m hlt
      · exact hmem
    have hle := le_length_of_candidates hall
    have hnames := List.length_filterMap_le Piece.name? template.segments.flatten
    simp only [List.length_map, placeholders, List.length_append] at hle
    omega

/-- The placeholder for a key is not in use. -/
theorem freshPlaceholder_not_mem :
    template.freshPlaceholder key ∉ template.placeholders := by
  obtain ⟨n, hfirst, heq⟩ := exists_isFirstFree template key
  rw [heq]
  exact hfirst.free

end

/-! ## Rows of keys -/

/-- The template with a query parameter for each key. -/
def withQuery (template : UriTemplate) : List String → UriTemplate
  | [] => template
  | key :: rest => (template.addQueryParameter key).1.withQuery rest

/-- The placeholders under which the query parameters for the keys stand. -/
def freshNames (template : UriTemplate) : List String → List String
  | [] => []
  | key :: rest =>
    template.freshPlaceholder key :: (template.addQueryParameter key).1.freshNames rest

section

variable (template : UriTemplate) (keys : List String)

/-- Query parameters leave the segments alone. -/
@[simp]
theorem withQuery_segments : (template.withQuery keys).segments = template.segments := by
  induction keys generalizing template with
  | nil => rfl
  | cons key rest ih => exact ih _

/-- Query parameters leave the final slash alone. -/
@[simp]
theorem withQuery_trailingSlash :
    (template.withQuery keys).trailingSlash = template.trailingSlash := by
  induction keys generalizing template with
  | nil => rfl
  | cons key rest ih => exact ih _

/-- Query parameters leave the placeholders of the path alone. -/
@[simp]
theorem withQuery_pathVariables :
    (template.withQuery keys).pathVariables = template.pathVariables := by
  rw [pathVariables, withQuery_segments, pathVariables]

/-- There is one placeholder for each key. -/
@[simp]
theorem length_freshNames : (template.freshNames keys).length = keys.length := by
  induction keys generalizing template with
  | nil => rfl
  | cons key rest ih => rw [freshNames, List.length_cons, List.length_cons, ih]

/-- The query holds the keys in order, each with its placeholder. -/
theorem withQuery_query : (template.withQuery keys).query =
    template.query ++
      (keys.zip (template.freshNames keys)).map fun entry => ⟨entry.1, entry.2⟩ := by
  induction keys generalizing template with
  | nil => exact (List.append_nil _).symm
  | cons key rest ih =>
      rw [withQuery, ih, freshNames, List.zip_cons_cons, List.map_cons]
      exact List.append_assoc template.query [⟨key, _⟩] _

/-- A query parameter adds its placeholder to those of the template. -/
theorem placeholders_addQueryParameter (key : String) :
    (template.addQueryParameter key).1.placeholders =
      template.placeholders ++ [template.freshPlaceholder key] := by
  simp [placeholders, addQueryParameter]

variable {template keys}

/-- The placeholders for keys are none of the template. -/
theorem not_mem_of_mem_freshNames {name : String} (h : name ∈ template.freshNames keys) :
    name ∉ template.placeholders := by
  induction keys generalizing template with
  | nil => cases h
  | cons key rest ih =>
      rw [freshNames, List.mem_cons] at h
      rcases h with rfl | h
      · exact freshPlaceholder_not_mem template key
      · intro hmem
        refine ih h ?_
        rw [placeholders_addQueryParameter]
        exact List.mem_append_left _ hmem

/-- The placeholders for keys differ from each other. -/
theorem nodup_freshNames : (template.freshNames keys).Nodup := by
  induction keys generalizing template with
  | nil => exact List.nodup_nil
  | cons key rest ih =>
      rw [freshNames, List.nodup_cons]
      refine ⟨fun hmem => not_mem_of_mem_freshNames hmem ?_, ih⟩
      rw [placeholders_addQueryParameter]
      exact List.mem_append_right _ (List.mem_singleton_self _)

end

/-! ## Parsed templates -/

section

variable {text : String} {parsed : UriTemplate} {keys : List String}

/-- The query of a parsed template with keys has the placeholders for these, and no others. -/
theorem map_placeholder_withQuery (hparse : parse text = .ok parsed) :
    (parsed.withQuery keys).query.map QueryParameter.placeholder = parsed.freshNames keys := by
  rw [withQuery_query, (parse_eq_ok_iff.1 hparse).query, List.nil_append, List.map_map]
  exact List.map_snd_zip (by simp)

/-- The placeholders of the path and those for keys are all the names in use. -/
theorem mem_placeholders_withQuery (hparse : parse text = .ok parsed) {name : String} :
    name ∈ (parsed.withQuery keys).placeholders ↔
      name ∈ parsed.pathVariables ++ parsed.freshNames keys := by
  have hpath : name ∈ parsed.segments.flatten.filterMap Piece.name? ↔
      name ∈ parsed.pathVariables := List.mem_eraseDups.symm
  rw [placeholders, withQuery_segments, map_placeholder_withQuery hparse, List.mem_append,
    List.mem_append, hpath]

/-- The placeholders of the path and those for keys all differ. -/
theorem nodup_withQuery (parsed : UriTemplate) (keys : List String) :
    (parsed.pathVariables ++ parsed.freshNames keys).Nodup := by
  refine List.nodup_append.2 ⟨nodup_pathVariables parsed, nodup_freshNames, ?_⟩
  rintro name hpath other hfresh rfl
  refine not_mem_of_mem_freshNames hfresh (List.mem_append_left _ ?_)
  exact List.mem_eraseDups.1 hpath

end

end HttpRpc.UriTemplate

namespace HttpRpc.BoundMethod

/-- Binding adds the keys of the query one by one. -/
theorem addQueryKeys_eq (template : UriTemplate) (keys : List (Nat × String × String)) :
    addQueryKeys template keys =
      (template.withQuery (keys.map (·.2.2)),
        (keys.zip (template.freshNames (keys.map (·.2.2)))).map fun entry =>
          ⟨entry.1.1, entry.1.2.1, entry.2⟩) := by
  induction keys generalizing template with
  | nil => rfl
  | cons key rest ih =>
      obtain ⟨position, name, key⟩ := key
      simp only [addQueryKeys, ih]
      rfl

end HttpRpc.BoundMethod
