import HttpRpc.Binding.Method
import HttpRpc.Proofs.Checks

/-!
# Values for placeholders

Strings, booleans and numbers have a text in a URL, and arrays of them have texts in a query. The
values of the placeholders are these texts: the arguments for the path are stored under the
placeholders in their order, then those for the query (`values_eq_ok_iff`). A placeholder keeps what
was stored last (`foldl_setValue`), and placeholders that differ from each other keep what is theirs
(`map_foldl_setValue`).
-/

namespace HttpRpc

/-! ## Texts of arguments -/

namespace Json

/-- The text of a string, a boolean or a number in a URL. -/
def uriText? : Json → Option String
  | .string text => some text
  | .bool value => some (if value then "true" else "false")
  | .number value => some value.render
  | .null | .array _ | .object _ => none

/-- The texts of a value in a query: those of its items for an array, else its own. -/
def uriTexts : Json → List String
  | .array items => items.filterMap uriText?
  | value => value.uriText?.toList

/-- The value is a string, a boolean or a number. -/
def IsScalar (value : Json) : Prop :=
  value.uriText? ≠ none

/-- The value is null or a scalar, or an array of such values. -/
def IsQueryValue (value : Json) : Prop :=
  value = .null ∨ value.IsScalar ∨
    ∃ items, value = .array items ∧ ∀ item ∈ items, item = .null ∨ item.IsScalar

/-- A value with a text has no other texts. -/
theorem uriTexts_eq_of_uriText? {value : Json} {text : String} (h : value.uriText? = some text) :
    value.uriTexts = [text] := by
  cases value <;> cases h <;> rfl

end Json

section

variable {name : String} {value : Json}

/-- Null and scalars have the text of the value, if any, as items of an array. -/
theorem itemText_eq_ok_iff {text? : Option String} :
    itemText name value = .ok text? ↔
      (value = .null ∨ value.IsScalar) ∧ text? = value.uriText? := by
  cases value <;> simp [itemText, scalarText, Json.IsScalar, Json.uriText?, eq_comm]

/-- Values of a query have the texts of the value. -/
theorem queryTexts_eq_ok_iff {texts : List String} :
    queryTexts name value = .ok texts ↔ value.IsQueryValue ∧ texts = value.uriTexts := by
  cases value with
  | array items =>
      have hitems (found : List (Option String)) : items.mapM (itemText name) = .ok found ↔
          (∀ item ∈ items, item = .null ∨ item.IsScalar) ∧ found = items.map Json.uriText? :=
        mapM_eq_ok_iff fun _ _ => itemText_eq_ok_iff
      have hfits : (Json.array items).IsQueryValue ↔
          ∀ item ∈ items, item = .null ∨ item.IsScalar := by
        simp [Json.IsQueryValue, Json.IsScalar, Json.uriText?]
      have htexts : (items.map Json.uriText?).filterMap id = items.filterMap Json.uriText? := by
        rw [List.filterMap_map, Function.id_comp]
      simp only [queryTexts, bind_eq_ok, hitems, hfits, Json.uriTexts, ← htexts]
      constructor
      · rintro ⟨_, ⟨hall, rfl⟩, h⟩
        cases h
        exact ⟨hall, rfl⟩
      · rintro ⟨hall, rfl⟩
        exact ⟨_, ⟨hall, rfl⟩, rfl⟩
  | _ =>
      simp [queryTexts, scalarText, Json.IsQueryValue, Json.IsScalar, Json.uriTexts, Json.uriText?,
        bind, Except.bind, pure, Except.pure, eq_comm]

/-- A value that has no text is refused for its kind. -/
theorem scalarText_eq_error {e : ArgumentError} (h : scalarText name value = .error e) :
    ∃ reason, e = .invalidArgument name reason := by
  cases value <;> cases h <;> exact ⟨_, rfl⟩

/-- A value that has no texts is refused for its kind. -/
theorem queryTexts_eq_error {e : ArgumentError} (h : queryTexts name value = .error e) :
    ∃ reason, e = .invalidArgument name reason := by
  cases value with
  | array items =>
      rcases bind_eq_error.1 h with h | ⟨_, _, h⟩
      · obtain ⟨item, -, h⟩ := exists_of_mapM_eq_error h
        cases item <;> cases h <;> exact ⟨_, rfl⟩
      · cases h
  | _ =>
      rcases bind_eq_error.1 h with h | ⟨_, _, h⟩
      · exact scalarText_eq_error h
      · cases h

end

namespace UriExtractor

variable (args : List Json) (values : PlaceholderValues)

/-- A scalar argument is the value of a placeholder of the path. -/
theorem addPathValue_eq_ok_iff (param : PathParam) (next : PlaceholderValues) :
    addPathValue args values param = .ok next ↔
      (∃ value, args[param.position]? = some value ∧ value.IsScalar) ∧
        next = setValue values param.placeholder
          [((args[param.position]?).bind Json.uriText?).getD ""] := by
  unfold addPathValue argument?
  cases args[param.position]? with
  | none => simp
  | some value =>
      cases value <;>
        simp [Option.filter_some, Json.isNull, scalarText, Json.IsScalar, Json.uriText?, bind,
          Except.bind, pure, Except.pure, eq_comm]

/-- An argument for the query gives the values of a placeholder. -/
theorem addQueryValue_eq_ok_iff (param : QueryParam) (next : PlaceholderValues) :
    addQueryValue args values param = .ok next ↔
      (∀ value, args[param.position]? = some value → value.IsQueryValue) ∧
        next = setValue values param.placeholder
          (((args[param.position]?).map Json.uriTexts).getD []) := by
  unfold addQueryValue argument?
  cases args[param.position]? with
  | none => simp [ok_bind, pure, Except.pure, eq_comm]
  | some value =>
      cases hnull : value.isNull with
      | true =>
          have hvalue : value = .null := by
            cases value with
            | null => rfl
            | _ => cases hnull
          subst hvalue
          simp [Option.filter_some, Json.isNull, Json.IsQueryValue, Json.uriTexts, Json.uriText?,
            ok_bind, pure, Except.pure, eq_comm]
      | false =>
          simp only [Option.filter_some, hnull, Bool.not_false, if_true, bind_eq_ok,
            queryTexts_eq_ok_iff]
          constructor
          · rintro ⟨_, ⟨hfits, rfl⟩, h⟩
            cases h
            exact ⟨fun other hother => by cases hother; exact hfits, rfl⟩
          · rintro ⟨hfits, rfl⟩
            exact ⟨_, ⟨hfits value rfl, rfl⟩, rfl⟩

variable {args values}

/-- An argument for the query that has no texts is refused for its kind. -/
theorem addQueryValue_eq_error {param : QueryParam} {e : ArgumentError}
    (h : addQueryValue args values param = .error e) :
    ∃ reason, e = .invalidArgument param.name reason := by
  unfold addQueryValue at h
  cases hvalue : argument? args param.position with
  | none =>
      rw [hvalue] at h
      cases h
  | some value =>
      rw [hvalue] at h
      rcases bind_eq_error.1 h with h | ⟨_, _, h⟩
      · exact queryTexts_eq_error h
      · cases h

/-- An argument for the path is refused for its kind, or it is missing: then it is null if it is
there. -/
theorem addPathValue_eq_error {param : PathParam} {e : ArgumentError}
    (h : addPathValue args values param = .error e) :
    (e = .missingPathVariable param.placeholder ∧
        ∀ value, args[param.position]? = some value → value = .null) ∨
      ∃ reason, e = .invalidArgument param.name reason := by
  unfold addPathValue argument? at h
  cases hvalue : args[param.position]? with
  | none =>
      rw [hvalue] at h
      cases h
      exact .inl ⟨rfl, fun value hsome => by cases hsome⟩
  | some value =>
      rw [hvalue] at h
      cases value with
      | null =>
          cases h
          exact .inl ⟨rfl, fun value hsome => (Option.some.inj hsome).symm⟩
      | _ =>
          cases h <;> exact .inr ⟨_, rfl⟩

/-- Arguments give values to the placeholders if those for the path are scalars and those for the
query have texts. -/
theorem values_eq_ok_iff {extractor : UriExtractor} :
    extractor.values args = .ok values ↔
      (∀ param ∈ extractor.pathParams, ∃ value, args[param.position]? = some value ∧
        value.IsScalar) ∧
      (∀ param ∈ extractor.queryParams, ∀ value, args[param.position]? = some value →
        value.IsQueryValue) ∧
      values = extractor.queryParams.foldl (fun values param => setValue values param.placeholder
          (((args[param.position]?).map Json.uriTexts).getD []))
        (extractor.pathParams.foldl (fun values param => setValue values param.placeholder
          [((args[param.position]?).bind Json.uriText?).getD ""]) fun _ => none) := by
  constructor
  · intro h
    obtain ⟨fromPath, hfrom, h⟩ := bind_eq_ok.1 h
    obtain ⟨hpath, rfl⟩ := (foldlM_eq_ok_iff (addPathValue_eq_ok_iff args)).1 hfrom
    exact ⟨hpath, (foldlM_eq_ok_iff (addQueryValue_eq_ok_iff args)).1 h⟩
  · rintro ⟨hpath, hquery⟩
    refine bind_eq_ok.2 ⟨_, (foldlM_eq_ok_iff (addPathValue_eq_ok_iff args)).2 ⟨hpath, rfl⟩, ?_⟩
    exact (foldlM_eq_ok_iff (addQueryValue_eq_ok_iff args)).2 hquery

/-! ## Rows of values -/

/-- Looking up among changed values is changing what is looked up. -/
theorem lookup_map {α β : Type} (f : α → β) (entries : List (String × α)) (name : String) :
    (entries.map fun entry => (entry.1, f entry.2)).lookup name = (entries.lookup name).map f := by
  induction entries with
  | nil => rfl
  | cons entry rest ih =>
      rw [List.map_cons, List.lookup_cons, List.lookup_cons, ih]
      cases name == entry.1 <;> rfl

section

variable {α : Type} (place : α → String) (texts : α → List String)

/-- Values of other placeholders are left alone. -/
theorem foldl_setValue_of_not_mem {items : List α} {name : String} (h : name ∉ items.map place) :
    items.foldl (fun values item => setValue values (place item) (texts item)) values name =
      values name := by
  induction items generalizing values with
  | nil => rfl
  | cons item rest ih =>
      rw [List.map_cons, List.mem_cons, not_or] at h
      rw [List.foldl_cons, ih h.2, setValue, if_neg h.1]

/-- A placeholder has the texts of the last item for it. -/
theorem foldl_setValue (items : List α) (name : String) :
    items.foldl (fun values item => setValue values (place item) (texts item)) values name =
      ((items.map fun item => (place item, texts item)).reverse.lookup name).or (values name) := by
  induction items generalizing values with
  | nil => rfl
  | cons item rest ih =>
      rw [List.foldl_cons, ih, List.map_cons, List.reverse_cons, List.lookup_append,
        Option.or_assoc]
      congr 1
      by_cases h : name = place item
      · simp [setValue, h]
      · simp [setValue, h, List.lookup_cons, beq_false_of_ne h]

/-- Placeholders that differ from each other have the texts of their items. -/
theorem map_foldl_setValue {items : List α} (h : (items.map place).Nodup) :
    (items.map place).map
        (items.foldl (fun values item => setValue values (place item) (texts item)) values) =
      items.map fun item => some (texts item) := by
  induction items generalizing values with
  | nil => rfl
  | cons item rest ih =>
      rw [List.map_cons, List.nodup_cons] at h
      rw [List.map_cons, List.map_cons, List.foldl_cons, ih h.2,
        foldl_setValue_of_not_mem place texts h.1, setValue, if_pos rfl, List.map_cons]

end

end UriExtractor

end HttpRpc
