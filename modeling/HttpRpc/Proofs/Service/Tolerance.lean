import HttpRpc.Proofs.Service.Payload
import Mathlib.Logic.Relation

/-!
# Payloads in other forms

The form of a payload may be edited on its way: empty lists are left out, and fields of unknown
names are added to the payload, to the errors behind it and to parameters (`Edit`). What is read
does not change by one edit (`ofJson?_of_edit`) and so by none of many (`ofJson?_edited`). Of an
object no more is read than the values of the known fields (`ofJson?_object_eq_some_iff`).
-/

namespace HttpRpc.ErrorPayload

open Json (insertField)

/-! ## Edits -/

/-- A field of an unknown name is added to the form of a parameter. -/
inductive ParameterEdit : Json → Json → Prop where
  | add {fields : List (String × Json)} {key : String} (value : Json)
      (hkey : key ∉ ["key", "value"]) :
      ParameterEdit (.object fields) (.object (insertField key value fields))

/-- The form of a payload is edited at one place: an empty list is left out, a field of an unknown
name is added, or a parameter or an error behind the payload is edited. -/
inductive Edit : Json → Json → Prop where
  | drop {fields : List (String × Json)} {key : String} (hkey : key ∈ ["parameters", "innerErrors"])
      (hfield : (key, .array []) ∈ fields) :
      Edit (.object fields) (.object (fields.filter fun field => field.1 != key))
  | add {fields : List (String × Json)} {key : String} (value : Json)
      (hkey : key ∉ ["code", "message", "parameters", "innerErrors"]) :
      Edit (.object fields) (.object (insertField key value fields))
  | parameter {above below : List (String × Json)} {front back : List Json} {item edited : Json}
      (hitem : ParameterEdit item edited) :
      Edit (.object (above ++ ("parameters", .array (front ++ item :: back)) :: below))
        (.object (above ++ ("parameters", .array (front ++ edited :: back)) :: below))
  | inner {above below : List (String × Json)} {front back : List Json} {item edited : Json}
      (hitem : Edit item edited) :
      Edit (.object (above ++ ("innerErrors", .array (front ++ item :: back)) :: below))
        (.object (above ++ ("innerErrors", .array (front ++ edited :: back)) :: below))

variable {fields above below : List (String × Json)} {key other : String} {value edited : Json}
  {field : Option Json}

/-! ## Values of fields -/

/-- A field that is set has no part in what the fields of another name are. -/
theorem filter_insertField (h : key ≠ other) (value : Json) (fields : List (String × Json)) :
    (insertField key value fields).filter (fun field => field.1 == other) =
      fields.filter fun field => field.1 == other := by
  induction fields with
  | nil => simp [insertField, h]
  | cons first rest ih =>
      obtain ⟨name, old⟩ := first
      rw [insertField]
      split
      · simp [h]
      · split
        · next hname => simp [h, ← hname]
        · rw [List.filter_cons, List.filter_cons, ih]

/-- A field that is set leaves the values of all others. -/
theorem uniqueField?_insertField (h : key ≠ other) (value : Json) (fields : List (String × Json)) :
    uniqueField? (insertField key value fields) other = uniqueField? fields other := by
  rw [uniqueField?, filter_insertField h, uniqueField?]

/-- A field that is left out leaves the values of all others. -/
theorem uniqueField?_filter_of_ne (h : other ≠ key) (fields : List (String × Json)) :
    uniqueField? (fields.filter fun field => field.1 != key) other = uniqueField? fields other := by
  have hfilter : (fields.filter fun field => field.1 != key).filter
      (fun field => field.1 == other) = fields.filter fun field => field.1 == other := by
    rw [List.filter_filter]
    refine List.filter_congr fun field _ => ?_
    by_cases hfield : field.1 = other
    · simp [hfield, h]
    · simp [hfield]
  rw [uniqueField?, hfilter, uniqueField?]

/-- A field that is left out has no value. -/
theorem uniqueField?_filter_self (key : String) (fields : List (String × Json)) :
    uniqueField? (fields.filter fun field => field.1 != key) key = some none := by
  have hfilter : (fields.filter fun field => field.1 != key).filter (fun field => field.1 == key) =
      [] := by
    rw [List.filter_filter, List.filter_eq_nil_iff]
    intro field _
    simp
  rw [uniqueField?, hfilter]

/-- A field has its value if none of the same name stands beside it. -/
theorem uniqueField?_append_cons (above below : List (String × Json)) (key : String)
    (value : Json) :
    uniqueField? (above ++ (key, value) :: below) key =
      if key ∈ (above ++ below).map Prod.fst then none else some (some value) := by
  have hfilter : (above ++ (key, value) :: below).filter (fun field => field.1 == key) =
      above.filter (fun field => field.1 == key) ++ (key, value) ::
        below.filter fun field => field.1 == key := by
    simp
  have hmem : key ∉ (above ++ below).map Prod.fst ↔
      above.filter (fun field => field.1 == key) = [] ∧
        below.filter (fun field => field.1 == key) = [] := by
    simp only [List.filter_eq_nil_iff, beq_iff_eq, ← List.forall_mem_append, List.mem_map,
      not_exists, not_and]
  rw [uniqueField?, hfilter]
  by_cases hkey : key ∈ (above ++ below).map Prod.fst
  · rw [if_pos hkey]
    split
    · next hnone => simp at hnone
    · next first hfirst =>
        rcases List.append_eq_singleton_iff.1 hfirst with ⟨habove, hbelow⟩ | ⟨-, hbelow⟩
        · exact absurd hkey (hmem.2 ⟨habove, (List.cons.inj hbelow).2⟩)
        · cases hbelow
    · rfl
  · obtain ⟨habove, hbelow⟩ := hmem.1 hkey
    rw [if_neg hkey, habove, hbelow]
    rfl

/-- A field that has a value and is set to another one has that one. -/
theorem uniqueField?_replaced
    (h : uniqueField? (above ++ (key, value) :: below) key = some field) (edited : Json) :
    field = some value ∧
      uniqueField? (above ++ (key, edited) :: below) key = some (some edited) := by
  rw [uniqueField?_append_cons] at h ⊢
  split at h
  · cases h
  · next hkey =>
      rw [if_neg hkey]
      exact ⟨(Option.some.inj h).symm, rfl⟩

/-- A field that is set to another value leaves the values of all others. -/
theorem uniqueField?_replaced_of_ne (h : key ≠ other) (above below : List (String × Json))
    (value edited : Json) :
    uniqueField? (above ++ (key, edited) :: below) other =
      uniqueField? (above ++ (key, value) :: below) other := by
  simp only [uniqueField?, List.filter_append, List.filter_cons, beq_eq_false_iff_ne.2 h,
    Bool.false_eq_true, if_false]

/-! ## What is read of an object -/

/-- The errors in a field that may be missing. -/
def innerErrorsOfField? : Option Json → Option (List ErrorPayload)
  | none => some []
  | some (.array items) => items.mapM ofJson?
  | some _ => none

/-- Items are read one by one. -/
theorem ofItems?_eq_mapM (items : List Json) : ofItems? items = items.mapM ofJson? := by
  induction items with
  | nil => rw [ofItems?, List.mapM_nil]; rfl
  | cons item rest ih =>
      rw [ofItems?, List.mapM_cons, ih]
      rfl

/-- The errors behind a payload are those in the field of that name. -/
theorem ofFields?_eq (h : uniqueField? fields "innerErrors" = some field) :
    ofFields? fields = innerErrorsOfField? field := by
  induction fields with
  | nil =>
      cases h
      rw [ofFields?]
      rfl
  | cons first rest ih =>
      obtain ⟨name, value⟩ := first
      by_cases hname : name = "innerErrors"
      · subst hname
        have hfield : uniqueField? ([] ++ ("innerErrors", value) :: rest) "innerErrors" =
            some field := h
        rw [(uniqueField?_replaced hfield value).1]
        cases value with
        | array items =>
            rw [ofFields?, if_pos rfl, ofItems?_eq_mapM]
            rfl
        | _ => simp [ofFields?, innerErrorsOfField?]
      · have hrest : uniqueField? rest "innerErrors" = some field := by
          rw [← h, uniqueField?, uniqueField?, List.filter_cons_of_neg (by simpa using hname)]
        cases value <;> simp [ofFields?, hname, ih hrest]

/-- A value is a text if it is a JSON string. -/
theorem text?_eq_some_iff {text : String} : text? value = some text ↔ value = .string text := by
  cases value <;> simp [text?]

/-- An object stands for a payload if its known fields occur at most once each and stand for the
parts of the payload. -/
theorem ofJson?_object_eq_some_iff {code message : String} {parameters : List ErrorParameter}
    {innerErrors : List ErrorPayload} :
    ofJson? (.object fields) = some (mk code message parameters innerErrors) ↔
      uniqueField? fields "code" = some (some (.string code)) ∧
      uniqueField? fields "message" = some (some (.string message)) ∧
      (∃ field, uniqueField? fields "parameters" = some field ∧
        parametersOfField? field = some parameters) ∧
      ∃ field, uniqueField? fields "innerErrors" = some field ∧
        innerErrorsOfField? field = some innerErrors := by
  rw [ofJson?]
  simp only [Option.bind_eq_bind, Option.bind_eq_some_iff, Option.some.injEq, mk.injEq,
    text?_eq_some_iff, exists_eq_right]
  constructor
  · rintro ⟨_, hcode, _, rfl, _, hmessage, _, rfl, field, hfield, _, hparameters, inner, hinner, _,
      hfields, rfl, rfl, rfl, rfl⟩
    rw [ofFields?_eq hinner] at hfields
    exact ⟨hcode, hmessage, ⟨field, hfield, hparameters⟩, inner, hinner, hfields⟩
  · rintro ⟨hcode, hmessage, ⟨field, hfield, hparameters⟩, inner, hinner, hfields⟩
    rw [← ofFields?_eq hinner] at hfields
    exact ⟨_, hcode, _, rfl, _, hmessage, _, rfl, field, hfield, _, hparameters, inner, hinner, _,
      hfields, rfl, rfl, rfl, rfl⟩

/-! ## Reading what was edited -/

/-- An item that is edited without a change of what is read leaves what is read of all items. -/
theorem mapM_replaced {α β : Type} {f : α → Option β} {front back : List α} {item edited : α}
    {results : List β} (h : (front ++ item :: back).mapM f = some results)
    (hedited : ∀ result, f item = some result → f edited = some result) :
    (front ++ edited :: back).mapM f = some results := by
  rw [List.mapM_append, List.mapM_cons] at h ⊢
  cases hitem : f item with
  | none => simp [hitem] at h
  | some result =>
      rw [hitem] at h
      rw [hedited result hitem]
      exact h

/-- A parameter is read of its known fields. -/
theorem parameterOfJson?_of_edit {item edited : Json} (h : ParameterEdit item edited)
    {parameter : ErrorParameter} (hitem : parameterOfJson? item = some parameter) :
    parameterOfJson? edited = some parameter := by
  obtain ⟨value, hkey⟩ := h
  simp only [List.mem_cons, List.not_mem_nil, or_false, not_or] at hkey
  rw [← hitem, parameterOfJson?, parameterOfJson?, uniqueField?_insertField hkey.1,
    uniqueField?_insertField hkey.2]

/-- An edit leaves the payload that is read. -/
theorem ofJson?_of_edit {form edited : Json} (h : Edit form edited) {payload : ErrorPayload}
    (hform : ofJson? form = some payload) : ofJson? edited = some payload := by
  induction h generalizing payload with
  | @drop fields key hkey hmem =>
      obtain ⟨code, message, parameters, innerErrors⟩ := payload
      rw [ofJson?_object_eq_some_iff] at hform ⊢
      obtain ⟨hcode, hmessage, ⟨field, hfield, hparameters⟩, inner, hinner, hitems⟩ := hform
      have hempty {value : Option Json} (hvalue : uniqueField? fields key = some value) :
          value = some (.array []) := by
        obtain ⟨above, below, rfl⟩ := List.append_of_mem hmem
        exact (uniqueField?_replaced hvalue .null).1
      -- An empty list and a missing one stand for the same.
      simp only [List.mem_cons, List.not_mem_nil, or_false] at hkey
      rcases hkey with rfl | rfl
      · rw [hempty hfield] at hparameters
        rw [uniqueField?_filter_self, uniqueField?_filter_of_ne (by decide),
          uniqueField?_filter_of_ne (by decide), uniqueField?_filter_of_ne (by decide)]
        exact ⟨hcode, hmessage, ⟨none, rfl, hparameters⟩, inner, hinner, hitems⟩
      · rw [hempty hinner] at hitems
        rw [uniqueField?_filter_self, uniqueField?_filter_of_ne (by decide),
          uniqueField?_filter_of_ne (by decide), uniqueField?_filter_of_ne (by decide)]
        exact ⟨hcode, hmessage, ⟨field, hfield, hparameters⟩, none, rfl, hitems⟩
  | @add fields key value hkey =>
      obtain ⟨code, message, parameters, innerErrors⟩ := payload
      simp only [List.mem_cons, List.not_mem_nil, or_false, not_or] at hkey
      obtain ⟨hcode, hmessage, hparameters, hinner⟩ := hkey
      rw [ofJson?_object_eq_some_iff] at hform ⊢
      rwa [uniqueField?_insertField hcode, uniqueField?_insertField hmessage,
        uniqueField?_insertField hparameters, uniqueField?_insertField hinner]
  | @parameter above below front back item edited hitem =>
      obtain ⟨code, message, parameters, innerErrors⟩ := payload
      rw [ofJson?_object_eq_some_iff] at hform ⊢
      obtain ⟨hcode, hmessage, ⟨field, hfield, hparameters⟩, inner, hinner, hitems⟩ := hform
      have hkept {key : String} (hkey : "parameters" ≠ key) :=
        uniqueField?_replaced_of_ne hkey above below
          (.array (front ++ item :: back)) (.array (front ++ edited :: back))
      obtain ⟨rfl, hreplaced⟩ := uniqueField?_replaced hfield (.array (front ++ edited :: back))
      rw [hreplaced, hkept (by decide), hkept (by decide), hkept (by decide)]
      exact ⟨hcode, hmessage,
        ⟨_, rfl, mapM_replaced hparameters fun _ => parameterOfJson?_of_edit hitem⟩,
        inner, hinner, hitems⟩
  | @inner above below front back item edited hitem ih =>
      obtain ⟨code, message, parameters, innerErrors⟩ := payload
      rw [ofJson?_object_eq_some_iff] at hform ⊢
      obtain ⟨hcode, hmessage, ⟨field, hfield, hparameters⟩, inner, hinner, hitems⟩ := hform
      have hkept {key : String} (hkey : "innerErrors" ≠ key) :=
        uniqueField?_replaced_of_ne hkey above below
          (.array (front ++ item :: back)) (.array (front ++ edited :: back))
      obtain ⟨rfl, hreplaced⟩ := uniqueField?_replaced hinner (.array (front ++ edited :: back))
      rw [hreplaced, hkept (by decide), hkept (by decide), hkept (by decide)]
      exact ⟨hcode, hmessage, ⟨field, hfield, hparameters⟩, _, rfl,
        mapM_replaced hitems fun _ => ih⟩

/-- The form of a payload stands for it, whatever edits are made in the form one after the other. -/
theorem ofJson?_edited (payload : ErrorPayload) :
    ofJson? payload.toJson = some payload ∧
      ∀ form, Relation.ReflTransGen Edit payload.toJson form → ofJson? form = some payload := by
  refine ⟨ofJson?_toJson payload, fun form hedits => ?_⟩
  induction hedits with
  | refl => exact ofJson?_toJson payload
  | tail _ hedit ih => exact ofJson?_of_edit hedit ih

/-- A payload with one key twice and an error behind it: the lists of that error are left out, and
fields are added to it, to a parameter and to the payload. -/
theorem ofJson?_edited_nested :
    let payload := mk "a" "b" [⟨"k", none⟩, ⟨"k", some "v"⟩] [mk "c" "d" [] []]
    let fields (item parameter : Json) : List (String × Json) :=
      [("code", .string "a"), ("innerErrors", .array [item]), ("message", .string "b"),
        ("parameters", .array [parameter, .object [("key", .string "k"), ("value", .string "v")]])]
    let form : Json := .object (fields
      (.object [("code", .string "c"), ("extra", .null), ("message", .string "d")])
      (.object [("key", .string "k"), ("more", .array [])]) ++ [("trace", .string "t")])
    Relation.ReflTransGen Edit payload.toJson form ∧ ofJson? form = some payload := by
  intro payload fields form
  have hinner {item edited : Json} (parameter : Json) (h : Edit item edited) :
      Edit (.object (fields item parameter)) (.object (fields edited parameter)) :=
    @Edit.inner [("code", .string "a")] [("message", .string "b"), ("parameters", _)] [] [] _ _ h
  have hparameter {parameter edited : Json} (item : Json) (h : ParameterEdit parameter edited) :
      Edit (.object (fields item parameter)) (.object (fields item edited)) :=
    @Edit.parameter [("code", .string "a"), ("innerErrors", .array [item]),
      ("message", .string "b")] [] [] [_] _ _ h
  have hedits : Relation.ReflTransGen Edit payload.toJson form := by
    refine .head (hinner _ (@Edit.drop [("code", .string "c"), ("innerErrors", .array []),
      ("message", .string "d"), ("parameters", .array [])] "innerErrors" (by simp) (by simp))) ?_
    refine .head (hinner _ (@Edit.drop [("code", .string "c"), ("message", .string "d"),
      ("parameters", .array [])] "parameters" (by simp) (by simp))) ?_
    refine .head (hinner _ (@Edit.add [("code", .string "c"), ("message", .string "d")] "extra"
      .null (by simp))) ?_
    refine .head (hparameter _ (@ParameterEdit.add [("key", .string "k")] "more" (.array [])
      (by simp))) ?_
    exact .single (@Edit.add (fields _ _) "trace" (.string "t") (by simp))
  exact ⟨hedits, (ofJson?_edited payload).2 form hedits⟩

end HttpRpc.ErrorPayload
