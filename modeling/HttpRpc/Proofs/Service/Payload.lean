import HttpRpc.Proofs.Json.Printer
import HttpRpc.Service.Payload

/-!
# Payloads read back

The JSON form of a payload stands for that payload, with parameters that have a value and ones that
have none, and with errors behind errors at any depth (`ofJson?_toJson`). The text of a payload
tells its message (`eq_of_compact_toJson_eq`).
-/

namespace HttpRpc.ErrorPayload

open Json (canonical canonicalItems)

/-- The form of a parameter stands for that parameter. -/
theorem parameterOfJson?_parameterJson (parameter : ErrorParameter) :
    parameterOfJson? (canonical (parameterJson parameter)) = some parameter := by
  obtain ⟨key, value⟩ := parameter
  cases value with
  | none => simp [parameterJson, canonical, Json.canonicalFields, Json.sortFields,
      Json.insertField, parameterOfJson?, uniqueField?, text?]
  | some value =>
      have horder : Json.comesBefore "value" "key" = false := by decide
      simp [parameterJson, canonical, Json.canonicalFields, Json.sortFields, Json.insertField,
        horder, parameterOfJson?, uniqueField?, text?, optionalText?]

/-- The forms of parameters stand for those parameters. -/
theorem mapM_parameterOfJson? (parameters : List ErrorParameter) :
    (canonicalItems (parameters.map parameterJson)).mapM parameterOfJson? = some parameters := by
  induction parameters with
  | nil => rfl
  | cons parameter rest ih =>
      rw [List.map_cons, canonicalItems, List.mapM_cons, parameterOfJson?_parameterJson, ih]
      rfl

/-- The fields of the form of a payload, in the order of their names. -/
theorem toJson_mk (code message : String) (parameters : List ErrorParameter)
    (innerErrors : List ErrorPayload) :
    (mk code message parameters innerErrors).toJson = .object
      [("code", .string code),
        ("innerErrors", .array (canonicalItems (toWireList innerErrors))),
        ("message", .string message),
        ("parameters", .array (canonicalItems (parameters.map parameterJson)))] := by
  have hmessage : Json.comesBefore "message" "code" = false := by decide
  have hparameters : Json.comesBefore "parameters" "code" = false ∧
      Json.comesBefore "parameters" "message" = false := by
    decide
  have hinner : Json.comesBefore "innerErrors" "code" = false ∧
      Json.comesBefore "innerErrors" "message" = true := by
    decide
  simp [toJson, toWire, canonical, Json.canonicalFields, Json.sortFields, Json.insertField,
    hmessage, hparameters, hinner]

mutual

/-- The form of a payload stands for that payload. -/
theorem ofJson?_toJson : (payload : ErrorPayload) → ofJson? payload.toJson = some payload
  | mk code message parameters innerErrors => by
      have hinner := ofItems?_toWireList innerErrors
      have hparameters := mapM_parameterOfJson? parameters
      rw [toJson_mk]
      simp [ofJson?, uniqueField?, text?, parametersOfField?, parametersOfJson?, hparameters,
        ofFields?, hinner]

/-- The forms of payloads stand for those payloads. -/
theorem ofItems?_toWireList : (payloads : List ErrorPayload) →
    ofItems? (canonicalItems (toWireList payloads)) = some payloads
  | [] => rfl
  | payload :: rest => by
      have hpayload : ofJson? (canonical payload.toWire) = some payload := ofJson?_toJson payload
      have hrest := ofItems?_toWireList rest
      rw [toWireList, canonicalItems, ofItems?, hpayload, hrest]
      rfl

end

/-- Payloads that differ in their messages have different texts. -/
theorem eq_of_compact_toJson_eq {code first second : String} {parameters : List ErrorParameter}
    {innerErrors : List ErrorPayload}
    (h : (mk code first parameters innerErrors).toJson.compact =
      (mk code second parameters innerErrors).toJson.compact) : first = second := by
  rw [toJson_mk, toJson_mk] at h
  simp only [Json.compact, Json.compactFields, String.intercalate_cons_cons,
    String.intercalate_singleton] at h
  -- The message stands between the errors behind it and the parameters.
  have hlist := congrArg String.toList h
  simp only [String.toList_append, List.append_assoc] at hlist
  simp only [List.append_cancel_left_eq] at hlist
  have hmessage := List.append_cancel_right hlist
  exact Json.renderString_injective (String.toList_inj.1 hmessage)

end HttpRpc.ErrorPayload
