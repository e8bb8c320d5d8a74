import HttpRpc.Proofs.Codec.Default
import HttpRpc.Proofs.Http.Header
import HttpRpc.Proofs.Service.Admission
import HttpRpc.Proofs.Service.Dispatch

/-!
# A server that speaks JSON

What a server with the built-in codecs makes of requests and answers in JSON. A value that is sent
as JSON is the input of the method (`prepare_json`); a request that states no media type is refused
whatever its body is (`prepare_untyped`). A caller that accepts JSON first is answered in JSON, with
results (`encode_json`) and with errors (`errorResponse_json`).
-/

namespace HttpRpc.HttpDispatcher

open HttpRpc.Text

/-! ## Requests -/

variable {registry : RpcRegistry} {target : Target} {headers : Headers}

/-- A value that is sent as JSON to a method is the input of the method. -/
theorem prepare_json {method : RpcMethod} {value : Json}
    (hmethod : registry.get? (methodName .default target) = some method)
    (hcontent : headers.get? Headers.contentType = some ⟨Utf8.encodeString "application/json"⟩)
    (hreadable : value.Readable)
    (hsize : (Utf8.encodeString value.compact).length ≤ DispatcherConfig.default.maxBodyBytes) :
    (new registry).prepare ⟨.post, target, headers, Utf8.encodeString value.compact⟩ =
      .ok (method, value) := by
  have hstated : contentType? headers = some (.ok .json) := by
    rw [contentType?, hcontent, Option.map_some, HeaderValue.text?_json]
    exact congrArg some MediaType.parse_json
  have hdecode : (new registry).decode method .json (Utf8.encodeString value.compact) =
      .ok value :=
    decode_of_read (CodecRegistry.readerFor?_json method.inputType) hreadable.body_isEmpty
      (Codec.read_write_json hreadable)
  exact prepare_of_decode rfl hsize
    (media?_of_contentType? hstated CodecRegistry.supports_json) hmethod hdecode

/-- A request without a media type is refused, whatever it calls. -/
theorem prepare_untyped (registry : RpcRegistry) (target : Target)
    (hcontent : headers.get? Headers.contentType = none) :
    (new registry).prepare ⟨.post, target, headers, []⟩ =
      .error (.unsupportedMediaType .missingContentType) := by
  have hstated : contentType? headers = none := by
    rw [contentType?, hcontent]
    rfl
  unfold prepare
  simp only [hstated]
  rfl

/-! ## Answers -/

variable {dispatcher : HttpDispatcher}

/-- The media types that a client accepts are understood. -/
theorem acceptedTypes_of_accept {headers : Headers} {accept : HeaderValue}
    (haccept : HeaderValue.ofString? CodecRegistry.default.acceptHeader = some accept)
    (hheader : headers.get? Headers.accept = some accept) :
    acceptedTypes headers = [.json, .plainText] := by
  have htext : headers.text? Headers.accept = some CodecRegistry.default.acceptHeader := by
    rw [Headers.text?, hheader]
    exact CodecRegistry.text?_acceptHeader haccept
  unfold acceptedTypes
  rw [htext]
  exact CodecRegistry.parseAccept_acceptHeader

/-- A response in JSON says so. -/
theorem contentType?_respond (vector : RequestVector) (status : Status) (body : Body) :
    (respond vector status .json body).contentType? = some "application/json" := by
  unfold Response.contentType? Headers.text? respond
  rw [get?_setText_self _ MediaType.ofString?_json]
  exact HeaderValue.text?_json

/-- An error is told in JSON to a caller that accepts JSON first. -/
theorem errorResponse_json (hcodecs : dispatcher.codecs = .default) (vector : RequestVector)
    (others : List MediaType) (e : DispatchError) :
    (dispatcher.errorResponse vector (.json :: others) e).status = e.status ∧
      (dispatcher.errorResponse vector (.json :: others) e).body =
        Utf8.encodeString e.toPayload.toJson.compact ∧
      (dispatcher.errorResponse vector (.json :: others) e).contentType? =
        some "application/json" := by
  have hencode : encodePayload dispatcher.codecs e.toPayload (.json :: others) =
      (.json, Utf8.encodeString e.toPayload.toJson.compact) := by
    unfold encodePayload
    rw [hcodecs, CodecRegistry.negotiate_json]
    rfl
  generalize Utf8.encodeString e.toPayload.toJson.compact = body at hencode ⊢
  have htype := contentType?_respond vector e.status body
  unfold errorResponse
  simp only [hencode]
  cases e with
  | methodNotAllowed verb =>
      refine ⟨rfl, rfl, ?_⟩
      unfold Response.contentType? Headers.text?
      rw [get?_setText_of_ne _ (by decide)]
      exact htype
  | _ => exact ⟨rfl, rfl, htype⟩

/-- A result is written in JSON for a caller that accepts JSON first. -/
theorem encode_json (hcodecs : dispatcher.codecs = .default) (method : RpcMethod)
    (others : List MediaType) (output : Json) :
    dispatcher.encode method (.json :: others) output =
      .ok (.json, Utf8.encodeString output.compact) := by
  unfold encode
  rw [hcodecs, CodecRegistry.negotiate_json]
  rfl

/-- A method that ends with a value is answered with the value in JSON. -/
theorem answer_json {request : Request} {others : List MediaType}
    (hcodecs : dispatcher.codecs = .default)
    (haccepted : acceptedTypes request.headers = .json :: others) (method : RpcMethod)
    (output : Json) :
    dispatcher.answer request method (.value output) =
      .ok (.json, Utf8.encodeString output.compact) := by
  show dispatcher.encode method (acceptedTypes request.headers) output = _
  rw [haccepted, encode_json hcodecs]

end HttpRpc.HttpDispatcher
