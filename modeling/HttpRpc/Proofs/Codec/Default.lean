import HttpRpc.Codec.Registry
import HttpRpc.Http.Header
import HttpRpc.Json.View
import HttpRpc.Proofs.Media.Accept
import HttpRpc.Proofs.Text.Utf8

/-!
# The built-in codecs

A client with the built-in codecs accepts JSON before plain text, and a server with the same codecs
takes it at its word: whatever the type, the codec of JSON writes, and reads what was written. A
value is readable if its compact text is read as that value.
-/

namespace HttpRpc

/-- The compact text of the value is read as the value. -/
def Json.Readable (value : Json) : Prop :=
  Json.parseCanonical? value.compact.toList = some value

/-- The body of a readable value is not empty. -/
theorem Json.Readable.body_isEmpty {value : Json} (h : value.Readable) :
    (Text.Utf8.encodeString value.compact).isEmpty = false := by
  rw [List.isEmpty_eq_false_iff]
  intro hempty
  have hdecode := Text.Utf8.decode?_encodeString value.compact
  rw [hempty] at hdecode
  rw [Readable, ← Option.some.inj hdecode] at h
  cases h

/-- The flag that is set is readable. -/
theorem Json.readable_true : (Json.bool true).Readable := by
  -- Values cannot be compared by evaluation, so what is read is told by its flag.
  have hread : (parseCanonical? (Json.bool true).compact.toList).any asFlag = true := by
    decide
  unfold Readable
  cases hvalue : parseCanonical? (Json.bool true).compact.toList with
  | none =>
      rw [hvalue] at hread
      cases hread
  | some value =>
      rw [hvalue] at hread
      cases value with
      | bool flag =>
          have hflag : flag = true := hread
          rw [hflag]
      | _ => cases hread

namespace CodecRegistry

/-- There is no writer exactly if no codec writes the type as the media type. -/
theorem writerFor?_none_iff {registry : CodecRegistry} {typeName : String} {media : MediaType} :
    registry.writerFor? typeName media = none ↔
      ∀ codec ∈ registry.codecs, codec.canWrite typeName media = false := by
  simp only [writerFor?, List.find?_eq_none, Bool.not_eq_true]

/-- There is no reader exactly if no codec reads the type from the media type. -/
theorem readerFor?_none_iff {registry : CodecRegistry} {typeName : String} {media : MediaType} :
    registry.readerFor? typeName media = none ↔
      ∀ codec ∈ registry.codecs, codec.canRead typeName media = false := by
  simp only [readerFor?, List.find?_eq_none, Bool.not_eq_true]

/-- JSON is written as JSON, whatever the type. -/
theorem writerFor?_json (typeName : String) :
    default.writerFor? typeName .json = some (.json false) :=
  List.find?_cons_of_pos (MediaType.accepts_self .json)

/-- JSON is read as JSON, whatever the type. -/
theorem readerFor?_json (typeName : String) :
    default.readerFor? typeName .json = some (.json false) :=
  List.find?_cons_of_pos (MediaType.accepts_self .json)

/-- JSON is supported. -/
theorem supports_json : default.supports .json = true :=
  List.any_eq_true.2 ⟨_, List.mem_cons_self, MediaType.accepts_self .json⟩

/-- A caller that accepts JSON first is written JSON, whatever the type. -/
theorem negotiate_json (typeName : String) (others : List MediaType) :
    default.negotiate typeName (.json :: others) = .ok (.json false, .json) := by
  have hlabel : label (.json false) .json = .json := by decide +kernel
  rw [negotiate, negotiate?, writerFor?_json]
  show Except.ok (Codec.json false, label (.json false) .json) = _
  rw [hlabel]

/-- A client with the built-in codecs lists plain media types. -/
theorem readableMediaTypes_default : default.readableMediaTypes = [.json, .plainText] := by
  decide +kernel

/-- The media types that a client with the built-in codecs lists are plain. -/
theorem isPlain_default : ∀ media ∈ default.readableMediaTypes, media.IsPlain := by
  rw [readableMediaTypes_default]
  exact List.forall_mem_cons.2 ⟨MediaType.isPlain_json,
    List.forall_mem_singleton.2 MediaType.isPlain_plainText⟩

/-- The media types that a client accepts are read by a server as JSON and then plain text. -/
theorem parseAccept_acceptHeader :
    MediaType.parseAccept default.acceptHeader = [.json, .plainText] := by
  have hne : default.readableMediaTypes ≠ [] := by
    rw [readableMediaTypes_default]
    exact List.cons_ne_nil _ _
  rw [acceptHeader, MediaType.parseAccept_renderList hne isPlain_default,
    readableMediaTypes_default]

/-- The list of accepted media types is the text of a header. -/
theorem text?_acceptHeader {value : HeaderValue}
    (h : HeaderValue.ofString? default.acceptHeader = some value) :
    value.text? = some default.acceptHeader := by
  obtain ⟨found, hfound, htext⟩ := MediaType.exists_ofString?_renderList isPlain_default
  cases h.symm.trans hfound
  exact htext

end CodecRegistry

/-- The text of the media type of JSON may be the value of a header. -/
theorem MediaType.ofString?_json :
    HeaderValue.ofString? MediaType.json.render =
      some ⟨Text.Utf8.encodeString "application/json"⟩ := by
  decide +kernel

/-- The value of the header for the media type of JSON reads back as text. -/
theorem HeaderValue.text?_json :
    (HeaderValue.mk (Text.Utf8.encodeString "application/json")).text? =
      some "application/json" := by
  decide

/-- The text of the media type of JSON is a media type that is read as JSON. -/
theorem MediaType.parse_json :
    MediaType.parse "application/json" = .ok .json := by
  have hparse : MediaType.parse? "application/json".toList = some .json := by decide +kernel
  rw [MediaType.parse, hparse]

/-- The body of a readable value is read as the value. -/
theorem Codec.read_write_json {value : Json} (h : value.Readable) :
    (Codec.json false).read (Text.Utf8.encodeString value.compact) = .ok value := by
  show Codec.readJson (Text.Utf8.encodeString value.compact) = .ok value
  rw [readJson, Text.Utf8.decode?_encodeString, Option.bind_some, h]

end HttpRpc
