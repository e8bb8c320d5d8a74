import HttpRpc.Proofs.Media.Accept
import HttpRpc.Proofs.Service.Content

/-!
# Registries of the built-in codecs

A client lists the media types of its codecs in their order, each once, whatever type it asks for,
and a server reads that list as it was written (`parseAccept_acceptHeader_of_isPlain`). So the first
codec writes whatever it can write. The codec of plain texts writes texts and scalars but reads
texts only: where it comes first, a scalar is written that nobody reads (`readerFor?_eq_none_iff`).
-/

namespace HttpRpc

open HttpDispatcher (BuiltIn)

/-! ## Lists of media types -/

namespace CodecRegistry

variable {codecs : CodecRegistry}

/-- What a client lists is plain, if its codecs are. -/
theorem isPlain_of_mem_readableMediaTypes
    (hplain : ∀ codec ∈ codecs.codecs, codec.mediaType.IsPlain) {media : MediaType}
    (h : media ∈ codecs.readableMediaTypes) : media.IsPlain := by
  obtain ⟨codec, hcodec, rfl⟩ := List.mem_map.1 (List.mem_eraseDups.1 h)
  exact hplain codec hcodec

/-- The media type of the first codec is listed first. -/
theorem exists_readableMediaTypes_eq {first : Codec} {rest : List Codec}
    (h : codecs.codecs = first :: rest) :
    ∃ others, codecs.readableMediaTypes = first.mediaType :: others := by
  rw [readableMediaTypes, h, List.map_cons, List.eraseDups_cons]
  exact ⟨_, rfl⟩

/-- The media types of plain codecs are accepted as a client lists them. -/
theorem parseAccept_acceptHeader_of_isPlain (hne : codecs.codecs ≠ [])
    (hplain : ∀ codec ∈ codecs.codecs, codec.mediaType.IsPlain) :
    MediaType.parseAccept codecs.acceptHeader = codecs.readableMediaTypes := by
  obtain ⟨first, rest, hcodecs⟩ := List.exists_cons_of_ne_nil hne
  obtain ⟨others, hothers⟩ := exists_readableMediaTypes_eq hcodecs
  refine MediaType.parseAccept_renderList ?_ fun _ => isPlain_of_mem_readableMediaTypes hplain
  rw [hothers]
  exact List.cons_ne_nil _ _

/-- The list of a client with plain codecs is the value of a header and reads back. -/
theorem exists_ofString?_acceptHeader
    (hplain : ∀ codec ∈ codecs.codecs, codec.mediaType.IsPlain) :
    ∃ value, HeaderValue.ofString? codecs.acceptHeader = some value ∧
      value.text? = some codecs.acceptHeader :=
  MediaType.exists_ofString?_renderList fun _ => isPlain_of_mem_readableMediaTypes hplain

end CodecRegistry

/-! ## Codecs -/

namespace Codec

/-- The codecs of JSON are not the one of plain texts. -/
theorem json_ne_text (pretty : Bool) : json pretty ≠ text := by
  intro h
  have hname : "json" = "text" := congrArg name h
  exact absurd hname (by decide)

/-- Scalars are no texts. -/
theorem not_mem_stringTypes {typeName : String} (h : typeName ∈ scalarTypes) :
    typeName ∉ stringTypes := by
  have hnone : ∀ name ∈ scalarTypes, name ∉ stringTypes := by decide
  exact hnone typeName h

/-- A codec of JSON writes every type as JSON. -/
theorem canWrite_json (pretty : Bool) (typeName : String) :
    (json pretty).canWrite typeName .json = true :=
  MediaType.accepts_self .json

/-- The codec of plain texts writes texts and scalars. -/
theorem canWrite_text_iff {typeName : String} {entry : MediaType} :
    text.canWrite typeName entry = true ↔ MediaType.plainText.accepts entry = true ∧
      (typeName ∈ stringTypes ∨ typeName ∈ scalarTypes) := by
  show (_ && (_ || _)) = true ↔ _
  rw [Bool.and_eq_true, Bool.or_eq_true, List.contains_iff_mem, List.contains_iff_mem]

/-- The codec of plain texts reads texts. -/
theorem canRead_text_iff {typeName : String} {media : MediaType} :
    text.canRead typeName media = true ↔ MediaType.plainText.accepts media = true ∧
      typeName ∈ stringTypes := by
  show (_ && _) = true ↔ _
  rw [Bool.and_eq_true, List.contains_iff_mem]

end Codec

namespace HttpDispatcher.BuiltIn

variable {codec : Codec} {typeName : String}

/-- The built-in codecs have plain media types. -/
theorem isPlain (h : BuiltIn codec) : codec.mediaType.IsPlain := by
  cases h with
  | json pretty => exact MediaType.isPlain_json
  | text => exact MediaType.isPlain_plainText

/-- The built-in codecs are ordinary. -/
theorem isOrdinary (h : BuiltIn codec) : codec.IsOrdinary := by
  cases h with
  | json pretty => exact Codec.isOrdinary_json pretty
  | text => exact Codec.isOrdinary_text

/-- The built-in codecs are labelled with their own media types. -/
theorem label_eq (h : BuiltIn codec) {entry : MediaType}
    (hwrites : codec.canWrite typeName entry = true) :
    CodecRegistry.label codec entry = codec.mediaType :=
  h.isOrdinary.label_eq h.isPlain.params_eq hwrites

/-- Of the built-in codecs only the one of plain texts is for plain texts. -/
theorem eq_text (h : BuiltIn codec) (hsupports : codec.mediaType.accepts .plainText = true) :
    codec = .text := by
  cases h with
  | json pretty =>
      exact Bool.noConfusion (MediaType.accepts_json_plainText.symm.trans hsupports)
  | text => rfl

/-- Of the built-in codecs only the one of plain texts reads plain texts. -/
theorem eq_text_of_canRead (h : BuiltIn codec)
    (hreads : codec.canRead typeName .plainText = true) : codec = .text := by
  cases h with
  | json pretty => exact (BuiltIn.json pretty).eq_text hreads
  | text => rfl

end HttpDispatcher.BuiltIn

/-! ## Readers and writers -/

namespace CodecRegistry

variable {codecs : CodecRegistry} {typeName : String}

/-- A codec of JSON reads every type from JSON. -/
theorem isSome_readerFor?_json {pretty : Bool} (h : .json pretty ∈ codecs.codecs)
    (typeName : String) : (codecs.readerFor? typeName .json).isSome = true := by
  have hreads : (Codec.json pretty).canRead typeName .json = true :=
    MediaType.accepts_self .json
  exact List.find?_isSome.2 ⟨_, h, hreads⟩

/-- The codec of plain texts is found by what it alone of the built-in codecs does. -/
theorem find?_text {does : Codec → Bool} (htext : .text ∈ codecs.codecs) (hdoes : does .text = true)
    (halone : ∀ codec ∈ codecs.codecs, does codec = true → codec = .text) :
    codecs.codecs.find? does = some .text := by
  have hsome : (codecs.codecs.find? does).isSome = true := List.find?_isSome.2 ⟨_, htext, hdoes⟩
  obtain ⟨codec, hcodec⟩ := Option.isSome_iff_exists.1 hsome
  rw [hcodec, halone codec (List.mem_of_find?_eq_some hcodec) (List.find?_some hcodec)]

/-- The codec of plain texts reads texts. -/
theorem readerFor?_plainText (hcodecs : ∀ codec ∈ codecs.codecs, BuiltIn codec)
    (htext : .text ∈ codecs.codecs) (htype : typeName ∈ Codec.stringTypes) :
    codecs.readerFor? typeName .plainText = some .text :=
  find?_text htext (Codec.canRead_text_iff.2 ⟨MediaType.accepts_self .plainText, htype⟩)
    fun codec hcodec => (hcodecs codec hcodec).eq_text_of_canRead

/-- No built-in codec reads anything but texts from plain texts. -/
theorem readerFor?_plainText_of_not_mem (hcodecs : ∀ codec ∈ codecs.codecs, BuiltIn codec)
    (htype : typeName ∉ Codec.stringTypes) : codecs.readerFor? typeName .plainText = none := by
  refine List.find?_eq_none.2 fun codec hcodec hreads => ?_
  cases (hcodecs codec hcodec).eq_text_of_canRead hreads
  exact htype (Codec.canRead_text_iff.1 hreads).2

/-- The codec of plain texts writes texts as plain texts. -/
theorem writerFor?_plainText (hcodecs : ∀ codec ∈ codecs.codecs, BuiltIn codec)
    (htext : .text ∈ codecs.codecs) (htype : typeName ∈ Codec.stringTypes) :
    codecs.writerFor? typeName .plainText = some .text :=
  find?_text htext (Codec.canWrite_text_iff.2 ⟨MediaType.accepts_self .plainText, .inl htype⟩)
    fun codec hcodec hwrites => (hcodecs codec hcodec).eq_text
      ((hcodecs codec hcodec).isOrdinary.accepts_of_canWrite hwrites)

/-- Where the first codec writes a type, it is the one that writes for a client with the same
codecs. -/
theorem negotiate_acceptHeader_of_head (hcodecs : ∀ codec ∈ codecs.codecs, BuiltIn codec)
    {first : Codec} {rest : List Codec} (hfirst : codecs.codecs = first :: rest)
    (hwrites : first.canWrite typeName first.mediaType = true) :
    codecs.negotiate typeName (MediaType.parseAccept codecs.acceptHeader) =
      .ok (first, first.mediaType) := by
  have hmem : first ∈ codecs.codecs := hfirst ▸ List.mem_cons_self
  have haccepted := parseAccept_acceptHeader_of_isPlain (List.ne_nil_of_mem hmem)
    fun codec hcodec => (hcodecs codec hcodec).isPlain
  obtain ⟨others, hothers⟩ := exists_readableMediaTypes_eq hfirst
  have hchosen : codecs.Chooses typeName (first.mediaType :: others) first.mediaType first :=
    ⟨hwrites, ⟨[], others, rfl, nofun⟩, [], rest, hfirst, nofun⟩
  rw [haccepted, hothers, hchosen.negotiate_eq, (hcodecs first hmem).label_eq hwrites]

/-- There is no reader for what is written to a client with the same codecs exactly if the codec of
plain texts comes first and the type is that of a scalar. -/
theorem readerFor?_eq_none_iff (hcodecs : ∀ codec ∈ codecs.codecs, BuiltIn codec) {codec : Codec}
    {label : MediaType}
    (h : codecs.negotiate typeName (MediaType.parseAccept codecs.acceptHeader) =
      .ok (codec, label)) :
    codecs.readerFor? typeName label = none ↔
      codecs.codecs.head? = some .text ∧ typeName ∈ Codec.scalarTypes := by
  obtain ⟨entry, hchosen, hlabel⟩ := exists_chooses_of_negotiate h
  have hcodec := hcodecs codec hchosen.codec_mem
  rw [hcodec.label_eq hchosen.writes] at hlabel
  obtain ⟨first, rest, hfirst⟩ :=
    List.exists_cons_of_ne_nil (List.ne_nil_of_mem hchosen.codec_mem)
  have hhead (hwrites : first.canWrite typeName first.mediaType = true) : codec = first := by
    have hnegotiate := negotiate_acceptHeader_of_head hcodecs hfirst hwrites
    exact congrArg Prod.fst (Except.ok.inj (h.symm.trans hnegotiate))
  rw [hfirst, List.head?_cons, Option.some_inj, hlabel]
  cases hcodec with
  | json pretty =>
      -- JSON is always read, and with plain texts first it is not chosen for a scalar.
      have hread : codecs.readerFor? typeName .json ≠ none :=
        Option.isSome_iff_ne_none.1 (isSome_readerFor?_json hchosen.codec_mem typeName)
      refine ⟨fun hnone => absurd hnone hread, ?_⟩
      rintro ⟨rfl, hscalar⟩
      have hwrites : Codec.text.canWrite typeName .plainText = true :=
        Codec.canWrite_text_iff.2 ⟨MediaType.accepts_self .plainText, .inr hscalar⟩
      exact absurd (hhead hwrites) (Codec.json_ne_text pretty)
  | text =>
      -- Plain texts are chosen only where they come first, since JSON is written whatever the type.
      have hfirst_eq : first = .text := by
        cases hcodecs first (hfirst ▸ List.mem_cons_self) with
        | json pretty =>
            have hjson := hhead (Codec.canWrite_json pretty typeName)
            exact absurd hjson.symm (Codec.json_ne_text pretty)
        | text => rfl
      have hserves := (Codec.canWrite_text_iff.1 hchosen.writes).2
      constructor
      · intro hnone
        refine ⟨hfirst_eq, hserves.resolve_left fun hstring => ?_⟩
        cases hnone.symm.trans (readerFor?_plainText hcodecs hchosen.codec_mem hstring)
      · rintro ⟨-, hscalar⟩
        exact readerFor?_plainText_of_not_mem hcodecs (Codec.not_mem_stringTypes hscalar)

end CodecRegistry

end HttpRpc
