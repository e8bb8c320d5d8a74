import HttpRpc.Proofs.Client.Answer

/-!
# Whether a client can read what it asked for

A client and a server with the same built-in codecs. The client lists all media types of its codecs
whatever it asks for, and the server takes the first one that it can write. So a call has no reader
for its result exactly if the codec of plain texts comes first and the result is a scalar with a
text (`unreadable_iff`).
-/

namespace HttpRpc

open HttpDispatcher (BuiltIn)

/-- A client with the built-in codecs has no reader for a result that a server with the same codecs
wrote exactly if the codec of plain texts comes first and the result is a scalar, and a call fails
for that reason exactly if the text of the result is not empty, too. -/
theorem unreadable_iff {codecs : CodecRegistry} (hcodecs : ∀ codec ∈ codecs.codecs, BuiltIn codec) :
    (∀ typeName codec label,
      codecs.negotiate typeName (MediaType.parseAccept codecs.acceptHeader) = .ok (codec, label) →
      (codecs.readerFor? typeName label = none ↔
        codecs.codecs.head? = some .text ∧ typeName ∈ Codec.scalarTypes)) ∧
    ∀ (call : Call) (dispatcher : HttpDispatcher) (context : Option RequestVector)
      (world there : World) (received : Request) (response : Response) (method : RpcMethod),
      call.Shares dispatcher codecs →
      call.Answered dispatcher context world received there response →
      dispatcher.method? received = some method → method.outputType = call.typeName →
      response.status = .ok →
      ((∃ name text, (call.run context world).1 = .error (.media (.noReader name text))) ↔
        codecs.codecs.head? = some .text ∧ call.typeName ∈ Codec.scalarTypes ∧
          response.body ≠ []) := by
  refine ⟨fun typeName codec label => CodecRegistry.readerFor?_eq_none_iff hcodecs, ?_⟩
  intro call dispatcher context world there received response method hshares hanswered hmethod
    htype hok
  have hplain : ∀ codec ∈ codecs.codecs, codec.mediaType.IsPlain :=
    fun codec hcodec => (hcodecs codec hcodec).isPlain
  obtain ⟨ambient, hdispatch⟩ := hanswered.dispatched
  rw [← hdispatch] at hok
  obtain ⟨found, output, codec, label, body, hfound, hnegotiate, -, hrespond⟩ :=
    HttpDispatcher.exists_respond_of_status hok
  cases hmethod.symm.trans hfound
  rw [htype, hshares.server, hanswered.acceptedTypes_eq hplain hshares] at hnegotiate
  obtain ⟨entry, hchosen, hlabel⟩ := CodecRegistry.exists_chooses_of_negotiate hnegotiate
  have hcodec := hcodecs codec hchosen.codec_mem
  rw [hcodec.label_eq hchosen.writes] at hlabel
  have hmedia : ClientProxy.responseMediaType call.proxy.factory response = .ok label := by
    rw [← hdispatch, hrespond, hlabel]
    exact ClientProxy.responseMediaType_respond hcodec.isPlain ..
  have hsuccess : response.status.isSuccess = true := by
    rw [← hdispatch, hok]
    rfl
  rw [hanswered.run_eq, Call.read, ClientProxy.interpret_noReader_iff hsuccess hmedia,
    hshares.factory_eq.1, CodecRegistry.readerFor?_eq_none_iff hcodecs hnegotiate]
  constructor
  · rintro ⟨hbody, hhead, hscalar⟩
    exact ⟨hhead, hscalar, hbody⟩
  · rintro ⟨hhead, hscalar, hbody⟩
    exact ⟨hbody, hhead, hscalar⟩

/-- With plain texts first, a flag that a method gives back is written as a text and not read. -/
theorem unreadable_iff_flag :
    let codecs : CodecRegistry := ⟨[.text, .json false]⟩
    let echo : RpcMethod := ⟨"echo", 1, "T", "bool", some fun input => return .value input⟩
    let dispatcher : HttpDispatcher := ⟨⟨[echo]⟩, codecs, .default⟩
    let world : World := { World.initial with links := [⟨0, false⟩] }
    (∀ codec ∈ codecs.codecs, BuiltIn codec) ∧ ∃ (call : Call) (received : Request) (there : World)
      (response : Response),
      call.Shares dispatcher codecs ∧ call.Answered dispatcher none world received there response ∧
      dispatcher.method? received = some echo ∧ call.typeName = "bool" ∧ response.status = .ok ∧
      ∃ name text, (call.run none world).1 = .error (.media (.noReader name text)) := by
  intro codecs echo dispatcher world
  have hcodecs : ∀ codec ∈ codecs.codecs, BuiltIn codec :=
    List.forall_mem_cons.2 ⟨.text, List.forall_mem_singleton.2 (.json false)⟩
  have hplain : ∀ codec ∈ codecs.codecs, codec.mediaType.IsPlain :=
    fun codec hcodec => (hcodecs codec hcodec).isPlain
  have hjson : MediaType.json.accepts .json = true := MediaType.accepts_self .json
  have hother : MediaType.plainText.accepts .json ≠ true := by
    rw [MediaType.accepts_plainText_json]
    exact Bool.false_ne_true
  have hwriter : codecs.writerFor? "bool" .json = some (.json false) :=
    (List.find?_cons_of_neg (by exact fun h => hother (Codec.canWrite_text_iff.1 h).1)).trans
      (List.find?_cons_of_pos hjson)
  have hreader : codecs.readerFor? "T" .json = some (.json false) :=
    (List.find?_cons_of_neg (by exact fun h => hother (Codec.canRead_text_iff.1 h).1)).trans
      (List.find?_cons_of_pos hjson)
  obtain ⟨call, received, there, response, hshares, hanswered, htype, -, -, -, hfound, hprepare⟩ :=
    Call.exists_answered codecs echo (.bool true) rfl MediaType.isPlain_json hplain
      (by decide +kernel) rfl hwriter rfl (by decide +kernel)
      (HttpDispatcher.decode_of_read hreader Json.readable_true.body_isEmpty
        (Codec.read_write_json Json.readable_true))
      (rfl : world.IsOpen 0) "bool" .bool
  -- The flag is written as a text, since that codec comes first and writes scalars.
  have hnegotiate : codecs.negotiate "bool" (HttpDispatcher.acceptedTypes received.headers) =
      .ok (.text, .plainText) := by
    rw [hanswered.acceptedTypes_eq hplain hshares]
    exact CodecRegistry.negotiate_acceptHeader_of_head hcodecs rfl (by decide +kernel)
  have hanswer : dispatcher.answer received echo (.value (.bool true)) =
      .ok (.plainText, Text.Utf8.encodeString "true") := by
    show dispatcher.encode echo _ (.bool true) = _
    have hchosen : dispatcher.codecs.negotiate echo.outputType
      (HttpDispatcher.acceptedTypes received.headers) = .ok (.text, .plainText) := hnegotiate
    rw [HttpDispatcher.encode, hchosen]
    rfl
  have hresponse := hanswered.response_eq hprepare rfl rfl
  rw [hanswer] at hresponse
  have hok : response.status = .ok := by
    rw [hresponse]
    rfl
  have hbody : response.body ≠ [] := by
    rw [hresponse]
    exact (by decide : Text.Utf8.encodeString "true" ≠ [])
  refine ⟨hcodecs, call, received, there, response, hshares, hanswered, hfound, htype, hok, ?_⟩
  exact ((unreadable_iff hcodecs).2 call dispatcher none world there received response echo hshares
    hanswered hfound htype.symm hok).2 ⟨rfl, by rw [htype]; decide, hbody⟩

/-- With plain texts first, a server writes an integer for a client that has no reader for it. -/
theorem unreadable_integer :
    let codecs : CodecRegistry := ⟨[.text, .json false]⟩
    (∀ codec ∈ codecs.codecs, BuiltIn codec) ∧
      codecs.negotiate "i64" (MediaType.parseAccept codecs.acceptHeader) =
        .ok (.text, .plainText) ∧
      codecs.readerFor? "i64" .plainText = none := by
  intro codecs
  have hcodecs : ∀ codec ∈ codecs.codecs, BuiltIn codec :=
    List.forall_mem_cons.2 ⟨.text, List.forall_mem_singleton.2 (.json false)⟩
  have hnegotiate : codecs.negotiate "i64" (MediaType.parseAccept codecs.acceptHeader) =
      .ok (.text, .plainText) :=
    CodecRegistry.negotiate_acceptHeader_of_head hcodecs rfl (by decide +kernel)
  exact ⟨hcodecs, hnegotiate,
    (CodecRegistry.readerFor?_eq_none_iff hcodecs hnegotiate).2 ⟨rfl, by decide⟩⟩

end HttpRpc
