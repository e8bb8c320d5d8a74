import HttpRpc.Proofs.Codec.Default
import HttpRpc.Proofs.Media.Type

/-!
# Which codec writes

A registry is asked for a writer of a type in a list of accepted media types. It takes the first
accepted one that some codec writes the type as, and the first codec that does (`Chooses`), or there
is none at all (`negotiate_cases`). The label of an ordinary codec says what it writes and is one
that was accepted (`IsOrdinary.labels`).
-/

namespace HttpRpc

/-! ## Choice -/

namespace CodecRegistry

variable {registry : CodecRegistry} {typeName : String} {accepted : List MediaType}
  {entry : MediaType} {codec : Codec}

/-- No codec writes values of the named type as any of the accepted media types. -/
def HasNoWriter (registry : CodecRegistry) (typeName : String) (accepted : List MediaType) : Prop :=
  ∀ entry ∈ accepted, ∀ codec ∈ registry.codecs, codec.canWrite typeName entry = false

/-- The first accepted media type that some codec writes values of the named type as, and the first
codec that does. -/
structure Chooses (registry : CodecRegistry) (typeName : String) (accepted : List MediaType)
    (entry : MediaType) (codec : Codec) : Prop where
  writes : codec.canWrite typeName entry = true
  entry_first : ∃ before behind, accepted = before ++ entry :: behind ∧
    registry.HasNoWriter typeName before
  codec_first : ∃ before behind, registry.codecs = before ++ codec :: behind ∧
    ∀ earlier ∈ before, earlier.canWrite typeName entry = false

/-- The codec that is chosen is one of the registry. -/
theorem Chooses.codec_mem (h : registry.Chooses typeName accepted entry codec) :
    codec ∈ registry.codecs := by
  obtain ⟨before, behind, hcodecs, -⟩ := h.codec_first
  rw [hcodecs]
  exact List.mem_append_right before List.mem_cons_self

/-- The media type that is chosen is an accepted one. -/
theorem Chooses.entry_mem (h : registry.Chooses typeName accepted entry codec) :
    entry ∈ accepted := by
  obtain ⟨before, behind, haccepted, -⟩ := h.entry_first
  rw [haccepted]
  exact List.mem_append_right before List.mem_cons_self

/-- The first codec that writes is found, or there is none. -/
theorem writerFor?_cases (registry : CodecRegistry) (typeName : String) (entry : MediaType) :
    (registry.HasNoWriter typeName [entry] ∧ registry.writerFor? typeName entry = none) ∨
    ∃ codec, registry.Chooses typeName [entry] entry codec ∧
      registry.writerFor? typeName entry = some codec := by
  cases hwriter : registry.writerFor? typeName entry with
  | none =>
      refine .inl ⟨fun other hother => ?_, rfl⟩
      rw [List.mem_singleton.1 hother]
      exact writerFor?_none_iff.1 hwriter
  | some codec =>
      obtain ⟨hwrites, before, behind, hcodecs, hbefore⟩ := List.find?_eq_some_iff_append.1 hwriter
      refine .inr ⟨codec, ⟨hwrites, ⟨[], [], rfl, nofun⟩, before, behind, hcodecs, ?_⟩, rfl⟩
      exact fun earlier hearlier => by simpa using hbefore earlier hearlier

/-- What is chosen behind a media type that no codec writes is chosen with it. -/
theorem Chooses.cons (h : registry.Chooses typeName accepted entry codec) {first : MediaType}
    (hfirst : registry.HasNoWriter typeName [first]) :
    registry.Chooses typeName (first :: accepted) entry codec := by
  obtain ⟨before, behind, haccepted, hbefore⟩ := h.entry_first
  refine ⟨h.writes, ⟨first :: before, behind, by rw [haccepted]; rfl, ?_⟩, h.codec_first⟩
  exact List.forall_mem_cons.2 ⟨hfirst first (List.mem_singleton_self first), hbefore⟩

/-- What is chosen for a media type is chosen before all others. -/
theorem Chooses.append (h : registry.Chooses typeName [entry] entry codec)
    (others : List MediaType) : registry.Chooses typeName (entry :: others) entry codec :=
  ⟨h.writes, ⟨[], others, rfl, nofun⟩, h.codec_first⟩

/-- A writer is found exactly where one is to be chosen. -/
theorem negotiate?_cases (registry : CodecRegistry) (typeName : String)
    (accepted : List MediaType) :
    (registry.HasNoWriter typeName accepted ∧ registry.negotiate? typeName accepted = none) ∨
    ∃ entry codec, registry.Chooses typeName accepted entry codec ∧
      registry.negotiate? typeName accepted = some (codec, label codec entry) := by
  induction accepted with
  | nil => exact .inl ⟨nofun, rfl⟩
  | cons first rest ih =>
      unfold negotiate?
      rcases writerFor?_cases registry typeName first with
        ⟨hfirst, hwriter⟩ | ⟨codec, hchosen, hwriter⟩
      · rw [hwriter]
        rcases ih with ⟨hnone, hrest⟩ | ⟨entry, codec, hchosen, hrest⟩
        · refine .inl ⟨List.forall_mem_cons.2 ⟨?_, hnone⟩, hrest⟩
          exact hfirst first (List.mem_singleton_self first)
        · exact .inr ⟨entry, codec, hchosen.cons hfirst, hrest⟩
      · rw [hwriter]
        exact .inr ⟨first, codec, hchosen.append rest, rfl⟩

/-- Negotiation fails exactly where there is no writer, and else it labels the choice. -/
theorem negotiate_cases (registry : CodecRegistry) (typeName : String)
    (accepted : List MediaType) :
    (registry.HasNoWriter typeName accepted ∧
      registry.negotiate typeName accepted =
        .error (.noWriter typeName (MediaType.renderList accepted))) ∨
    ∃ entry codec, registry.Chooses typeName accepted entry codec ∧
      registry.negotiate typeName accepted = .ok (codec, label codec entry) := by
  unfold negotiate
  rcases negotiate?_cases registry typeName accepted with
    ⟨hnone, hnegotiate⟩ | ⟨entry, codec, hchosen, hnegotiate⟩
  · rw [hnegotiate]
    exact .inl ⟨hnone, rfl⟩
  · rw [hnegotiate]
    exact .inr ⟨entry, codec, hchosen, rfl⟩

/-- Media types that no codec writes are passed over. -/
theorem negotiate?_append {before : List MediaType} (h : registry.HasNoWriter typeName before)
    (rest : List MediaType) :
    registry.negotiate? typeName (before ++ rest) = registry.negotiate? typeName rest := by
  induction before with
  | nil => rfl
  | cons first before ih =>
      obtain ⟨hfirst, hbefore⟩ := List.forall_mem_cons.1 h
      rw [List.cons_append, negotiate?, writerFor?_none_iff.2 hfirst]
      exact ih hbefore

/-- What is to be chosen is negotiated. -/
theorem Chooses.negotiate_eq (h : registry.Chooses typeName accepted entry codec) :
    registry.negotiate typeName accepted = .ok (codec, label codec entry) := by
  obtain ⟨before, behind, rfl, hbefore⟩ := h.entry_first
  obtain ⟨earlier, later, hcodecs, hearlier⟩ := h.codec_first
  have hwriter : registry.writerFor? typeName entry = some codec :=
    List.find?_eq_some_iff_append.2
      ⟨h.writes, earlier, later, hcodecs, fun other hother => by rw [hearlier other hother]; rfl⟩
  rw [negotiate, negotiate?_append hbefore, negotiate?, hwriter]

/-- What is negotiated is the label of a choice. -/
theorem exists_chooses_of_negotiate {media : MediaType}
    (h : registry.negotiate typeName accepted = .ok (codec, media)) :
    ∃ entry, registry.Chooses typeName accepted entry codec ∧ media = label codec entry := by
  rcases negotiate_cases registry typeName accepted with
    ⟨-, hnegotiate⟩ | ⟨entry, chosen, hchosen, hnegotiate⟩
  · rw [hnegotiate] at h
    cases h
  · rw [hnegotiate] at h
    cases h
    exact ⟨entry, hchosen, rfl⟩

end CodecRegistry

/-! ## Labels -/

namespace Codec

variable {codec : Codec} {entry : MediaType}

/-- A codec with a concrete media type that may be the value of a header. It is for the media types
that agree with its own, and writes values of certain types as these. -/
structure IsOrdinary (codec : Codec) : Prop where
  made : codec.mediaType.Made
  concrete : codec.mediaType.isWildcard = false
  isStated : codec.mediaType.IsStated
  supports_eq : codec.supports = codec.mediaType.accepts
  canWrite_eq : ∃ serves : String → Bool, ∀ typeName media,
    codec.canWrite typeName media = (codec.supports media && serves typeName)

/-- The label says truthfully what a codec writes for an accepted media type. -/
structure Labels (codec : Codec) (entry label : MediaType) : Prop where
  concrete : label.isWildcard = false
  params_eq_nil : entry.isWildcard = false → label.params = []
  accepted : label.accepts entry = true
  main_eq : label.main = codec.mediaType.main
  sub_eq : label.sub = codec.mediaType.sub

/-- The codec of JSON is ordinary and serves all types. -/
theorem isOrdinary_json (pretty : Bool) : (json pretty).IsOrdinary where
  made := .new "application" "json"
  concrete := MediaType.isWildcard_json
  isStated := ⟨_, MediaType.ofString?_json⟩
  supports_eq := rfl
  canWrite_eq := ⟨fun _ => true, fun _ _ => (Bool.and_true _).symm⟩

/-- The codec of plain texts is ordinary and serves strings and scalars. -/
theorem isOrdinary_text : text.IsOrdinary where
  made := .new "text" "plain"
  concrete := MediaType.isWildcard_plainText
  isStated := MediaType.isPlain_plainText.hasTokens.isStated rfl
  supports_eq := rfl
  canWrite_eq := ⟨_, fun _ _ => rfl⟩

/-- An ordinary codec writes only as media types that agree with its own. -/
theorem IsOrdinary.accepts_of_canWrite (h : codec.IsOrdinary) {typeName : String}
    (hwrites : codec.canWrite typeName entry = true) : codec.mediaType.accepts entry = true := by
  obtain ⟨serves, hserves⟩ := h.canWrite_eq
  rw [hserves, Bool.and_eq_true, h.supports_eq] at hwrites
  exact hwrites.1

/-- An ordinary codec is labelled truthfully whatever it writes. -/
theorem IsOrdinary.labels (h : codec.IsOrdinary) {typeName : String}
    (hwrites : codec.canWrite typeName entry = true) :
    codec.Labels entry (CodecRegistry.label codec entry) := by
  have haccepts := h.accepts_of_canWrite hwrites
  unfold CodecRegistry.label
  by_cases hwildcard : entry.isWildcard = true
  · rw [if_pos hwildcard]
    exact ⟨h.concrete, fun hentry => absurd hwildcard (Bool.eq_false_iff.1 hentry), haccepts, rfl,
      rfl⟩
  · -- The accepted media type is the codec's own, so lowering its letters changes nothing.
    rw [if_neg hwildcard]
    have hentry := Bool.eq_false_iff.2 hwildcard
    obtain ⟨hmain, hsub⟩ := (MediaType.accepts_iff_of_concrete h.concrete hentry).1 haccepts
    have hlabel : entry.withoutParams = ⟨codec.mediaType.main, codec.mediaType.sub, []⟩ := by
      rw [MediaType.withoutParams, MediaType.new, hmain, hsub, h.made.toLower_eq.1,
        h.made.toLower_eq.2]
    rw [hlabel]
    exact ⟨h.concrete, fun _ => rfl, haccepts, rfl, rfl⟩

/-- An ordinary codec without parameters is labelled with its own media type whatever it writes. -/
theorem IsOrdinary.label_eq (h : codec.IsOrdinary) (hparams : codec.mediaType.params = [])
    {typeName : String} (hwrites : codec.canWrite typeName entry = true) :
    CodecRegistry.label codec entry = codec.mediaType := by
  have hlabels := h.labels hwrites
  by_cases hwildcard : entry.isWildcard = true
  · rw [CodecRegistry.label, if_pos hwildcard]
  · have hnone := hlabels.params_eq_nil (Bool.eq_false_iff.2 hwildcard)
    rcases hlabel : CodecRegistry.label codec entry with ⟨main, sub, params⟩
    rcases hown : codec.mediaType with ⟨ownMain, ownSub, ownParams⟩
    rw [hlabel] at hlabels hnone
    rw [MediaType.mk.injEq]
    refine ⟨hlabels.main_eq.trans ?_, hlabels.sub_eq.trans ?_, hnone.trans ?_⟩
    · rw [hown]
    · rw [hown]
    · rw [hown] at hparams
      exact hparams.symm

/-- The label of a codec may be the value of a header, if its media type may and the accepted one is
of tokens. -/
theorem isStated_label (hcodec : codec.mediaType.IsStated) (hentry : entry.HasTokens) :
    (CodecRegistry.label codec entry).IsStated := by
  unfold CodecRegistry.label
  split
  · exact hcodec
  · exact hentry.withoutParams.isStated rfl

end Codec

end HttpRpc
