import HttpRpc.Proofs.Codec.Negotiation
import HttpRpc.Proofs.Media.Accept

/-!
# Refused media types

A list of accepted media types may refuse one, by a preference of zero. What is refused is left out
of the list before a codec is looked for, so nothing tells it from what is not listed at all: a
wildcard beside it that is accepted stands for it too. A refused media type is sent exactly where
the choice falls on a wildcard and on a codec for that media type, and a list keeps it away from all
codecs that write only what agrees with their own media types exactly if no accepted wildcard agrees
with it (`refused_sent_iff`).
-/

namespace HttpRpc

namespace MediaType

variable {media other : MediaType} {header : String}

/-- Type and subtype are the same. -/
def SameKind (media other : MediaType) : Prop :=
  media.main = other.main ∧ media.sub = other.sub

/-- The list states a concrete media type with a preference of zero, and no other entry of it is of
the same type and subtype. -/
structure Refuses (header : String) (media : MediaType) : Prop where
  concrete : media.isWildcard = false
  refused : media.quality.isPositive = false
  alone : ∃ before behind, listed header = before ++ media :: behind ∧
    ∀ other ∈ before ++ behind, ¬ other.SameKind media

/-- A media type is a wildcard or not by its type and its subtype. -/
theorem SameKind.isWildcard_eq (h : media.SameKind other) :
    media.isWildcard = other.isWildcard := by
  rw [isWildcard, isWildcard, h.1, h.2]

/-- Leaving the parameters out changes neither the type nor the subtype of what is made. -/
theorem Made.sameKind_withoutParams (h : media.Made) : media.withoutParams.SameKind media :=
  h.toLower_eq

/-- What is refused is not accepted, unless by a wildcard. -/
theorem Refuses.not_sameKind (h : Refuses header media) (hother : other ∈ parseAccept header) :
    ¬ other.SameKind media := by
  intro hsame
  obtain ⟨before, behind, hlisted, halone⟩ := h.alone
  rcases mem_parseAccept hother with rfl | ⟨hmem, hpositive⟩
  · exact absurd (hsame.isWildcard_eq.trans h.concrete) (by rw [any_eq]; decide)
  · rw [hlisted, List.mem_append, List.mem_cons] at hmem
    rcases hmem with hmem | rfl | hmem
    · exact halone other (List.mem_append_left behind hmem) hsame
    · exact Bool.noConfusion (hpositive.symm.trans h.refused)
    · exact halone other (List.mem_append_right before hmem) hsame

end MediaType

open MediaType (SameKind Refuses parseAccept)

namespace CodecRegistry

variable {registry : CodecRegistry} {typeName header : String} {media : MediaType}

/-- What is written is of a refused kind exactly if it is chosen for a wildcard and the codec is one
for that kind. -/
theorem Chooses.sameKind_label_iff {entry : MediaType} {codec : Codec}
    (hrefuses : Refuses header media)
    (h : registry.Chooses typeName (parseAccept header) entry codec) :
    (label codec entry).SameKind media ↔
      entry.isWildcard = true ∧ codec.mediaType.SameKind media := by
  unfold label
  by_cases hwildcard : entry.isWildcard = true
  · rw [if_pos hwildcard]
    exact ⟨fun hsame => ⟨hwildcard, hsame⟩, And.right⟩
  · rw [if_neg hwildcard]
    refine ⟨fun hsame => ?_, fun hentry => absurd hentry.1 hwildcard⟩
    obtain ⟨hmain, hsub⟩ := (MediaType.made_of_mem_parseAccept h.entry_mem).sameKind_withoutParams
    exact absurd ⟨hmain.symm.trans hsame.1, hsub.symm.trans hsame.2⟩
      (hrefuses.not_sameKind h.entry_mem)

/-- The codecs are for concrete media types, and write only as ones that agree with these. -/
def WritesOwn (registry : CodecRegistry) : Prop :=
  ∀ codec ∈ registry.codecs, codec.mediaType.isWildcard = false ∧
    ∀ typeName entry, codec.canWrite typeName entry = true → codec.mediaType.accepts entry = true

/-- A codec that is for what agrees with a media type, whatever it writes. -/
def sole (media : MediaType) : CodecRegistry :=
  ⟨[⟨"sole", media, media.accepts, fun _ => media.accepts, fun _ => media.accepts, Codec.readJson,
    fun value => .ok (Text.Utf8.encodeString value.compact)⟩]⟩

/-- A refused media type is sent by a codec for it where an accepted wildcard agrees with it. -/
theorem exists_negotiate_sole (hrefuses : Refuses header media) {wildcard : MediaType}
    (hmem : wildcard ∈ parseAccept header) (haccepts : media.accepts wildcard = true)
    (typeName : String) :
    ∃ codec label, (sole media).negotiate typeName (parseAccept header) = .ok (codec, label) ∧
      label.SameKind media := by
  rcases (sole media).negotiate_cases typeName (parseAccept header) with
    ⟨hnone, -⟩ | ⟨entry, codec, hchosen, hnegotiate⟩
  · have hwrites := hnone wildcard hmem _ List.mem_cons_self
    exact Bool.noConfusion (hwrites.symm.trans haccepts)
  · -- The entry that is chosen need not be that wildcard, but it is none of the refused kind.
    obtain rfl := List.mem_singleton.1 hchosen.codec_mem
    have hwildcard : entry.isWildcard = true := by
      by_contra hconcrete
      have hsame := (MediaType.accepts_iff_of_concrete hrefuses.concrete
        (Bool.eq_false_iff.2 hconcrete)).1 hchosen.writes
      exact hrefuses.not_sameKind hchosen.entry_mem hsame
    exact ⟨_, _, hnegotiate, (hchosen.sameKind_label_iff hrefuses).2 ⟨hwildcard, rfl, rfl⟩⟩

/-- A media type that a list refuses is sent exactly where the choice falls on a wildcard and on a
codec for that media type. The list keeps it away from codecs that write only what agrees with their
own media types exactly if no wildcard that it accepts agrees with the media type. -/
theorem refused_sent_iff (hrefuses : Refuses header media) :
    (∀ (registry : CodecRegistry) (typeName : String),
      (∃ codec label, registry.negotiate typeName (parseAccept header) = .ok (codec, label) ∧
        label.SameKind media) ↔
      ∃ entry codec, registry.Chooses typeName (parseAccept header) entry codec ∧
        entry.isWildcard = true ∧ codec.mediaType.SameKind media) ∧
    ((∀ (registry : CodecRegistry) (typeName : String) (codec : Codec) (label : MediaType),
      registry.WritesOwn → registry.negotiate typeName (parseAccept header) = .ok (codec, label) →
        ¬ label.SameKind media) ↔
      ∀ entry ∈ parseAccept header, entry.isWildcard = true → media.accepts entry = false) := by
  have hsent (registry : CodecRegistry) (typeName : String) :
      (∃ codec label, registry.negotiate typeName (parseAccept header) = .ok (codec, label) ∧
        label.SameKind media) ↔
      ∃ entry codec, registry.Chooses typeName (parseAccept header) entry codec ∧
        entry.isWildcard = true ∧ codec.mediaType.SameKind media := by
    constructor
    · rintro ⟨codec, label, hnegotiate, hsame⟩
      obtain ⟨entry, hchosen, rfl⟩ := exists_chooses_of_negotiate hnegotiate
      exact ⟨entry, codec, hchosen, (hchosen.sameKind_label_iff hrefuses).1 hsame⟩
    · rintro ⟨entry, codec, hchosen, hwildcard⟩
      exact ⟨codec, _, hchosen.negotiate_eq, (hchosen.sameKind_label_iff hrefuses).2 hwildcard⟩
  refine ⟨hsent, fun hnever entry hmem _ => ?_, fun hkept registry typeName codec label hown
    hnegotiate hsame => ?_⟩
  · refine Bool.eq_false_iff.2 fun haccepts => ?_
    obtain ⟨codec, label, hnegotiate, hsame⟩ :=
      exists_negotiate_sole hrefuses hmem haccepts "alloc::string::String"
    have hown : (sole media).WritesOwn :=
      List.forall_mem_singleton.2 ⟨hrefuses.concrete, fun _ _ => id⟩
    exact hnever _ _ codec label hown hnegotiate hsame
  · obtain ⟨entry, found, hchosen, hwildcard, hkind⟩ :=
      (hsent registry typeName).1 ⟨codec, label, hnegotiate, hsame⟩
    have haccepts := (hown found hchosen.codec_mem).2 typeName entry hchosen.writes
    have hfalse := hkept entry hchosen.entry_mem hwildcard
    rw [MediaType.accepts, ← hkind.1, ← hkind.2] at hfalse
    exact Bool.noConfusion (hfalse.symm.trans haccepts)

/-- Next to a wildcard for texts, JSON that is refused is not sent. -/
theorem refused_sent_iff_text :
    let header := "application/json;q=0, text/*"
    let media : MediaType := ⟨"application", "json", [("q", "0")]⟩
    Refuses header media ∧
      ∀ typeName codec label, CodecRegistry.default.negotiate typeName (parseAccept header) =
        .ok (codec, label) → ¬ label.SameKind media := by
  intro header media
  have hlisted : MediaType.listed header = [media, ⟨"text", "*", []⟩] := by decide +kernel
  have hrefuses : Refuses header media := by
    refine ⟨by decide +kernel, by decide +kernel, [], _, hlisted, ?_⟩
    exact List.forall_mem_singleton.2 fun hsame => absurd hsame.1 (by decide)
  have haccepted : parseAccept header = [⟨"text", "*", []⟩] := by decide +kernel
  have hown : CodecRegistry.default.WritesOwn :=
    List.forall_mem_cons.2 ⟨⟨MediaType.isWildcard_json, fun _ _ => id⟩,
      List.forall_mem_singleton.2 ⟨MediaType.isWildcard_plainText, fun typeName entry hwrites =>
        Codec.isOrdinary_text.accepts_of_canWrite hwrites⟩⟩
  refine ⟨hrefuses, fun typeName codec label => (refused_sent_iff hrefuses).2.2 ?_ _ typeName codec
    label hown⟩
  rw [haccepted]
  exact List.forall_mem_singleton.2 fun _ => by decide

/-- Next to a wildcard for everything, JSON that is refused is sent. -/
theorem refused_sent_any :
    let header := "application/json;q=0, */*"
    let media : MediaType := ⟨"application", "json", [("q", "0")]⟩
    Refuses header media ∧
      CodecRegistry.default.negotiate "alloc::string::String" (parseAccept header) =
        .ok (.json false, .json) ∧
      MediaType.json.SameKind media := by
  intro header media
  have hlisted : MediaType.listed header = [media, .any] := by decide +kernel
  have hrefuses : Refuses header media := by
    refine ⟨by decide +kernel, by decide +kernel, [], _, hlisted, ?_⟩
    exact List.forall_mem_singleton.2 fun hsame => absurd hsame.1 (by decide +kernel)
  have haccepted : parseAccept header = [.any] := by decide +kernel
  have hchosen : CodecRegistry.default.Chooses "alloc::string::String" [.any] .any (.json false) :=
    ⟨by decide +kernel, ⟨[], [], rfl, nofun⟩, [], [.text], rfl, nofun⟩
  refine ⟨hrefuses, ?_, by decide +kernel, by decide +kernel⟩
  have hlabel : label (.json false) .any = .json := by decide +kernel
  rw [haccepted, hchosen.negotiate_eq, hlabel]

end CodecRegistry

end HttpRpc
