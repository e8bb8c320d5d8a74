import HttpRpc.Proofs.Codec.BuiltIn
import HttpRpc.Proofs.Media.Preference

/-!
# Lists of accepted media types in order of preference

A list of media types is read in falling order of preference (`MediaType.parseAccept_decided`). The
list of a client, whose media types are all preferred equally, is therefore read in the order in
which its codecs are tried, each media type once (`CodecRegistry.readableMediaTypes_spec`).
-/

namespace HttpRpc

open HttpRpc.Text

/-- A client lists the media types of its codecs, each once, in the order of the codecs. -/
theorem CodecRegistry.readableMediaTypes_spec (codecs : CodecRegistry) :
    codecs.readableMediaTypes.Nodup ∧
      (∀ media, media ∈ codecs.readableMediaTypes ↔
        ∃ codec ∈ codecs.codecs, codec.mediaType = media) ∧
      codecs.readableMediaTypes.Pairwise fun media later =>
        (codecs.codecs.map Codec.mediaType).idxOf media <
          (codecs.codecs.map Codec.mediaType).idxOf later := by
  refine ⟨nodup_eraseDups _, fun media => ?_, pairwise_eraseDups _⟩
  rw [readableMediaTypes, List.mem_eraseDups, List.mem_map]

namespace MediaType

/-- A concrete media type without parameters that is read from some text is plain. -/
theorem isPlain_of_parse {media : MediaType} {text : String} (hconcrete : media.isWildcard = false)
    (hparams : media.params = []) (h : parse text = .ok media) : media.IsPlain := by
  have hparse := parse_eq_ok_iff.1 h
  exact ⟨made_of_parse? hparse, hasTokens_of_parse? hparse, hconcrete, hparams⟩

/-- A blank list accepts anything. Any other list accepts what it states between its commas with a
preference above zero, each as often as it is stated, in falling order of preference, and equally
preferred ones in the order of the list; so it accepts nothing if it states nothing of the kind. The
list of a client whose codecs have concrete media types without parameters that may be read is read
as the media types of the codecs, each once, in the order of the codecs. -/
theorem parseAccept_decided :
    (∀ header : String,
      (trim header.toList = [] → parseAccept header = [any]) ∧
      (trim header.toList ≠ [] →
        let entries := (listed header).filter fun media => 0 < media.preference
        (parseAccept header).Perm entries ∧
        (parseAccept header).Pairwise (fun media later => later.preference ≤ media.preference) ∧
        (∀ x, (parseAccept header).filter (fun media => media.preference = x) =
          entries.filter fun media => media.preference = x) ∧
        (entries = [] → parseAccept header = []))) ∧
    ∀ codecs : CodecRegistry, codecs.codecs ≠ [] →
      (∀ codec ∈ codecs.codecs, codec.mediaType.isWildcard = false ∧
        codec.mediaType.params = [] ∧ ∃ text, parse text = .ok codec.mediaType) →
      parseAccept codecs.acceptHeader = codecs.readableMediaTypes ∧
        codecs.readableMediaTypes.Nodup ∧
        (∀ media, media ∈ codecs.readableMediaTypes ↔
          ∃ codec ∈ codecs.codecs, codec.mediaType = media) ∧
        codecs.readableMediaTypes.Pairwise fun media later =>
          (codecs.codecs.map Codec.mediaType).idxOf media <
            (codecs.codecs.map Codec.mediaType).idxOf later := by
  refine ⟨fun header => ⟨fun h => (parseAccept_of_blank h).2, fun h => ?_⟩,
    fun codecs hne hread => ?_⟩
  · rw [← usable_eq]
    refine ⟨perm_parseAccept h, pairwise_parseAccept h, filter_parseAccept h, fun hnone => ?_⟩
    have hperm := perm_parseAccept h
    rw [hnone] at hperm
    exact hperm.eq_nil
  · refine ⟨CodecRegistry.parseAccept_acceptHeader_of_isPlain hne fun codec hcodec => ?_,
      codecs.readableMediaTypes_spec⟩
    obtain ⟨hconcrete, hparams, text, htext⟩ := hread codec hcodec
    exact isPlain_of_parse hconcrete hparams htext

/-- A list with a blank entry, one that is no media type, one that is refused by a negative zero,
and one whose preference is no number; and the list of a client with the built-in codecs. -/
theorem parseAccept_decided_ties :
    let header := "a/b;q=0.5, c/d, , e, f/g;q=-0.0, h/i;q=nan"
    let half : MediaType := ⟨"a", "b", [("q", "0.5")]⟩
    let first : MediaType := ⟨"c", "d", []⟩
    let second : MediaType := ⟨"h", "i", [("q", "nan")]⟩
    trim header.toList ≠ [] ∧ (parseAccept header).Perm [half, first, second] ∧
      (parseAccept header).Pairwise (fun media later => later.preference ≤ media.preference) ∧
      (parseAccept header).filter (fun media => media.preference = 1) = [first, second] ∧
      CodecRegistry.default.codecs ≠ [] ∧
      parseAccept CodecRegistry.default.acceptHeader = [json, plainText] := by
  intro header half first second
  have hblank : trim header.toList ≠ [] := by decide
  have hentries : ((listed header).filter fun media => 0 < media.preference) =
      [half, first, second] := by
    rw [← usable_eq]
    decide +kernel
  have hone {media : MediaType} (h : media.quality = .one) : media.preference = 1 := by
    rw [← value_quality, h, Quality.value_one]
  have hhalf : half.preference ≠ 1 := by
    have hquality : half.quality = ⟨0x3F000000⟩ := by decide +kernel
    have hcode : Number.binary32.ofCode (0x3F000000 % (UInt32.size / 2)) = ⟨8388608, -24⟩ := by
      decide
    rw [← value_quality, hquality, Quality.value, hcode]
    norm_num [Number.Magnitude.value]
  obtain ⟨hperm, hpairs, hties, -⟩ := (parseAccept_decided.1 header).2 hblank
  have hne : CodecRegistry.default.codecs ≠ [] := List.cons_ne_nil _ _
  have hdefault := (parseAccept_decided.2 .default hne fun codec hcodec => ?_).1
  · rw [hentries] at hperm hties
    refine ⟨hblank, hperm, hpairs, (hties 1).trans ?_, hne,
      hdefault.trans CodecRegistry.readableMediaTypes_default⟩
    simp [hhalf, hone (by decide +kernel : first.quality = .one),
      hone (by decide +kernel : second.quality = .one)]
  · have hplain := CodecRegistry.isPlain_default codec.mediaType
      (((CodecRegistry.readableMediaTypes_spec .default).2.1 _).2 ⟨codec, hcodec, rfl⟩)
    exact ⟨hplain.concrete, hplain.params_eq, codec.mediaType.render, by
      rw [parse, hplain.parse?_render]⟩

end MediaType

end HttpRpc
