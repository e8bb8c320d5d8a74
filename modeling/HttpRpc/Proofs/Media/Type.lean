import HttpRpc.Media.Type
import HttpRpc.Proofs.Http.Header
import HttpRpc.Proofs.Text.Letter
import HttpRpc.Proofs.Text.Split

/-!
# Media types that are made

A media type is made of a type and a subtype and gets its parameters one by one (`Made`), so its
type and subtype are in small letters; those that are read are made in this way (`made_of_parse?`).
The type and subtype of one that is read are tokens (`hasTokens_of_parse?`), so that it may be the
value of a header once its parameters are left out (`HasTokens.isStated`).
-/

namespace HttpRpc

open HttpRpc.Text

namespace MediaType

variable {media other : MediaType} {text : List Char}

/-! ## Tokens -/

/-- The characters of tokens are visible. -/
theorem toNat_of_isTokenChar {c : Char} (h : isTokenChar c = true) :
    32 < c.toNat ∧ c.toNat < 127 := by
  rw [isTokenChar, Bool.or_eq_true] at h
  rcases h with h | h
  · simp only [isAlphanumeric, isLetter, isDigit, Bool.or_eq_true, Bool.and_eq_true,
      decide_eq_true_eq] at h
    omega
  · have hmarks : ['!', '#', '$', '&', '-', '^', '_', '.', '+', '*'].all
        (fun c => decide (32 < c.toNat ∧ c.toNat < 127)) = true := by decide
    exact of_decide_eq_true (List.all_eq_true.1 hmarks c (List.contains_iff_mem.1 h))

/-- The characters of tokens are no blanks. -/
theorem isBlank_of_isTokenChar {c : Char} (h : isTokenChar c = true) : isBlank c = false :=
  forall_char_of_lt (fun c => 32 < c.toNat → isBlank c = false) (by decide)
    (toNat_of_isTokenChar h).2 (toNat_of_isTokenChar h).1

/-- A token is made of its characters. -/
theorem isTokenChar_of_isToken {token : List Char} (h : isToken token = true) {c : Char}
    (hc : c ∈ token) : isTokenChar c = true := by
  rw [isToken, Bool.and_eq_true, List.all_eq_true] at h
  exact h.2 c hc

/-- A character that may not occur in a token does not occur in one. -/
theorem not_mem_of_isToken {token : List Char} (h : isToken token = true) {c : Char}
    (hc : isTokenChar c = false) : c ∉ token := fun hmem =>
  Bool.eq_false_iff.1 hc (isTokenChar_of_isToken h hmem)

/-- A token in small letters is a token. -/
theorem isToken_toLower {token : String} (h : isToken token.toList = true) :
    isToken token.toLower.toList = true := by
  simp only [isToken, Bool.and_eq_true, Bool.not_eq_true', List.isEmpty_eq_false_iff,
    List.all_eq_true, toList_toLower, ne_eq, List.map_eq_nil_iff, List.forall_mem_map] at h ⊢
  refine ⟨h.1, fun c hc => ?_⟩
  have hsmall := forall_char_of_lt (fun c => isTokenChar c = true → isTokenChar c.toLower = true)
    (by decide) (toNat_of_isTokenChar (h.2 c hc)).2
  exact hsmall (h.2 c hc)

/-! ## Texts of media types -/

/-- A media type without parameters is read from two tokens with a slash between them, and the type
matches every other one only if the subtype does. -/
theorem parseEssence?_eq_some_iff :
    parseEssence? text = some media ↔
      ∃ main sub, trim text = main ++ '/' :: sub ∧ isToken main = true ∧ isToken sub = true ∧
        (main = ['*'] → sub = ['*']) ∧ media = .new (String.ofList main) (String.ofList sub) := by
  unfold parseEssence?
  constructor
  · intro h
    split at h
    · cases h
    split at h
    · next main sub hcut htokens =>
        cases h
        rw [Bool.and_eq_true, Bool.and_eq_true, Bool.or_eq_true, bne_iff_ne, beq_iff_eq] at htokens
        obtain ⟨⟨hmain, hsub⟩, hsingle⟩ := htokens
        exact ⟨main, sub, eq_of_splitOnce hcut, hmain, hsub,
          fun hstar => hsingle.resolve_left (absurd hstar), rfl⟩
    · cases h
  · rintro ⟨main, sub, htext, hmain, hsub, hsingle, rfl⟩
    rw [htext, splitOnce_append (not_mem_of_isToken hmain (by decide))]
    simp only [hmain, hsub, Bool.true_and, Bool.or_eq_true, bne_iff_ne, ne_eq, beq_iff_eq,
      not_or_of_imp hsingle, if_true]

/-- The value that the text behind the name of a parameter states: blanks around it are left out,
and then quotes. -/
def unquoted (text : List Char) : List Char :=
  trimMatches (· == '"') (trim text)

/-- The text before and behind the first equals sign is read as the name and the value of a
parameter, if it names one. -/
theorem addParam?_append {name : List Char} (h : '=' ∉ name) (value : List Char) :
    addParam? media (name ++ '=' :: value) =
      if isToken (trim name) = true then
        some (media.withParam (String.ofList (trim name)) (String.ofList (unquoted value)))
      else none := by
  have htrim : trim (name ++ '=' :: value) =
      name.dropWhile isBlank ++ '=' :: dropWhileEnd isBlank value :=
    trimMatches_append_cons (by decide) name value
  have hname : '=' ∉ name.dropWhile isBlank := fun hmem =>
    h ((List.dropWhile_suffix isBlank).subset hmem)
  have hne : (name.dropWhile isBlank ++ '=' :: dropWhileEnd isBlank value).isEmpty = false := by
    rw [List.isEmpty_eq_false_iff]
    simp
  have htrimName : trim (name.dropWhile isBlank) = trim name := trimMatches_dropWhile isBlank name
  have htrimValue : trim (dropWhileEnd isBlank value) = trim value :=
    trimMatches_dropWhileEnd isBlank value
  rw [addParam?, htrim]
  simp only [hne, splitOnce_append hname, htrimName, htrimValue, Bool.false_eq_true, if_false,
    unquoted]

/-- A text without an equals sign states nothing, and only if it is blank. -/
theorem addParam?_of_not_mem (h : '=' ∉ text) :
    addParam? media text = if trim text = [] then some media else none := by
  rw [addParam?]
  by_cases hblank : trim text = []
  · simp only [hblank, List.isEmpty_nil, if_true]
  · have hcut : splitOnce '=' (trim text) = none := splitOnce_eq_none fun hmem =>
      h (mem_of_mem_trim hmem)
    simp only [hcut, List.isEmpty_iff, hblank, if_false]

/-- The text behind a media type is blank, or it sets a parameter: it is a token between blanks, an
equals sign, and anything as the value. -/
theorem addParam?_eq_some_iff :
    addParam? media text = some other ↔
      (trim text = [] ∧ other = media) ∨
        ∃ name value, text = name ++ '=' :: value ∧ isToken (trim name) = true ∧
          other = media.withParam (String.ofList (trim name)) (String.ofList (unquoted value)) := by
  constructor
  · intro h
    by_cases hequals : '=' ∈ text
    · obtain ⟨name, value, rfl, hname⟩ := List.eq_append_cons_of_mem hequals
      rw [addParam?_append hname, Option.ite_none_right_eq_some] at h
      obtain ⟨htoken, hother⟩ := h
      exact .inr ⟨name, value, rfl, htoken, (Option.some.inj hother).symm⟩
    · rw [addParam?_of_not_mem hequals, Option.ite_none_right_eq_some] at h
      exact .inl ⟨h.1, (Option.some.inj h.2).symm⟩
  · rintro (⟨hblank, rfl⟩ | ⟨name, value, rfl, htoken, rfl⟩)
    · have hequals : '=' ∉ text := fun hmem =>
        List.not_mem_nil (hblank ▸ (mem_trim_iff (by decide)).2 hmem)
      rw [addParam?_of_not_mem hequals, if_pos hblank]
    · have hname : '=' ∉ name := fun hmem =>
        not_mem_of_isToken htoken (by decide) ((mem_trim_iff (by decide)).2 hmem)
      rw [addParam?_append hname, if_pos htoken]

/-! ## Making media types -/

/-- The media types that can be made: of a type and a subtype, and with parameters. -/
inductive Made : MediaType → Prop where
  | new (main sub : String) : Made (.new main sub)
  | withParam {media : MediaType} (h : Made media) (name value : String) :
      Made (media.withParam name value)

/-- The parameter that is set is the only one that is new. -/
theorem mem_withParam {name value : String} {param : String × String}
    (h : param ∈ (media.withParam name value).params) :
    param ∈ media.params ∨ param = (name.toLower, value) := by
  rcases List.mem_append.1 h with hkept | hset
  · exact .inl (List.mem_filter.1 hkept).1
  · exact .inr (List.mem_singleton.1 hset)

/-- A parameter that is set is the only one of its name. -/
theorem nodup_withParam (h : (media.params.map Prod.fst).Nodup) (name value : String) :
    ((media.withParam name value).params.map Prod.fst).Nodup := by
  show (List.map Prod.fst (_ ++ [_])).Nodup
  rw [List.map_append, List.map_singleton, List.nodup_append]
  refine ⟨h.sublist (List.filter_sublist.map _), List.pairwise_singleton _ _, ?_⟩
  intro kept hkept last hlast heq
  obtain ⟨param, hparam, rfl⟩ := List.mem_map.1 hkept
  have hother := (List.mem_filter.1 hparam).2
  rw [heq, List.mem_singleton.1 hlast, bne_self_eq_false] at hother
  cases hother

/-- Types and subtypes are made in small letters. -/
theorem Made.toLower_eq (h : media.Made) :
    media.main.toLower = media.main ∧ media.sub.toLower = media.sub := by
  induction h with
  | new main sub => exact ⟨toLower_toLower main, toLower_toLower sub⟩
  | withParam h name value ih => exact ih

/-- What holds of a media type, and whatever parameters are set, holds with the parameters that are
read behind it. -/
theorem foldlM_addParam?_induction {holds : MediaType → Prop} {params : List (List Char)}
    (hparam : ∀ media name value, isToken name = true → (∃ param ∈ params, value ⊆ param) →
      holds media → holds (media.withParam (String.ofList name) (String.ofList (unquoted value))))
    (hmedia : holds media) (h : params.foldlM addParam? media = some other) : holds other := by
  induction params generalizing media with
  | nil =>
      cases h
      exact hmedia
  | cons param rest ih =>
      rw [List.foldlM_cons] at h
      obtain ⟨next, hnext, hrest⟩ := Option.bind_eq_some_iff.1 h
      refine ih (fun media name value hname hvalue => hparam media name value hname ?_) ?_ hrest
      · obtain ⟨found, hfound, hsubset⟩ := hvalue
        exact ⟨found, List.mem_cons_of_mem _ hfound, hsubset⟩
      · rcases addParam?_eq_some_iff.1 hnext with ⟨-, rfl⟩ | ⟨name, value, rfl, hname, rfl⟩
        · exact hmedia
        · refine hparam media (trim name) value hname ⟨_, List.mem_cons_self, fun c hc => ?_⟩ hmedia
          exact List.mem_append_right _ (List.mem_cons_of_mem _ hc)

/-- What holds of a type and a subtype that are tokens, and whatever parameters are set from the
text, holds of the media type that is read. -/
theorem parse?_induction {holds : MediaType → Prop}
    (hnew : ∀ main sub, isToken main = true → isToken sub = true → (main = ['*'] → sub = ['*']) →
      holds (.new (String.ofList main) (String.ofList sub)))
    (hparam : ∀ media name value, isToken name = true → value ⊆ text → ';' ∉ value →
      holds media → holds (media.withParam (String.ofList name) (String.ofList (unquoted value))))
    (h : parse? text = some media) : holds media := by
  unfold parse? at h
  split at h
  · cases h
  · next essence params hsplit =>
      obtain ⟨start, hstart, hparams⟩ := Option.bind_eq_some_iff.1 h
      obtain ⟨main, sub, -, hmain, hsub, hsingle, rfl⟩ := parseEssence?_eq_some_iff.1 hstart
      refine foldlM_addParam?_induction ?_ (hnew main sub hmain hsub hsingle) hparams
      rintro media name value hname ⟨param, hmem, hsubset⟩
      have hpart : param ∈ splitOn ';' text := hsplit ▸ List.mem_cons_of_mem _ hmem
      exact hparam media name value hname (fun c hc => mem_of_mem_splitOn hpart (hsubset hc))
        fun hsemicolon => not_mem_of_mem_splitOn hpart (hsubset hsemicolon)

/-- A text is read as the media type that it states. -/
theorem parse_eq_ok_iff {text : String} :
    parse text = .ok media ↔ parse? text.toList = some media := by
  rw [parse]
  cases parse? text.toList with
  | none => exact ⟨nofun, nofun⟩
  | some found => rw [Except.ok.injEq, Option.some_inj]

/-- A text is refused exactly if it states no media type. -/
theorem parse_eq_error_iff {text : String} {e : MediaError} :
    parse text = .error e ↔ e = .invalidMediaType text ∧ ∀ media, parse text ≠ .ok media := by
  unfold parse
  cases parse? text.toList with
  | some media => exact ⟨nofun, fun h => absurd rfl (h.2 media)⟩
  | none => exact ⟨fun h => ⟨(Except.error.inj h).symm, nofun⟩, fun h => congrArg _ h.1.symm⟩

/-- The media types that are read are made. -/
theorem made_of_parse? (h : parse? text = some media) : media.Made :=
  parse?_induction (fun _ _ _ _ _ => .new _ _) (fun _ _ _ _ _ _ h => h.withParam _ _) h

/-- A type and a subtype in small letters are kept as they are. -/
theorem new_eq {main sub : String} (hmain : main.toList.map Char.toLower = main.toList)
    (hsub : sub.toList.map Char.toLower = sub.toList) : new main sub = ⟨main, sub, []⟩ := by
  have hlower {text : String} (h : text.toList.map Char.toLower = text.toList) :
      text.toLower = text := by
    rw [← String.toList_inj, toList_toLower, h]
  rw [new, hlower hmain, hlower hsub]

/-- The type and the subtype of JSON texts. -/
theorem json_eq : json = ⟨"application", "json", []⟩ :=
  new_eq (by decide) (by decide)

/-- The type and the subtype of plain texts. -/
theorem plainText_eq : plainText = ⟨"text", "plain", []⟩ :=
  new_eq (by decide) (by decide)

/-- The type and the subtype of anything. -/
theorem any_eq : any = ⟨"*", "*", []⟩ :=
  new_eq (by decide) (by decide)

/-! ## Wildcards -/

/-- The media type of JSON texts is concrete. -/
theorem isWildcard_json : json.isWildcard = false := by
  rw [json_eq]
  decide

/-- The media type of plain texts is concrete. -/
theorem isWildcard_plainText : plainText.isWildcard = false := by
  rw [plainText_eq]
  decide

/-- A media type agrees with itself. -/
theorem accepts_self (media : MediaType) : media.accepts media = true := by
  simp [accepts, agrees]

/-- JSON texts are no plain texts. -/
theorem accepts_json_plainText : json.accepts plainText = false := by
  rw [json_eq, plainText_eq]
  decide

/-- Plain texts are no JSON texts. -/
theorem accepts_plainText_json : plainText.accepts json = false := by
  rw [json_eq, plainText_eq]
  decide

/-- A concrete media type agrees with another one exactly if type and subtype are the same. -/
theorem accepts_iff_of_concrete (h : media.isWildcard = false) (hother : other.isWildcard = false) :
    media.accepts other = true ↔ other.main = media.main ∧ other.sub = media.sub := by
  simp only [isWildcard, Bool.or_eq_false_iff] at h hother
  simp only [accepts, agrees, h.1, h.2, hother.1, hother.2, Bool.false_or, Bool.and_eq_true,
    beq_iff_eq]
  exact ⟨fun h => ⟨h.1.symm, h.2.symm⟩, fun h => ⟨h.1.symm, h.2.symm⟩⟩

/-! ## Headers -/

/-- The text of the media type may be the value of a header. -/
def IsStated (media : MediaType) : Prop :=
  ∃ value, HeaderValue.ofString? media.render = some value

/-- The type and the subtype are tokens. -/
def HasTokens (media : MediaType) : Prop :=
  isToken media.main.toList = true ∧ isToken media.sub.toList = true

/-- The media type that matches every other one is of tokens. -/
theorem hasTokens_any : any.HasTokens := by
  rw [any_eq]
  exact ⟨by decide, by decide⟩

/-- The type and the subtype of a media type that is read are tokens. -/
theorem hasTokens_of_parse? (h : parse? text = some media) : media.HasTokens :=
  parse?_induction
    (fun main sub hmain hsub _ =>
      ⟨isToken_toLower (by rwa [String.toList_ofList]),
        isToken_toLower (by rwa [String.toList_ofList])⟩)
    (fun _ _ _ _ _ _ h => h) h

/-- Tokens are left as tokens without the parameters. -/
theorem HasTokens.withoutParams (h : media.HasTokens) : media.withoutParams.HasTokens :=
  ⟨isToken_toLower h.1, isToken_toLower h.2⟩

/-- The text of a media type without parameters is its type and its subtype. -/
theorem toList_render_of_params (h : media.params = []) :
    media.render.toList = media.main.toList ++ '/' :: media.sub.toList := by
  simp [render, essence, h, String.toList_append]

/-- A type and a subtype that are tokens in small letters are read as they are written. -/
theorem HasTokens.parseEssence?_eq (h : media.HasTokens) (hmade : media.Made)
    (hsingle : media.main = wildcard → media.sub = wildcard) :
    parseEssence? (media.main.toList ++ '/' :: media.sub.toList) =
      some ⟨media.main, media.sub, []⟩ := by
  obtain ⟨hmain, hsub⟩ := h
  have hblank : ∀ c ∈ media.main.toList ++ '/' :: media.sub.toList, isBlank c = false := by
    intro c hc
    rw [List.mem_append, List.mem_cons] at hc
    rcases hc with hc | rfl | hc
    · exact isBlank_of_isTokenChar (isTokenChar_of_isToken hmain hc)
    · decide
    · exact isBlank_of_isTokenChar (isTokenChar_of_isToken hsub hc)
  have hstar : media.main.toList = ['*'] → media.sub.toList = ['*'] := fun h =>
    congrArg String.toList (hsingle (String.toList_inj.1 h))
  rw [parseEssence?, trim_eq_self hblank, splitOnce_append (not_mem_of_isToken hmain (by decide))]
  simp only [hmain, hsub, Bool.true_and, Bool.or_eq_true, bne_iff_ne, ne_eq, beq_iff_eq,
    not_or_of_imp hstar, if_true, String.ofList_toList, new, hmade.toLower_eq]

/-- Tokens alone may be the value of a header. -/
theorem HasTokens.isStated (h : media.HasTokens) (hparams : media.params = []) :
    media.IsStated := by
  have hvisible {token : String} (htoken : isToken token.toList = true) :
      ∀ c ∈ token.toList, 32 ≤ c.toNat ∧ c.toNat < 127 := by
    intro c hc
    have hrange := toNat_of_isTokenChar (isTokenChar_of_isToken htoken hc)
    exact ⟨hrange.1.le, hrange.2⟩
  obtain ⟨value, hvalue, -⟩ := HeaderValue.exists_ofString?_eq fun c hc => by
    rw [toList_render_of_params hparams, List.mem_append, List.mem_cons] at hc
    rcases hc with hc | rfl | hc
    · exact hvisible h.1 c hc
    · decide
    · exact hvisible h.2 c hc
  exact ⟨value, hvalue⟩

end MediaType

end HttpRpc
