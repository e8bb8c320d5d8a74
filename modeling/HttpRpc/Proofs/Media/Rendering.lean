import HttpRpc.Proofs.Media.Type

/-!
# Media types that are written and read again

A media type that is read has a text that is read again, as the same type and subtype with the same
parameters in their order (`ReadFrom.parse?_render`). But the text has no quotes: blanks at the ends
of a value, which are read only from between quotes, get lost. So the same media type is read again
exactly if no value begins or ends with a blank (`reread_iff`).
-/

namespace HttpRpc.MediaType

open HttpRpc.Text

variable {media : MediaType} {text : List Char}

/-! ## Media types that are read -/

/-- What is known of a media type that is read from a text: type, subtype and the names of its
parameters are tokens in small letters, each name occurs once, and the values are parts of the text
between semicolons without the blanks and quotes around them. -/
structure ReadFrom (text : List Char) (media : MediaType) : Prop where
  made : media.Made
  hasTokens : media.HasTokens
  single : media.main = wildcard → media.sub = wildcard
  nodup : (media.params.map Prod.fst).Nodup
  name : ∀ param ∈ media.params, isToken param.1.toList = true ∧ param.1.toLower = param.1
  value : ∀ param ∈ media.params, ∃ raw, raw ⊆ text ∧ ';' ∉ raw ∧ param.2.toList = unquoted raw

/-- Only the star is the star in small letters. -/
theorem eq_star_of_toLower {token : String} (h : token.toLower.toList = ['*']) :
    token.toList = ['*'] := by
  rw [toList_toLower, List.map_eq_singleton_iff] at h
  obtain ⟨c, htoken, hc⟩ := h
  have hnat := congrArg Char.toNat hc
  have hstar : '*'.toNat = 42 := rfl
  rw [toNat_toLower, hstar] at hnat
  have : c.toNat = 42 := by
    split at hnat <;> omega
  rw [htoken, ← Char.toNat_inj.1 (this.trans hstar.symm)]

/-- A type and a subtype that are tokens are read in small letters. -/
theorem readFrom_new {main sub : List Char} (hmain : isToken main = true)
    (hsub : isToken sub = true) (hsingle : main = ['*'] → sub = ['*']) :
    ReadFrom text (.new (String.ofList main) (String.ofList sub)) where
  made := .new _ _
  hasTokens := ⟨isToken_toLower (by rwa [String.toList_ofList]),
    isToken_toLower (by rwa [String.toList_ofList])⟩
  single h := by
    have hstar := eq_star_of_toLower (congrArg String.toList h)
    rw [String.toList_ofList] at hstar
    show (String.ofList sub).toLower = wildcard
    rw [hsingle hstar]
    exact congrArg MediaType.sub any_eq
  nodup := .nil
  name := nofun
  value := nofun

/-- A parameter that is set is read in small letters; one of the same name gives way. -/
theorem ReadFrom.withParam (h : ReadFrom text media) {name raw : List Char}
    (hname : isToken name = true) (hraw : raw ⊆ text) (hsemicolon : ';' ∉ raw) :
    ReadFrom text (media.withParam (String.ofList name) (String.ofList (unquoted raw))) := by
  refine ⟨h.made.withParam _ _, h.hasTokens, h.single, nodup_withParam h.nodup _ _,
    fun param hparam => ?_, fun param hparam => ?_⟩
  · rcases mem_withParam hparam with hparam | rfl
    · exact h.name param hparam
    · exact ⟨isToken_toLower (by rwa [String.toList_ofList]), toLower_toLower _⟩
  · rcases mem_withParam hparam with hparam | rfl
    · exact h.value param hparam
    · exact ⟨raw, hraw, hsemicolon, String.toList_ofList⟩

/-- What is read is read from its text. -/
theorem readFrom_of_parse? (h : parse? text = some media) : ReadFrom text media :=
  parse?_induction (fun _ _ hmain hsub hsingle => readFrom_new hmain hsub hsingle)
    (fun _ _ _ hname hvalue hsemicolon h => h.withParam hname hvalue hsemicolon) h

/-! ## Texts of media types -/

/-- A parameter in the text of a media type, behind the semicolon. -/
def writtenParam (param : String × String) : List Char :=
  ' ' :: param.1.toList ++ '=' :: param.2.toList

/-- The text of a media type is its type and subtype and each parameter behind a semicolon. -/
theorem toList_render (media : MediaType) :
    media.render.toList = (media.main.toList ++ '/' :: media.sub.toList) ++
      (media.params.map writtenParam).flatMap (';' :: ·) := by
  rw [render, essence, String.toList_append, String.toList_append, String.toList_append,
    String.toList_join, List.flatMap_map, List.flatMap_map, List.append_assoc, List.append_assoc]
  simp [writtenParam]

/-- A value without the blanks and quotes around it. -/
def bare (value : String) : String :=
  String.ofList (unquoted value.toList)

/-- The media type with its values without the blanks and quotes around them. -/
def bared (media : MediaType) : MediaType :=
  { media with params := media.params.map fun param => (param.1, bare param.2) }

/-- A parameter is read behind a media type as it is written there, but for blanks and quotes around
its value. -/
theorem addParam?_written {param : String × String} (hname : isToken param.1.toList = true) :
    addParam? media (writtenParam param) = some (media.withParam param.1 (bare param.2)) := by
  have hequals : '=' ∉ ' ' :: param.1.toList := by
    rw [List.mem_cons, not_or]
    exact ⟨by decide, not_mem_of_isToken hname (by decide)⟩
  have htrim : trim (' ' :: param.1.toList) = param.1.toList := by
    rw [trim_cons (by decide)]
    exact trim_eq_self fun c hc => isBlank_of_isTokenChar (isTokenChar_of_isToken hname hc)
  rw [writtenParam, addParam?_append hequals, htrim, if_pos hname, String.ofList_toList]
  rfl

/-- Parameters of different names are read in the order in which they are written. -/
theorem foldlM_addParam?_written {params : List (String × String)}
    (hnames : ∀ param ∈ params, isToken param.1.toList = true ∧ param.1.toLower = param.1)
    (hnodup : (media.params.map Prod.fst ++ params.map Prod.fst).Nodup) :
    (params.map writtenParam).foldlM addParam? media =
      some { media with params :=
        media.params ++ params.map fun param => (param.1, bare param.2) } := by
  induction params generalizing media with
  | nil => simp
  | cons param rest ih =>
      obtain ⟨⟨htoken, hlower⟩, hrest⟩ := List.forall_mem_cons.1 hnames
      rw [List.map_cons, List.nodup_append] at hnodup
      have hnew : media.params.filter (fun other => other.1 != param.1) = media.params := by
        rw [List.filter_eq_self]
        intro other hother
        exact bne_iff_ne.2 (hnodup.2.2 _ (List.mem_map_of_mem hother) _ List.mem_cons_self)
      have hset : media.withParam param.1 (bare param.2) =
          { media with params := media.params ++ [(param.1, bare param.2)] } := by
        rw [withParam, hlower, hnew]
      rw [List.map_cons, List.foldlM_cons, addParam?_written htoken, hset]
      refine (ih hrest ?_).trans ?_
      · rw [List.map_append, List.append_assoc, List.map_singleton, List.singleton_append,
          List.nodup_append]
        exact hnodup
      · rw [List.map_cons, List.append_assoc, List.singleton_append]

/-- A media type that was read is read from its text, but for blanks and quotes around its values.
-/
theorem ReadFrom.parse?_render (h : ReadFrom text media) :
    parse? media.render.toList = some media.bared := by
  have hsemicolon {token : List Char} (htoken : isToken token = true) : ';' ∉ token :=
    not_mem_of_isToken htoken (by decide)
  have hessence : ';' ∉ media.main.toList ++ '/' :: media.sub.toList := by
    rw [List.mem_append, List.mem_cons, not_or, not_or]
    exact ⟨hsemicolon h.hasTokens.1, by decide, hsemicolon h.hasTokens.2⟩
  have hparams : ∀ part ∈ media.params.map writtenParam, ';' ∉ part := by
    rw [List.forall_mem_map]
    intro param hparam
    obtain ⟨raw, -, hraw, hvalue⟩ := h.value param hparam
    have hwithin : unquoted raw <:+: raw :=
      (isInfix_trimMatches _ _).trans (isInfix_trimMatches _ raw)
    rw [writtenParam, hvalue, List.mem_append, List.mem_cons, List.mem_cons, not_or, not_or, not_or]
    exact ⟨⟨by decide, hsemicolon (h.name param hparam).1⟩, by decide,
      fun hmem => hraw (hwithin.mem hmem)⟩
  rw [parse?, toList_render, splitOn_append_flatMap hessence hparams]
  show (parseEssence? _).bind _ = _
  rw [h.hasTokens.parseEssence?_eq h.made h.single]
  exact foldlM_addParam?_written h.name h.nodup

/-! ## Values -/

/-- A value that was read is left as it is exactly if there are no blanks at its ends. -/
theorem bare_eq_iff {value : String} {raw : List Char} (h : value.toList = unquoted raw) :
    bare value = value ↔ trim value.toList = value.toList := by
  have hquotes : trimMatches (· == '"') value.toList = value.toList := by
    rw [h]
    exact trimMatches_trimMatches _ _
  rw [← String.toList_inj, bare, String.toList_ofList, unquoted]
  constructor
  · intro hbare
    -- Nothing gets longer by trimming, so nothing was trimmed.
    refine (isInfix_trimMatches isBlank _).eq_of_length (le_antisymm ?_ ?_)
    · exact (isInfix_trimMatches isBlank _).length_le
    · have hquoted := (isInfix_trimMatches (· == '"') (trim value.toList)).length_le
      rwa [hbare] at hquoted
  · intro htrim
    rw [htrim, hquotes]

/-- The same media type is read again exactly if there are no blanks at the ends of its values. -/
theorem ReadFrom.bared_eq_iff (h : ReadFrom text media) :
    media.bared = media ↔ ∀ param ∈ media.params, trim param.2.toList = param.2.toList := by
  have hparams : media.bared = media ↔
      ∀ param ∈ media.params, (param.1, bare param.2) = id param := by
    rw [← List.map_inj_left, List.map_id, bared, MediaType.mk.injEq]
    simp only [true_and]
  rw [hparams]
  refine forall₂_congr fun param hparam => ?_
  obtain ⟨raw, -, -, hvalue⟩ := h.value param hparam
  rw [← bare_eq_iff hvalue, Prod.ext_iff]
  exact and_iff_right rfl

/-- There are no blanks at the ends of values that are read from a text without quotes. -/
theorem ReadFrom.trim_eq (h : ReadFrom text media) (hquote : '"' ∉ text) :
    ∀ param ∈ media.params, trim param.2.toList = param.2.toList := by
  intro param hparam
  obtain ⟨raw, hraw, -, hvalue⟩ := h.value param hparam
  have hplain : unquoted raw = trim raw := trimMatches_eq_self fun c hc =>
    beq_eq_false_iff_ne.2 fun hc' => hquote (hraw (mem_of_mem_trim (hc' ▸ hc)))
  rw [hvalue, hplain, trim_trim]

/-! ## Reading again -/

/-- The text of a media type that was read is always read again, as the same type and subtype with
the same names of parameters in the same order, and each value without the blanks and then the
quotes around it. It is read as the same media type exactly if no value begins or ends with a blank;
that is so for each text without quotes. -/
theorem reread_iff {text : String} {media : MediaType} (h : parse text = .ok media) :
    ∃ again, parse media.render = .ok again ∧ again.main = media.main ∧ again.sub = media.sub ∧
      again.params = media.params.map (fun param => (param.1, bare param.2)) ∧
      (again = media ↔ ∀ param ∈ media.params, trim param.2.toList = param.2.toList) ∧
      ('"' ∉ text.toList → again = media) := by
  have hread : ReadFrom text.toList media := readFrom_of_parse? (parse_eq_ok_iff.1 h)
  refine ⟨media.bared, ?_, rfl, rfl, rfl, hread.bared_eq_iff, fun hquote =>
    hread.bared_eq_iff.2 (hread.trim_eq hquote)⟩
  rw [parse, hread.parse?_render]

/-- A value with a blank inside, one that is an equals sign, and a parameter that is set twice. -/
theorem reread_iff_quoted :
    let media : MediaType := ⟨"a", "b", [("l", "="), ("k", "c d")]⟩
    parse "A/b; k=x; l=\"=\"; k=\"c d\"" = .ok media ∧ parse media.render = .ok media := by
  intro media
  have h : parse "A/b; k=x; l=\"=\"; k=\"c d\"" = .ok media :=
    parse_eq_ok_iff.2 (by decide +kernel)
  obtain ⟨again, hagain, -, -, -, hiff, -⟩ := reread_iff h
  rw [hiff.2 (by decide)] at hagain
  exact ⟨h, hagain⟩

/-- A blank at the front of a value is read from between quotes, and lost. -/
theorem reread_loses_blank :
    ∃ media again, parse "text/plain; a=\" x\"" = .ok media ∧
      parse media.render = .ok again ∧ again ≠ media :=
  ⟨⟨"text", "plain", [("a", " x")]⟩, ⟨"text", "plain", [("a", "x")]⟩,
    parse_eq_ok_iff.2 (by decide +kernel), parse_eq_ok_iff.2 (by decide +kernel), by decide⟩

end HttpRpc.MediaType
