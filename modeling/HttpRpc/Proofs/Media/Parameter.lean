import HttpRpc.Proofs.Media.Rendering

/-!
# Parameters of media types

A text is read as a media type exactly if it states a type, a subtype and settings of parameters
(`Stated`). Once it is read, parameters are set and left out one change after the other (`Change`).
Two things hold through all changes (`Keeps`): the media type is sound (`Sound`), and what is found
under a name, in whichever letters it is spelled, is the value that was given last. The main
statement is `param?_decided`.
-/

namespace HttpRpc.MediaType

open HttpRpc.Text

variable {media : MediaType} {text main sub : List Char} {parts : List (List Char)}
  {given settings : List (String × String)}

/-! ## What a text states -/

/-- The texts behind semicolons state settings of parameters in their order: each text is blank, or
it is a token between blanks, an equals sign, and anything, which is the value without the blanks
and quotes around it. -/
inductive Settings : List (List Char) → List (String × String) → Prop where
  | nil : Settings [] []
  | blank {part parts settings} (hpart : trim part = []) (hrest : Settings parts settings) :
      Settings (part :: parts) settings
  | set {name value parts settings} (hname : isToken (trim name) = true)
      (hrest : Settings parts settings) :
      Settings ((name ++ '=' :: value) :: parts)
        ((String.ofList (trim name), String.ofList (unquoted value)) :: settings)

/-- The text up to the first semicolon is two tokens with a slash between them and perhaps blanks
around them, and those behind semicolons state settings. The type matches every other one only if
the subtype does. -/
structure Stated (text main sub : List Char) (settings : List (String × String)) : Prop where
  parts : ∃ essence parts, splitOn ';' text = essence :: parts ∧
    trim essence = main ++ '/' :: sub ∧ Settings parts settings
  single : main = ['*'] → sub = ['*']
  isToken_main : isToken main = true
  isToken_sub : isToken sub = true

/-- Texts that are read behind a media type state settings. -/
theorem exists_settings_of_foldlM {last : MediaType}
    (h : parts.foldlM addParam? media = some last) : ∃ settings, Settings parts settings := by
  induction parts generalizing media with
  | nil => exact ⟨[], .nil⟩
  | cons part rest ih =>
      rw [List.foldlM_cons] at h
      obtain ⟨next, hnext, hrest⟩ := Option.bind_eq_some_iff.1 h
      obtain ⟨settings, hsettings⟩ := ih hrest
      obtain ⟨hblank, -⟩ | ⟨name, value, rfl, hname, -⟩ := addParam?_eq_some_iff.1 hnext
      · exact ⟨settings, .blank hblank hsettings⟩
      · exact ⟨_, .set hname hsettings⟩

/-- A text that is read as a media type states one. -/
theorem exists_stated_of_parse? (h : parse? text = some media) :
    ∃ main sub settings, Stated text main sub settings := by
  cases hsplit : splitOn ';' text with
  | nil => exact absurd hsplit (splitOn_ne_nil ';' text)
  | cons essence parts =>
      rw [parse?, hsplit] at h
      obtain ⟨start, hstart, hparts⟩ := Option.bind_eq_some_iff.1 h
      obtain ⟨main, sub, htrim, hmain, hsub, hsingle, -⟩ := parseEssence?_eq_some_iff.1 hstart
      obtain ⟨settings, hsettings⟩ := exists_settings_of_foldlM hparts
      exact ⟨main, sub, settings, ⟨essence, parts, hsplit, htrim, hsettings⟩, hsingle, hmain, hsub⟩

/-! ## Soundness -/

/-- A token in small letters. -/
def IsName (name : String) : Prop :=
  isToken name.toList = true ∧ name.toLower = name

/-- The type, the subtype and the names of the parameters are tokens in small letters, the type
matches every other one only if the subtype does, and no two parameters have one name. -/
structure Sound (media : MediaType) : Prop where
  main : IsName media.main
  sub : IsName media.sub
  single : media.main = wildcard → media.sub = wildcard
  name : ∀ param ∈ media.params, IsName param.1
  nodup : (media.params.map Prod.fst).Nodup

/-- What was read from a text is sound. -/
theorem ReadFrom.sound (h : ReadFrom text media) : media.Sound where
  main := ⟨h.hasTokens.1, h.made.toLower_eq.1⟩
  sub := ⟨h.hasTokens.2, h.made.toLower_eq.2⟩
  single := h.single
  name := h.name
  nodup := h.nodup

/-- Setting a parameter whose name is a token keeps a media type sound. -/
theorem Sound.withParam (h : media.Sound) {name : String} (hname : isToken name.toList = true)
    (value : String) : (media.withParam name value).Sound where
  main := h.main
  sub := h.sub
  single := h.single
  name := by
    intro param hparam
    rcases mem_withParam hparam with hparam | rfl
    · exact h.name param hparam
    · exact ⟨isToken_toLower hname, toLower_toLower name⟩
  nodup := nodup_withParam h.nodup name value

/-- A sound media type without its parameters is its type and its subtype. -/
theorem Sound.withoutParams_eq (h : media.Sound) :
    media.withoutParams = ⟨media.main, media.sub, []⟩ := by
  rw [withoutParams, new, h.main.2, h.sub.2]

/-- A sound media type is sound without its parameters. -/
theorem Sound.withoutParams (h : media.Sound) : media.withoutParams.Sound := by
  rw [h.withoutParams_eq]
  exact ⟨h.main, h.sub, h.single, nofun, .nil⟩

/-! ## What is found under a name -/

/-- The value that was given last under a name, in letters of any case. -/
def lastGiven? (name : String) (given : List (String × String)) : Option String :=
  (given.reverse.find? fun setting => setting.1.toLower == name.toLower).map Prod.snd

/-- The setting that is made last counts for its own name, and the earlier ones for all others. -/
theorem lastGiven?_concat (given : List (String × String)) (name value other : String) :
    lastGiven? other (given ++ [(name, value)]) =
      if name.toLower = other.toLower then some value else lastGiven? other given := by
  rw [lastGiven?, List.reverse_append, List.reverse_singleton, List.singleton_append]
  by_cases h : name.toLower = other.toLower
  · simp [h]
  · simp [h, lastGiven?]

/-- A parameter that is set is found under its own name, and what is found under other names stays.
-/
theorem Sound.param?_withParam (h : media.Sound) (name value other : String) :
    (media.withParam name value).param? other =
      if name.toLower = other.toLower then some value else media.param? other := by
  rw [param?, MediaType.withParam, List.find?_append]
  by_cases hsame : name.toLower = other.toLower
  · -- The names that are kept are small letters, so the one that is set is not among them.
    have hnone : (media.params.filter fun param => param.1 != name.toLower).find?
        (fun param => param.1.toLower == other.toLower) = none := by
      rw [List.find?_eq_none]
      intro param hparam hfound
      obtain ⟨hparam, hkept⟩ := List.mem_filter.1 hparam
      rw [(h.name param hparam).2, ← hsame, beq_iff_eq] at hfound
      rw [hfound, bne_self_eq_false] at hkept
      cases hkept
    rw [hnone]
    simp [hsame, toLower_toLower]
  · have hkept : (media.params.filter fun param => param.1 != name.toLower).find?
        (fun param => param.1.toLower == other.toLower) =
        media.params.find? fun param => param.1.toLower == other.toLower := by
      rw [List.find?_filter]
      congr 1
      funext param
      rw [Bool.eq_iff_iff]
      simp only [decide_eq_true_eq, bne_iff_ne, beq_iff_eq, and_iff_right_iff_imp]
      intro hfound heq
      rw [heq, toLower_toLower] at hfound
      exact hsame hfound
    rw [hkept]
    simp [hsame, toLower_toLower, param?]

/-- The media type is sound and of the type and the subtype, and under every name it has the value
that was given last. -/
structure Keeps (main sub : String) (given : List (String × String)) (media : MediaType) :
    Prop where
  sound : media.Sound
  main_eq : media.main = main
  sub_eq : media.sub = sub
  param?_eq : ∀ name, media.param? name = lastGiven? name given

/-- Without parameters a sound media type has what was given if nothing was. -/
theorem Sound.keeps_nil (h : media.Sound) (hparams : media.params = []) :
    Keeps media.main media.sub [] media where
  sound := h
  main_eq := rfl
  sub_eq := rfl
  param?_eq name := by
    rw [param?, hparams]
    rfl

variable {type subtype : String}

/-- What is set is given. -/
theorem Keeps.withParam (h : Keeps type subtype given media) {name : String}
    (hname : isToken name.toList = true) (value : String) :
    Keeps type subtype (given ++ [(name, value)]) (media.withParam name value) where
  sound := h.sound.withParam hname value
  main_eq := h.main_eq
  sub_eq := h.sub_eq
  param?_eq other := by
    rw [h.sound.param?_withParam, lastGiven?_concat, h.param?_eq]

/-- Nothing is given any more when all parameters are left out. -/
theorem Keeps.withoutParams (h : Keeps type subtype given media) :
    Keeps type subtype [] media.withoutParams := by
  rw [← h.main_eq, ← h.sub_eq, h.sound.withoutParams_eq]
  exact (h.sound.withoutParams_eq ▸ h.sound.withoutParams).keeps_nil rfl

/-- Texts that state settings are read behind a media type, and what they set is given. -/
theorem Keeps.exists_foldlM_eq (h : Keeps type subtype given media)
    (hparts : Settings parts settings) :
    ∃ last, parts.foldlM addParam? media = some last ∧
      Keeps type subtype (given ++ settings) last := by
  induction hparts generalizing media given with
  | nil =>
      rw [List.append_nil]
      exact ⟨media, rfl, h⟩
  | blank hpart _ ih =>
      rw [List.foldlM_cons, addParam?_eq_some_iff.2 (.inl ⟨hpart, rfl⟩)]
      exact ih h
  | @set name value parts settings hname _ ih =>
      have hset := h.withParam (by rwa [String.toList_ofList]) (String.ofList (unquoted value))
      rw [List.foldlM_cons, addParam?_eq_some_iff.2 (.inr ⟨name, value, rfl, hname, rfl⟩)]
      rw [← List.singleton_append, ← List.append_assoc]
      exact ih hset

/-- A text that states a media type is read as its type and its subtype in small letters, with the
settings that it states. -/
theorem Stated.exists_parse?_eq (h : Stated text main sub settings) :
    ∃ media, parse? text = some media ∧
      Keeps (String.ofList main).toLower (String.ofList sub).toLower settings media := by
  obtain ⟨⟨essence, parts, hsplit, htrim, hsettings⟩, hsingle, hmain, hsub⟩ := h
  have hsound := (show ReadFrom text _ from readFrom_new hmain hsub hsingle).sound
  obtain ⟨last, hlast, hkeeps⟩ := (hsound.keeps_nil rfl).exists_foldlM_eq hsettings
  refine ⟨last, ?_, hkeeps⟩
  rw [parse?, hsplit]
  show (parseEssence? essence).bind _ = _
  rw [parseEssence?_eq_some_iff.2 ⟨main, sub, htrim, hmain, hsub, hsingle, rfl⟩]
  exact hlast

/-! ## Changes -/

/-- What is done to a media type: a parameter is set, or all are left out. -/
inductive Change where
  | set (name value : String)
  | clear

namespace Change

/-- The media type after a change. -/
def apply (media : MediaType) : Change → MediaType
  | set name value => media.withParam name value
  | clear => media.withoutParams

/-- What was given after a change, since all parameters were left out. -/
def record (given : List (String × String)) : Change → List (String × String)
  | set name value => given ++ [(name, value)]
  | clear => []

/-- The name of the parameter that is set is a token. -/
def IsNamed : Change → Prop
  | set name _ => isToken name.toList = true
  | clear => True

instance : DecidablePred IsNamed
  | set name _ => inferInstanceAs (Decidable (isToken name.toList = true))
  | clear => inferInstanceAs (Decidable True)

end Change

/-- A change keeps a media type sound, and what it sets is given. -/
theorem Keeps.change (h : Keeps type subtype given media) {change : Change}
    (hchange : change.IsNamed) :
    Keeps type subtype (change.record given) (change.apply media) := by
  cases change with
  | set name value => exact h.withParam hchange value
  | clear => exact h.withoutParams

/-- Changes one after the other keep a media type sound, and what they set is given. -/
theorem Keeps.changes (h : Keeps type subtype given media) {changes : List Change}
    (hchanges : ∀ change ∈ changes, change.IsNamed) :
    Keeps type subtype (changes.foldl Change.record given) (changes.foldl Change.apply media) := by
  induction changes generalizing media given with
  | nil => exact h
  | cons change rest ih =>
      rw [List.forall_mem_cons] at hchanges
      exact ih (h.change hchanges.1) hchanges.2

/-- A text is read as a media type exactly if it states one. It is then of the type and the subtype
that are stated, in small letters. Whatever parameters with tokens as names are set after that, and
whenever all are left out, the media type is sound, and under each name, spelled in letters of any
case, the value is found that the text and the changes gave last. -/
theorem param?_decided (text : String) :
    ((∃ media, parse text = .ok media) ↔
      ∃ main sub settings, Stated text.toList main sub settings) ∧
    ∀ media main sub settings, parse text = .ok media →
      Stated text.toList main sub settings →
      ∀ changes : List Change, (∀ change ∈ changes, change.IsNamed) →
        let changed := changes.foldl Change.apply media
        changed.Sound ∧ changed.main = (String.ofList main).toLower ∧
          changed.sub = (String.ofList sub).toLower ∧
          ∀ name, changed.param? name = lastGiven? name (changes.foldl Change.record settings) := by
  constructor
  · constructor
    · rintro ⟨media, hmedia⟩
      exact exists_stated_of_parse? (parse_eq_ok_iff.1 hmedia)
    · rintro ⟨main, sub, settings, hstated⟩
      obtain ⟨media, hmedia, -⟩ := hstated.exists_parse?_eq
      exact ⟨media, parse_eq_ok_iff.2 hmedia⟩
  · intro media main sub settings hmedia hstated changes hchanges changed
    obtain ⟨read, hread, hkeeps⟩ := hstated.exists_parse?_eq
    rw [parse_eq_ok_iff, hread] at hmedia
    cases hmedia
    have hchanged := hkeeps.changes hchanges
    exact ⟨hchanged.sound, hchanged.main_eq, hchanged.sub_eq, hchanged.param?_eq⟩

/-- One name in letters of either case, set twice in a text around a blank setting and twice after
that; and a name that is set before and after all parameters are left out. -/
theorem param?_decided_respelled :
    let text := "A/b; K=x; ;k = \"y z\""
    let settings := [("K", "x"), ("k", "y z")]
    Stated text.toList ['A'] ['b'] settings ∧ ∃ media, parse text = .ok media ∧
      let changed := [Change.set "Q" "1", .set "q" "2"].foldl Change.apply media
      let cleared := [Change.set "Q" "1", .clear, .set "Z" " 3"].foldl Change.apply media
      changed.Sound ∧ changed.param? "K" = some "y z" ∧ changed.param? "Q" = some "2" ∧
      cleared.Sound ∧ cleared.param? "K" = none ∧ cleared.param? "Q" = none ∧
      cleared.param? "z" = some " 3" := by
  intro text settings
  have hstated : Stated text.toList ['A'] ['b'] settings :=
    { parts := ⟨['A', '/', 'b'],
        [[' ', 'K', '=', 'x'], [' '], ['k', ' ', '=', ' ', '"', 'y', ' ', 'z', '"']],
        by decide +kernel, by decide,
        @Settings.set [' ', 'K'] ['x'] _ _ (by decide) (.blank (by decide)
          (@Settings.set ['k', ' '] [' ', '"', 'y', ' ', 'z', '"'] _ _ (by decide) .nil))⟩
      single := nofun
      isToken_main := by decide
      isToken_sub := by decide }
  obtain ⟨media, hmedia⟩ := (param?_decided text).1.2 ⟨_, _, _, hstated⟩
  have hdecided := (param?_decided text).2 media _ _ settings hmedia hstated
  obtain ⟨hsound, -, -, hfound⟩ := hdecided [.set "Q" "1", .set "q" "2"] (by decide)
  obtain ⟨hclear, -, -, hrest⟩ := hdecided [.set "Q" "1", .clear, .set "Z" " 3"] (by decide)
  refine ⟨hstated, media, hmedia, hsound, (hfound "K").trans ?_, (hfound "Q").trans ?_, hclear,
    (hrest "K").trans ?_, (hrest "Q").trans ?_, (hrest "z").trans ?_⟩ <;>
  simp [settings, lastGiven?, Change.record, toLower_eq_toLower_iff]

end HttpRpc.MediaType
