import HttpRpc.Proofs.Binding.Faithful
import HttpRpc.Proofs.Binding.Resolution

/-!
# Calls that differ in one argument

Two expansions of a template have different texts if they give one placeholder different texts and
agree on all others (`text_eq_of_render`, `queryPairs_eq_of_render`). So two calls that differ in
the texts of one argument have different URLs unless the argument is for a placeholder of the path
that a later parameter fills as well: the later argument takes its place, and the earlier one is not
sent (`resolve_differ_iff`, `resolve_overwrites`).
-/

namespace HttpRpc

/-! ## Two expansions of a template -/

namespace Piece

variable {texts others : String → String} {name : String} {segment : List Piece}

/-- Pieces without the placeholder have the same texts. -/
theorem shown_eq (hsame : ∀ other, other ≠ name → texts other = others other) {piece : Piece}
    (hpiece : piece ≠ .placeholder name) : piece.shown texts = piece.shown others := by
  cases piece with
  | literal text => rfl
  | placeholder other => exact hsame other fun h => hpiece (by rw [h])

/-- Texts of one placeholder change the length of a segment by their own lengths. -/
theorem length_fill (segment : List Piece)
    (hsame : ∀ other, other ≠ name → texts other = others other) :
    (fill texts segment).length + segment.count (.placeholder name) * (others name).length =
      (fill others segment).length + segment.count (.placeholder name) * (texts name).length := by
  induction segment with
  | nil => simp [fill]
  | cons piece rest ih =>
      rw [fill_cons, fill_cons, String.length_append, String.length_append]
      by_cases hpiece : piece = .placeholder name
      · subst hpiece
        rw [List.count_cons_self, Nat.add_mul, Nat.add_mul]
        simp only [shown]
        omega
      · rw [List.count_cons_of_ne hpiece, shown_eq hsame hpiece]
        omega

/-- A segment shows the text of each of its placeholders, if all other texts are known. -/
theorem eq_of_fill_eq (hname : .placeholder name ∈ segment)
    (hsame : ∀ other, other ≠ name → texts other = others other)
    (h : fill texts segment = fill others segment) : texts name = others name := by
  -- The texts are as long as each other, so the first place where one stands shows it.
  have hlength : (texts name).length = (others name).length := by
    have hcount := length_fill segment hsame
    rw [h, Nat.add_left_cancel_iff] at hcount
    exact (Nat.mul_left_cancel (List.count_pos_iff.2 hname) hcount).symm
  induction segment with
  | nil => cases hname
  | cons piece rest ih =>
      rw [fill_cons, fill_cons] at h
      by_cases hpiece : piece = .placeholder name
      · subst hpiece
        have hchars := congrArg String.toList h
        rw [String.toList_append, String.toList_append] at hchars
        exact String.toList_inj.1 (List.append_inj hchars hlength).1
      · rw [shown_eq hsame hpiece, String.append_right_inj] at h
        exact ih ((List.mem_cons.1 hname).resolve_left fun heq => hpiece heq.symm) h

end Piece

namespace UriTemplate

variable {template : UriTemplate} {base : BaseUri} {values others : PlaceholderValues}
  {texts otherTexts : String → String} {url other : Url}

/-- An expansion whose path has a placeholder puts a segment for each lasting text behind the path
of the base. -/
theorem path_of_expanded (hsolid : ∀ segment ∈ template.segments, Piece.IsSolid segment)
    (hclean : ∀ segment ∈ template.segments, ∀ piece ∈ segment, piece.IsClean values)
    (hscheme : base.url.scheme ≠ "file") (hexpand : template.expand base values = .ok url)
    {name : String} (hname : template.hasPathVariable name = true) :
    ∃ rendered, List.Forall₂ (fun segment text => Piece.expandSegment values segment = .ok text)
        template.steps (Url.lasting rendered) ∧ (∀ text ∈ rendered, Url.IsClean text) ∧
      url.path = .segments (Url.entered (Url.dropFinalEmpty base.segments) ++
        Url.behind base.url.isSpecial rendered template.trailingSlash) := by
  obtain ⟨rendered, hrendered, htexts, -, hpath⟩ := expand_path_eq hsolid hclean hscheme hexpand
  have hsteps := forall₂_steps hsolid hrendered
  obtain ⟨segment, hsegment, hplaceholder⟩ := hasPathVariable_iff.1 hname
  have hstep : segment ∈ template.steps := List.mem_filter.2
    ⟨hsegment, by rw [Piece.isDotSegment_of_mem hplaceholder]; rfl⟩
  have hlasting : Url.lasting rendered ≠ [] := by
    rw [← List.length_pos_iff, ← hsteps.length_eq]
    exact List.length_pos_of_mem hstep
  have hbehind : Url.behind base.url.isSpecial rendered template.trailingSlash ≠ [] :=
    List.append_ne_nil_of_left_ne_nil (List.map_eq_nil_iff.not.2 hlasting) _
  refine ⟨rendered, hsteps, htexts, ?_⟩
  rw [hpath, if_neg fun h => List.ne_nil_of_mem hsegment h.1, if_neg hbehind]

/-- Two expansions with one text show the text of a placeholder of the path, if they agree on all
other texts. -/
theorem text_eq_of_render (hsolid : ∀ segment ∈ template.segments, Piece.IsSolid segment)
    (hclean : ∀ segment ∈ template.segments, ∀ piece ∈ segment, piece.IsClean values)
    (hcleanOther : ∀ segment ∈ template.segments, ∀ piece ∈ segment, piece.IsClean others)
    (hscheme : base.url.scheme ≠ "file")
    (htexts : ∀ segment ∈ template.segments, ∀ name, .placeholder name ∈ segment →
      (values name).bind List.head? = some (texts name))
    (hotherTexts : ∀ segment ∈ template.segments, ∀ name, .placeholder name ∈ segment →
      (others name).bind List.head? = some (otherTexts name))
    (hpairs : template.queryPairs values = template.queryPairs others)
    (hexpand : template.expand base values = .ok url)
    (hexpandOther : template.expand base others = .ok other) {name : String}
    (hname : template.hasPathVariable name = true)
    (hsame : ∀ other, other ≠ name → texts other = otherTexts other)
    (hrender : url.render = other.render) : texts name = otherTexts name := by
  obtain ⟨rendered, hsteps, hrendered, hpath⟩ :=
    path_of_expanded hsolid hclean hscheme hexpand hname
  obtain ⟨otherRendered, hotherSteps, hotherRendered, hotherPath⟩ :=
    path_of_expanded hsolid hcleanOther hscheme hexpandOther hname
  have hquery : url.query = other.query := by
    obtain ⟨_, -, rfl⟩ := expand_eq_ok hexpand
    obtain ⟨_, -, rfl⟩ := expand_eq_ok hexpandOther
    rw [appendTo_query, appendTo_query, hpairs]
  have hlasting : Url.lasting rendered = Url.lasting otherRendered := by
    rw [eq_of_expand hexpand, eq_of_expand hexpandOther, ← hquery] at hrender
    have hpaths := Url.path_eq_of_render { base.url with query := url.query } hrender
    rw [hpath, hotherPath, Url.renderPath_append, Url.renderPath_append,
      String.append_right_inj] at hpaths
    exact Url.lasting_eq_of_behind hrendered hotherRendered
      (Url.segments_eq_of_renderPath Url.slash_not_mem_of_mem_behind
        Url.slash_not_mem_of_mem_behind hpaths)
  have hfilter (segment : List Piece) (h : segment ∈ template.steps) :
      segment ∈ template.segments := (List.mem_filter.1 h).1
  rw [Piece.eq_map_fill (fun segment h => htexts segment (hfilter segment h)) hsteps,
    Piece.eq_map_fill (fun segment h => hotherTexts segment (hfilter segment h)) hotherSteps,
    List.map_inj_left] at hlasting
  obtain ⟨segment, hsegment, hplaceholder⟩ := hasPathVariable_iff.1 hname
  refine Piece.eq_of_fill_eq hplaceholder hsame
    (hlasting segment (List.mem_filter.2 ⟨hsegment, ?_⟩))
  rw [Piece.isDotSegment_of_mem hplaceholder]
  rfl

-- A literal with a tab steps back over the segment in front of it.
example : ∃ base parsed, BaseUri.parse "http://host/api" = .ok base ∧
    parse "/{id}/.\t." = .ok parsed ∧
    parsed.expand base (fun _ => some ["a"]) = parsed.expand base (fun _ => some ["b"]) :=
  ⟨⟨⟨"http", "", some (.name "host"), none, false, .segments ["api"], none, none⟩, rfl, ⟨_, rfl⟩⟩,
    ⟨[[.placeholder "id"], [.literal ".\t."]], false, []⟩, by rfl, by rfl, by rfl⟩

-- The first segment of a file URL may be a drive, and drives have two spellings.
example : ∃ base parsed, BaseUri.parse "file:///" = .ok base ∧ parse "/{id}" = .ok parsed ∧
    parsed.expand base (fun _ => some ["C|"]) = parsed.expand base (fun _ => some ["C:"]) :=
  ⟨⟨⟨"file", "", some (.name ""), none, false, .segments [""], none, none⟩, rfl, ⟨_, rfl⟩⟩,
    ⟨[[.placeholder "id"]], false, []⟩, by rfl, by rfl, by rfl⟩

/-- Two expansions with one text show the pairs of the query, if they agree on the path. -/
theorem queryPairs_eq_of_render
    (hpath : ∀ name, template.hasPathVariable name = true → values name = others name)
    (hexpand : template.expand base values = .ok url)
    (hexpandOther : template.expand base others = .ok other)
    (hrender : url.render = other.render) :
    template.queryPairs values = template.queryPairs others := by
  have hpaths : url.path = other.path := by
    rw [expand, mapM_expandSegment_congr hpath] at hexpand
    obtain ⟨texts, htexts, h⟩ := bind_eq_ok.1 hexpand
    obtain ⟨otherTexts, hotherTexts, hother⟩ := bind_eq_ok.1 hexpandOther
    rw [htexts] at hotherTexts
    cases hotherTexts
    cases h
    cases hother
    rw [appendTo_path, appendTo_path]
  rw [eq_of_expand hexpand, eq_of_expand hexpandOther, ← hpaths] at hrender
  have hquery := Url.query_eq_of_render { base.url with path := url.path } base.fragment_eq_none
    hrender
  have hpairs : url.queryPairs = other.queryPairs := by rw [Url.queryPairs, hquery, Url.queryPairs]
  obtain ⟨_, -, rfl⟩ := expand_eq_ok hexpand
  obtain ⟨_, -, rfl⟩ := expand_eq_ok hexpandOther
  rw [queryPairs_appendTo, queryPairs_appendTo] at hpairs
  exact List.append_cancel_left hpairs

end UriTemplate

/-! ## Two calls of a method -/

namespace RouteDecl

variable {decl : RouteDecl} {front back : List Json} {value : Json} {param : ParamDecl}

/-- An argument in the middle of a row meets its parameter. -/
theorem filterMap_zip_middle {α : Type} (hparam : decl.params[front.length]? = some param)
    (value : Json) (back : List Json) (select? : ParamDecl × Json → Option α) :
    (decl.params.zip (front ++ value :: back)).filterMap select? =
      ((decl.params.take front.length).zip front).filterMap select? ++
        ((select? (param, value)).toList ++
          ((decl.params.drop (front.length + 1)).zip back).filterMap select?) := by
  obtain ⟨hlength, hget⟩ := List.getElem?_eq_some_iff.1 hparam
  have hsplit : decl.params =
      decl.params.take front.length ++ param :: decl.params.drop (front.length + 1) := by
    rw [← hget, ← List.drop_eq_getElem_cons hlength, List.take_append_drop]
  have htake : (decl.params.take front.length).length = front.length := by
    rw [List.length_take]
    omega
  conv_lhs => rw [hsplit, List.zip_append htake, List.zip_cons_cons, List.filterMap_append]
  cases hentry : select? (param, value) <;> simp [hentry]

/-- A text of the path does not depend on arguments for other places. -/
theorem pathText_of_ne (hparam : decl.params[front.length]? = some param) {name : String}
    (hname : param.roles ≠ [.path name]) (value other : Json) :
    decl.pathText (front ++ value :: back) name = decl.pathText (front ++ other :: back) name := by
  have hnone (value : Json) :
      (param.pathName?.map fun name => (name, value)).toList.reverse.lookup name = none := by
    cases hpath : param.pathName? with
    | none => rfl
    | some place =>
        have hplace : name ≠ place := by
          rintro rfl
          exact hname (ParamDecl.pathName?_eq_some.1 hpath)
        simp [List.lookup_cons, beq_false_of_ne hplace]
  unfold pathText pathArguments
  simp only [filterMap_zip_middle hparam, List.reverse_append, List.lookup_append, hnone]

/-- A text of the path does not depend on an argument for another placeholder of it. -/
theorem pathText_of_place (hparam : decl.params[front.length]? = some param) {name place : String}
    (hname : param.roles = [.path name]) (hplace : place ≠ name) (value other : Json) :
    decl.pathText (front ++ value :: back) place =
      decl.pathText (front ++ other :: back) place := by
  refine pathText_of_ne hparam ?_ value other
  rw [hname]
  simpa using hplace.symm

/-- A text of the path is that of a later argument for the same place. -/
theorem pathText_of_later (hparam : decl.params[front.length]? = some param)
    (hlength : back.length = (decl.params.drop (front.length + 1)).length) {name : String}
    (hlater : ∃ later ∈ decl.params.drop (front.length + 1), later.roles = [.path name])
    (value other : Json) :
    decl.pathText (front ++ value :: back) name = decl.pathText (front ++ other :: back) name := by
  obtain ⟨last, hlast⟩ : ∃ last, (((decl.params.drop (front.length + 1)).zip back).filterMap
      fun item => item.1.pathName?.map fun name => (name, item.2)).reverse.lookup name =
        some last := by
    obtain ⟨later, hmem, hroles⟩ := hlater
    obtain ⟨i, hi, rfl⟩ := List.getElem_of_mem hmem
    have hi' : i < ((decl.params.drop (front.length + 1)).zip back).length := by
      rw [List.length_zip]
      omega
    rw [← Option.isSome_iff_exists, List.lookup_isSome_iff]
    refine ⟨(name, back[i]), List.mem_reverse.2 (List.mem_filterMap.2
      ⟨_, List.getElem_mem hi', ?_⟩), beq_self_eq_true name⟩
    rw [List.getElem_zip, ParamDecl.pathName?_eq_some.2 hroles]
    rfl
  unfold pathText pathArguments
  simp only [filterMap_zip_middle hparam, List.reverse_append, List.lookup_append, hlast,
    Option.some_or]

/-- A text of the path is that of the last argument for its place. -/
theorem pathText_of_last (hparam : decl.params[front.length]? = some param) {name : String}
    (hname : param.roles = [.path name])
    (hlast : ∀ later ∈ decl.params.drop (front.length + 1), later.roles ≠ [.path name])
    (value : Json) : decl.pathText (front ++ value :: back) name = value.uriText?.getD "" := by
  have hnone : (((decl.params.drop (front.length + 1)).zip back).filterMap
      fun item => item.1.pathName?.map fun name => (name, item.2)).reverse.lookup name = none := by
    rw [List.lookup_eq_none_iff]
    intro entry hentry
    obtain ⟨⟨later, argument⟩, hmem, hplace⟩ := List.mem_filterMap.1 (List.mem_reverse.1 hentry)
    obtain ⟨place, hpath, rfl⟩ := Option.map_eq_some_iff.1 hplace
    rw [bne_iff_ne]
    rintro rfl
    exact hlast later (List.of_mem_zip hmem).1 (ParamDecl.pathName?_eq_some.1 hpath)
  unfold pathText pathArguments
  rw [filterMap_zip_middle hparam, List.reverse_append, List.reverse_append, List.lookup_append,
    List.lookup_append, hnone, ParamDecl.pathName?_eq_some.2 hname]
  simp

/-- The arguments for the query have the keys of the declaration. -/
theorem map_fst_queryArguments {args : List Json} (hlength : args.length = decl.params.length) :
    (decl.queryArguments args).map Prod.fst = decl.queryKeys := by
  have hkey : (fun item : ParamDecl × Json =>
      (item.1.queryKey?.map fun key => (key, item.2)).map Prod.fst) =
        ParamDecl.queryKey? ∘ Prod.fst := by
    funext item
    cases hkey : item.1.queryKey? <;> simp [hkey]
  rw [queryArguments, List.map_filterMap, hkey, ← List.filterMap_map,
    List.map_fst_zip (Nat.le_of_eq hlength.symm)]
  rfl

/-- The pairs of the query are those of the arguments for it. -/
theorem Gives.queryPairs_eq {template : UriTemplate} {values : PlaceholderValues} {args : List Json}
    (h : decl.Gives args template values) (hlength : args.length = decl.params.length)
    (hkeys : template.query.map QueryParameter.key = decl.queryKeys) :
    template.queryPairs values =
      (decl.queryArguments args).flatMap fun entry => entry.2.uriTexts.map (entry.1, ·) := by
  have hentries : template.query.map (fun q => (q.key, values q.placeholder)) =
      (decl.queryArguments args).map fun entry => (entry.1, some entry.2.uriTexts) := by
    rw [← List.zip_map', ← List.zip_map', h.query, hkeys, map_fst_queryArguments hlength]
  have hpairs := congrArg (List.flatMap fun entry : String × Option (List String) =>
    (entry.2.getD []).map (entry.1, ·)) hentries
  rwa [List.flatMap_map, List.flatMap_map] at hpairs

/-- Calls whose arguments have the same texts have the same URL. -/
theorem Gives.expand_eq {template : UriTemplate} {values others : PlaceholderValues}
    {args otherArgs : List Json} (h : decl.Gives args template values)
    (hother : decl.Gives otherArgs template others)
    (hpath : ∀ name, decl.pathText args name = decl.pathText otherArgs name)
    (hquery : decl.queryArguments args = decl.queryArguments otherArgs) (base : BaseUri) :
    template.expand base values = template.expand base others := by
  refine UriTemplate.expand_congr base (fun name hname => ?_) ?_
  · rw [h.path name hname, hother.path name hname, hpath]
  · rw [h.query, hother.query, hquery]

/-- Arguments for the path do not touch those for the query. -/
theorem queryArguments_of_path (hparam : decl.params[front.length]? = some param) {name : String}
    (hname : param.roles = [.path name]) (value other : Json) :
    decl.queryArguments (front ++ value :: back) =
      decl.queryArguments (front ++ other :: back) := by
  have hkey : param.queryKey? = none := by
    rw [ParamDecl.queryKey?, hname]
  unfold queryArguments
  rw [filterMap_zip_middle hparam, filterMap_zip_middle hparam]
  simp only [hkey, Option.map_none]

/-- A value of a clean call is clean. -/
theorem isClean_pathText {args : List Json} (h : ∀ entry ∈ decl.pathArguments args,
    ∀ text ∈ entry.2.uriTexts, Url.IsClean text) (name : String) :
    Url.IsClean (decl.pathText args name) := by
  unfold pathText
  cases hlast : (decl.pathArguments args).reverse.lookup name with
  | none => exact Url.isClean_empty
  | some value =>
      obtain ⟨front, back, hentries, -⟩ := List.lookup_eq_some_iff.1 hlast
      have hmem : (name, value) ∈ decl.pathArguments args := by
        rw [← List.mem_reverse, hentries]
        exact List.mem_append_right _ List.mem_cons_self
      cases htext : value.uriText? with
      | none =>
          rw [Option.bind_some, htext]
          exact Url.isClean_empty
      | some text =>
          rw [Option.bind_some, htext]
          refine h _ hmem text ?_
          rw [Json.uriTexts_eq_of_uriText? htext]
          exact List.mem_singleton_self text

/-- An accepted argument for the path has one text. -/
theorem Accepts.uriTexts_eq {template : UriTemplate}
    (h : decl.Accepts (front ++ value :: back) template)
    (hparam : decl.params[front.length]? = some param) {name : String}
    (hname : param.roles = [.path name]) : value.uriTexts = [value.uriText?.getD ""] := by
  have hmem : (name, value) ∈ decl.pathArguments (front ++ value :: back) := by
    rw [pathArguments, filterMap_zip_middle hparam, ParamDecl.pathName?_eq_some.2 hname]
    simp
  obtain ⟨text, htext⟩ := Option.ne_none_iff_exists'.1 (h.path _ hmem)
  rw [Json.uriTexts_eq_of_uriText? htext, htext]
  rfl

/-- A call with clean texts renders clean pieces. -/
theorem Gives.isClean {template : UriTemplate} {values : PlaceholderValues} {args : List Json}
    (h : decl.Gives args template values)
    (hliteral : ∀ segment ∈ template.segments, ∀ text, .literal text ∈ segment → Url.IsClean text)
    (hclean : ∀ entry ∈ decl.pathArguments args, ∀ text ∈ entry.2.uriTexts, Url.IsClean text) :
    ∀ segment ∈ template.segments, ∀ piece ∈ segment, piece.IsClean values := by
  intro segment hsegment piece hpiece
  cases piece with
  | literal text => exact hliteral segment hsegment text hpiece
  | placeholder name =>
      intro text htext
      rw [h.head hsegment name hpiece] at htext
      cases htext
      exact isClean_pathText hclean name

end RouteDecl

namespace BoundMethod

variable {base : BaseUri} {decl : RouteDecl} {parsed : UriTemplate} {front back : List Json}
  {value other : Json} {param : ParamDecl} {url otherUrl : Url} {body? otherBody? : Option Json}

/-- The URL of a call shows the texts of each argument for the query. -/
theorem uriTexts_eq_of_render (hbindable : decl.IsBindable parsed)
    (hparam : decl.params[front.length]? = some param)
    (h : (decl.bound base parsed).resolve (front ++ value :: back) = .ok (url, body?))
    (hother : (decl.bound base parsed).resolve (front ++ other :: back) =
      .ok (otherUrl, otherBody?)) {key : String} (hkey : param.roles = [.query key])
    (hrender : url.render = otherUrl.render) : value.uriTexts = other.uriTexts := by
  obtain ⟨haccepts, ⟨values, hgives, hexpand⟩, -⟩ := of_resolve hbindable h
  obtain ⟨hotherAccepts, ⟨others, hotherGives, hotherExpand⟩, -⟩ := of_resolve hbindable hother
  have hpath (name : String)
      (hname : (decl.bound base parsed).uri.template.hasPathVariable name = true) :
      values name = others name := by
    have hne : param.roles ≠ [.path name] := by
      rw [hkey]
      simp
    rw [hgives.path name hname, hotherGives.path name hname,
      RouteDecl.pathText_of_ne hparam hne value other]
  have hpairs := UriTemplate.queryPairs_eq_of_render hpath hexpand hotherExpand hrender
  rw [hgives.queryPairs_eq haccepts.arity (map_key_query hbindable),
    hotherGives.queryPairs_eq hotherAccepts.arity (map_key_query hbindable)] at hpairs
  have hquery : param.queryKey? = some key := by
    rw [ParamDecl.queryKey?, hkey]
  simp only [RouteDecl.queryArguments, RouteDecl.filterMap_zip_middle hparam, hquery,
    Option.map_some, Option.toList_some, List.flatMap_append, List.flatMap_singleton,
    List.append_cancel_left_eq, List.append_cancel_right_eq] at hpairs
  exact (List.map_inj_right fun _ _ heq => (Prod.mk.inj heq).2).1 hpairs

/-- The URL of a call with clean texts shows the text of an argument for the path if no later
argument is for the same place. -/
theorem uriTexts_eq_of_render_of_last (hbindable : decl.IsBindable parsed)
    (hparam : decl.params[front.length]? = some param)
    (h : (decl.bound base parsed).resolve (front ++ value :: back) = .ok (url, body?))
    (hother : (decl.bound base parsed).resolve (front ++ other :: back) =
      .ok (otherUrl, otherBody?)) {name : String} (hname : param.roles = [.path name])
    (hscheme : base.url.scheme ≠ "file")
    (hliteral : ∀ segment ∈ (decl.bound base parsed).uri.template.segments,
      ∀ text, .literal text ∈ segment → Url.IsClean text)
    (hclean : ∀ entry ∈ decl.pathArguments (front ++ value :: back) ++
      decl.pathArguments (front ++ other :: back), ∀ text ∈ entry.2.uriTexts, Url.IsClean text)
    (hlast : ∀ later ∈ decl.params.drop (front.length + 1), later.roles ≠ [.path name])
    (hrender : url.render = otherUrl.render) : value.uriTexts = other.uriTexts := by
  obtain ⟨haccepts, ⟨values, hgives, hexpand⟩, -⟩ := of_resolve hbindable h
  obtain ⟨hotherAccepts, ⟨others, hotherGives, hotherExpand⟩, -⟩ := of_resolve hbindable hother
  rw [List.forall_mem_append] at hclean
  have hplace : (decl.bound base parsed).uri.template.hasPathVariable name = true := by
    rw [RouteDecl.hasPathVariable_bound]
    exact hbindable.known param (List.mem_of_getElem? hparam) name hname
  have hsolid := (UriTemplate.isSolid_of_parse hbindable.parses).1
  rw [← UriTemplate.withQuery_segments parsed decl.queryKeys, ← RouteDecl.bound_template]
    at hsolid
  have hpairs : (decl.bound base parsed).uri.template.queryPairs values =
      (decl.bound base parsed).uri.template.queryPairs others := by
    rw [hgives.queryPairs_eq haccepts.arity (map_key_query hbindable),
      hotherGives.queryPairs_eq hotherAccepts.arity (map_key_query hbindable),
      RouteDecl.queryArguments_of_path hparam hname value other]
  have htext := UriTemplate.text_eq_of_render hsolid (hgives.isClean hliteral hclean.1)
    (hotherGives.isClean hliteral hclean.2) hscheme (fun _ hsegment => hgives.head hsegment)
    (fun _ hsegment => hotherGives.head hsegment) hpairs hexpand hotherExpand hplace
    (fun _ hne => RouteDecl.pathText_of_place hparam hname hne value other) hrender
  rw [RouteDecl.pathText_of_last hparam hname hlast,
    RouteDecl.pathText_of_last hparam hname hlast] at htext
  rw [haccepts.uriTexts_eq hparam hname, hotherAccepts.uriTexts_eq hparam hname, htext]

/-- An argument for the path is not sent if a later one is for the same place. -/
theorem eq_of_later (hbindable : decl.IsBindable parsed)
    (hparam : decl.params[front.length]? = some param)
    (h : (decl.bound base parsed).resolve (front ++ value :: back) = .ok (url, body?))
    (hother : (decl.bound base parsed).resolve (front ++ other :: back) =
      .ok (otherUrl, otherBody?)) {name : String} (hname : param.roles = [.path name])
    (hlater : ∃ later ∈ decl.params.drop (front.length + 1), later.roles = [.path name]) :
    url = otherUrl := by
  obtain ⟨haccepts, ⟨values, hgives, hexpand⟩, -⟩ := of_resolve hbindable h
  obtain ⟨hotherAccepts, ⟨others, hotherGives, hotherExpand⟩, -⟩ := of_resolve hbindable hother
  have hback : back.length = (decl.params.drop (front.length + 1)).length := by
    rw [List.length_drop, ← haccepts.arity, List.length_append, List.length_cons]
    omega
  have hpath (place : String) : decl.pathText (front ++ value :: back) place =
      decl.pathText (front ++ other :: back) place := by
    by_cases hne : place = name
    · rw [hne]
      exact RouteDecl.pathText_of_later hparam hback hlater value other
    · exact RouteDecl.pathText_of_place hparam hname hne value other
  rw [hgives.expand_eq hotherGives hpath
    (RouteDecl.queryArguments_of_path hparam hname value other) base, hotherExpand] at hexpand
  exact (Except.ok.inj hexpand).symm

/-- Two calls of a bound method that differ in the texts of one argument have different URLs if that
is an argument for the query. If it is one for the path, they do exactly if no later parameter is
for the same place, provided that the texts of the path hold no tab and no line end. -/
theorem resolve_differ_iff {bound : BoundMethod} (hbind : bind base decl = .ok bound)
    (hparam : decl.params[front.length]? = some param)
    (h : bound.resolve (front ++ value :: back) = .ok (url, body?))
    (hother : bound.resolve (front ++ other :: back) = .ok (otherUrl, otherBody?))
    (htexts : value.uriTexts ≠ other.uriTexts) :
    (∀ key, param.roles = [.query key] → url.render ≠ otherUrl.render) ∧
    ∀ name, param.roles = [.path name] → base.url.scheme ≠ "file" →
      (∀ segment ∈ bound.uri.template.segments, ∀ text, .literal text ∈ segment →
        Url.IsClean text) →
      (∀ entry ∈ decl.pathArguments (front ++ value :: back) ++
        decl.pathArguments (front ++ other :: back), ∀ text ∈ entry.2.uriTexts, Url.IsClean text) →
      (url.render ≠ otherUrl.render ↔
        ∀ later ∈ decl.params.drop (front.length + 1), later.roles ≠ [.path name]) := by
  obtain ⟨parsed, hbindable, rfl⟩ := bind_eq_ok_iff.1 hbind
  refine ⟨fun key hkey hrender => ?_, fun name hname hscheme hliteral hclean => ⟨?_, ?_⟩⟩
  · exact htexts (uriTexts_eq_of_render hbindable hparam h hother hkey hrender)
  · intro hne later hlater hroles
    exact hne (congrArg Url.render
      (eq_of_later hbindable hparam h hother hname ⟨later, hlater, hroles⟩))
  · intro hlast hrender
    exact htexts (uriTexts_eq_of_render_of_last hbindable hparam h hother hname hscheme hliteral
      hclean hlast hrender)

/-- A placeholder that stands twice in one segment. -/
theorem resolve_differ_reports :
    ∃ base decl bound url otherUrl, BaseUri.parse "http://host/api" = .ok base ∧
      bind base decl = .ok bound ∧ decl.paths = ["/{year}/{id}-{id}"] ∧
      bound.resolve [.string "2024", .string "a", .null] = .ok (url, none) ∧
      bound.resolve [.string "2024", .string "b", .null] = .ok (otherUrl, none) ∧
      url.render = "http://host/api/2024/a-a" ∧ url.render ≠ otherUrl.render := by
  let base : BaseUri :=
    ⟨⟨"http", "", some (.name "host"), none, false, .segments ["api"], none, none⟩, rfl, ⟨_, rfl⟩⟩
  let decl : RouteDecl :=
    ⟨"report", [], ["/{year}/{id}-{id}"], [⟨"from", [.path "year"]⟩, ⟨"of", [.path "id"]⟩,
      ⟨"until", [.query "year"]⟩], []⟩
  let bound : BoundMethod :=
    { method := "report"
      verb := .get
      arity := 3
      uri :=
        { base
          template := ⟨[[.placeholder "year"],
            [.placeholder "id", .literal "-", .placeholder "id"]], false, [⟨"year", "year1"⟩]⟩
          pathParams := [⟨0, "from", "year"⟩, ⟨1, "of", "id"⟩]
          queryParams := [⟨2, "until", "year1"⟩]
          cached := none }
      bodyPosition := none }
  have hbind : bind base decl = .ok bound := by rfl
  have hresolve : bound.resolve ([.string "2024"] ++ .string "a" :: [.null]) =
      .ok ({ base.url with path := .segments ["api", "2024", "a-a"] }, none) := by rfl
  have hother : bound.resolve ([.string "2024"] ++ .string "b" :: [.null]) =
      .ok ({ base.url with path := .segments ["api", "2024", "b-b"] }, none) := by rfl
  have hliteral : ∀ segment ∈ bound.uri.template.segments, ∀ text, .literal text ∈ segment →
      Url.IsClean text := by
    intro segment hsegment text htext
    simp only [bound, List.mem_cons, List.not_mem_nil, or_false] at hsegment
    rcases hsegment with rfl | rfl <;> simp at htext
    subst htext
    decide
  refine ⟨base, decl, bound, _, _, by rfl, hbind, rfl, hresolve, hother, by rfl, ?_⟩
  refine ((resolve_differ_iff hbind rfl hresolve hother (by decide)).2 "id" rfl (by decide)
    hliteral ?_).2 ?_
  · decide
  · decide

/-- Of two arguments for one place only the last one is sent. -/
theorem resolve_overwrites :
    ∃ base decl bound url, BaseUri.parse "http://host/api" = .ok base ∧
      bind base decl = .ok bound ∧
      decl.params = [⟨"first", [.path "id"]⟩, ⟨"second", [.path "id"]⟩] ∧
      bound.resolve [.string "a", .string "x"] = .ok (url, none) ∧
      bound.resolve [.string "b", .string "x"] = .ok (url, none) ∧
      url.render = "http://host/api/x" := by
  let base : BaseUri :=
    ⟨⟨"http", "", some (.name "host"), none, false, .segments ["api"], none, none⟩, rfl, ⟨_, rfl⟩⟩
  let bound : BoundMethod :=
    { method := "show"
      verb := .get
      arity := 2
      uri :=
        { base
          template := ⟨[[.placeholder "id"]], false, []⟩
          pathParams := [⟨0, "first", "id"⟩, ⟨1, "second", "id"⟩]
          queryParams := []
          cached := none }
      bodyPosition := none }
  refine ⟨base,
    ⟨"show", [.get], ["/{id}"], [⟨"first", [.path "id"]⟩, ⟨"second", [.path "id"]⟩], []⟩,
    bound, { base.url with path := .segments ["api", "x"] }, by rfl, by rfl, rfl, by rfl, by rfl,
    by rfl⟩

end BoundMethod

end HttpRpc
