import HttpRpc.Proofs.Binding.Braces
import HttpRpc.Proofs.Lists

/-!
# The texts of templates

A text is that of a template exactly if it has neither a question mark nor a number sign and what
stands between its slashes is well braced (`exists_parse_eq_ok_iff`). Which template it is, `Spells`
says. The text of a template spells it as well (`Spells.render`), with one slash before each segment
and no blanks around its names, so it is read as the same template. The main statement is
`template_decided`.
-/

namespace HttpRpc

open HttpRpc.Text

namespace UriTemplate

/-! ## Templates -/

/-- The text spells the template: it has neither a question mark nor a number sign, what stands
between its slashes spells the segments, and it ends in a slash if the template does. -/
structure Spells (text : List Char) (template : UriTemplate) : Prop where
  noQuery : '?' ∉ text
  noFragment : '#' ∉ text
  segments : List.Forall₂ Piece.Spells (pathSegments text) template.segments
  trailingSlash : (text.getLast? == some '/') = template.trailingSlash
  query : template.query = []

variable {text : String} {template : UriTemplate}

/-- A text is read as the template that it spells. -/
theorem parse_eq_ok_iff : parse text = .ok template ↔ Spells text.toList template := by
  have hread : parse text = .ok template ↔ parse? text.toList = .ok template := by
    unfold parse
    cases parse? text.toList <;> simp
  have hplain : (text.toList.contains '?' || text.toList.contains '#') = true ↔
      '?' ∈ text.toList ∨ '#' ∈ text.toList := by
    rw [Bool.or_eq_true, List.contains_iff_mem, List.contains_iff_mem]
  rw [hread, parse?]
  by_cases hmark : (text.toList.contains '?' || text.toList.contains '#') = true
  · rw [if_pos hmark]
    exact iff_of_false nofun fun h => (hplain.1 hmark).elim h.noQuery h.noFragment
  · rw [if_neg hmark]
    rw [hplain, not_or] at hmark
    constructor
    · intro h
      obtain ⟨segments, hsegments, h⟩ := bind_eq_ok.1 h
      cases h
      exact ⟨hmark.1, hmark.2, (forall₂_of_mapM_eq_ok hsegments).imp
        fun _ _ => Piece.parseSegment_eq_ok_iff.1, rfl, rfl⟩
    · obtain ⟨segments, trailingSlash, query⟩ := template
      rintro ⟨-, -, hsegments, rfl, rfl⟩
      rw [mapM_eq_ok_of_forall₂ (hsegments.imp fun _ _ => Piece.parseSegment_eq_ok_iff.2)]
      rfl

/-- A text is that of a template exactly if it has neither a question mark nor a number sign, and
what stands between its slashes is well braced. -/
theorem exists_parse_eq_ok_iff : (∃ template, parse text = .ok template) ↔
    '?' ∉ text.toList ∧ '#' ∉ text.toList ∧
      ∀ segment ∈ splitOn '/' text.toList, Piece.IsWellBraced segment := by
  have hempty : Piece.IsWellBraced [] := by
    rw [← Piece.exists_parseSegment_eq_ok_iff]
    exact ⟨[], rfl⟩
  have hsegments : (∀ segment ∈ splitOn '/' text.toList, Piece.IsWellBraced segment) ↔
      ∀ segment ∈ pathSegments text.toList, ∃ pieces, Piece.parseSegment segment = .ok pieces := by
    simp only [Piece.exists_parseSegment_eq_ok_iff, pathSegments, List.mem_filter, and_imp]
    refine forall₂_congr fun segment _ => ?_
    cases segment <;> simp [hempty]
  rw [hsegments, ← exists_mapM_eq_ok_iff]
  simp only [parse_eq_ok_iff]
  constructor
  · rintro ⟨template, h⟩
    exact ⟨h.noQuery, h.noFragment, template.segments, mapM_eq_ok_of_forall₂
      (h.segments.imp fun _ _ => Piece.parseSegment_eq_ok_iff.2)⟩
  · rintro ⟨hquery, hfragment, segments, h⟩
    exact ⟨⟨segments, _, []⟩, hquery, hfragment, (forall₂_of_mapM_eq_ok h).imp
      fun _ _ => Piece.parseSegment_eq_ok_iff.1, rfl, rfl⟩

/-- Each segment of a template is spelled by a part of the text. -/
theorem Spells.exists_segment {input : List Char} (h : Spells input template) {pieces : List Piece}
    (hpieces : pieces ∈ template.segments) :
    ∃ segment ∈ pathSegments input, Piece.Spells segment pieces := by
  obtain ⟨i, hi, rfl⟩ := List.getElem_of_mem hpieces
  have hi' : i < (pathSegments input).length := by rwa [h.segments.length_eq]
  exact ⟨_, List.getElem_mem hi', h.segments.get hi' hi⟩

/-- A part of a text between slashes is not empty, and has the characters of the text except
slashes. -/
theorem mem_pathSegments {input segment : List Char} (h : segment ∈ pathSegments input) :
    segment ≠ [] ∧ '/' ∉ segment ∧ ∀ c ∈ segment, c ∈ input := by
  obtain ⟨hsplit, hempty⟩ := List.mem_filter.1 h
  exact ⟨by simpa using hempty, not_mem_of_mem_splitOn hsplit, fun c => mem_of_mem_splitOn hsplit⟩

/-! ## Writing templates -/

/-- Parts behind slashes, and perhaps a final slash. -/
def slashed (parts : List (List Char)) (trailingSlash : Bool) : List Char :=
  parts.flatMap ('/' :: ·) ++ if trailingSlash then ['/'] else []

/-- Parts behind slashes are found again if they aren't empty and have no slashes in them. -/
theorem pathSegments_slashed {parts : List (List Char)} (h : ∀ part ∈ parts, part ≠ [] ∧ '/' ∉ part)
    (trailingSlash : Bool) : pathSegments (slashed parts trailingSlash) = parts := by
  have hall : slashed parts trailingSlash =
      [] ++ (parts ++ if trailingSlash then [[]] else []).flatMap ('/' :: ·) := by
    cases trailingSlash <;> simp [slashed]
  rw [pathSegments, hall, splitOn_append_flatMap List.not_mem_nil]
  · have hparts : parts.filter (fun segment => !segment.isEmpty) = parts :=
      List.filter_eq_self.2 fun part hpart => by simpa using (h part hpart).1
    cases trailingSlash <;> simp [hparts]
  · intro part hpart
    rcases List.mem_append.1 hpart with hpart | hpart
    · exact (h part hpart).2
    · cases trailingSlash <;> simp_all

/-- Parts behind slashes end in a slash only if there is a final one. -/
theorem getLast?_slashed {parts : List (List Char)} (h : ∀ part ∈ parts, part ≠ [] ∧ '/' ∉ part)
    (trailingSlash : Bool) :
    ((slashed parts trailingSlash).getLast? == some '/') = trailingSlash := by
  cases trailingSlash with
  | true => simp [slashed]
  | false =>
      rw [beq_eq_false_iff_ne]
      intro hlast
      cases parts using List.reverseRecOn with
      | nil => cases hlast
      | append_singleton front part =>
          have hpart := h part (List.mem_append_right _ List.mem_cons_self)
          have hend : slashed (front ++ [part]) false =
              front.flatMap ('/' :: ·) ++ ['/'] ++ part := by
            simp [slashed]
          rw [hend, List.getLast?_append_of_ne_nil _ hpart.1] at hlast
          exact hpart.2 (List.mem_of_getLast? hlast)

/-- A template without a query is written as its segments behind slashes. -/
theorem toList_render (h : template.query = []) :
    template.render.toList = slashed (template.segments.map Piece.written)
      template.trailingSlash := by
  unfold render slashed
  rw [h]
  cases template.trailingSlash <;>
    simp [renderQuery, Piece.written, String.toList_append, String.toList_join, List.flatMap_map]

/-- The text of a template that is spelled by some text spells it as well. -/
theorem Spells.render {input : List Char} (h : Spells input template) :
    Spells template.render.toList template := by
  have hwritten : ∀ part ∈ template.segments.map Piece.written,
      (part ≠ [] ∧ '/' ∉ part) ∧ ∀ c ∈ part, c ∈ input := by
    rw [List.forall_mem_map]
    intro pieces hpieces
    obtain ⟨segment, hmem, hspells⟩ := h.exists_segment hpieces
    obtain ⟨hne, hslash, hinput⟩ := mem_pathSegments hmem
    refine ⟨⟨?_, fun hc => hslash (hspells.mem_of_mem_written hc)⟩,
      fun c hc => hinput c (hspells.mem_of_mem_written hc)⟩
    rw [ne_eq, hspells.written.eq_nil_iff, ← hspells.eq_nil_iff]
    exact hne
  have hplain {c : Char} (hslash : c ≠ '/') (hinput : c ∉ input) :
      c ∉ template.render.toList := by
    rw [toList_render h.query, slashed, List.mem_append, List.mem_flatMap, not_or]
    constructor
    · rintro ⟨part, hpart, hc⟩
      exact hinput ((hwritten part hpart).2 c ((List.mem_cons.1 hc).resolve_left hslash))
    · split <;> simp [hslash]
  refine ⟨hplain (by decide) h.noQuery, hplain (by decide) h.noFragment, ?_, ?_, h.query⟩
  · rw [toList_render h.query, pathSegments_slashed fun part hpart => (hwritten part hpart).1,
      List.forall₂_map_left_iff, List.forall₂_same]
    intro pieces hpieces
    obtain ⟨segment, -, hspells⟩ := h.exists_segment hpieces
    exact hspells.written
  · rw [toList_render h.query, getLast?_slashed fun part hpart => (hwritten part hpart).1]

/-! ## Placeholders of the path -/

/-- The names of the placeholders of the path as they occur. -/
def occurrences (template : UriTemplate) : List String :=
  template.segments.flatten.filterMap Piece.name?

/-- The path has a placeholder if one of its segments holds it. -/
theorem hasPathVariable_iff {name : String} :
    template.hasPathVariable name = true ↔
      ∃ segment ∈ template.segments, .placeholder name ∈ segment := by
  rw [hasPathVariable, List.contains_iff_mem, List.mem_flatten]

/-- The placeholders of the path are the names of its pieces. -/
theorem mem_filterMap_name? {pieces : List Piece} {name : String} :
    name ∈ pieces.filterMap Piece.name? ↔ .placeholder name ∈ pieces := by
  rw [List.mem_filterMap]
  constructor
  · rintro ⟨piece, hpiece, hname⟩
    cases piece with
    | literal text => cases hname
    | placeholder other =>
        cases hname
        exact hpiece
  · intro h
    exact ⟨_, h, rfl⟩

/-- The placeholders of the path are those that it has. -/
theorem mem_pathVariables {name : String} :
    name ∈ template.pathVariables ↔ template.hasPathVariable name = true := by
  rw [pathVariables, List.mem_eraseDups, mem_filterMap_name?, hasPathVariable,
    List.contains_iff_mem]

/-- Each placeholder of the path is listed once. -/
theorem nodup_pathVariables (template : UriTemplate) : template.pathVariables.Nodup :=
  nodup_eraseDups _

/-- A text is read as a template exactly if it has neither a question mark nor a number sign, and in
each part between its slashes every opening brace is closed behind a name that is not blank, without
a brace between them, and every closing brace closes one. The text spells the template. The text of
the template is read as the same template. The placeholders of its path are those that it has, each
once, in the order of their first occurrences. -/
theorem template_decided (text : String) :
    ((∃ template, parse text = .ok template) ↔
      '?' ∉ text.toList ∧ '#' ∉ text.toList ∧
        ∀ segment ∈ splitOn '/' text.toList, Piece.IsWellBraced segment) ∧
    ∀ template, parse text = .ok template →
      Spells text.toList template ∧ parse template.render = .ok template ∧
      (∀ name, name ∈ template.pathVariables ↔ template.hasPathVariable name = true) ∧
      template.pathVariables.Nodup ∧
      template.pathVariables.Pairwise fun name later =>
        template.occurrences.idxOf name < template.occurrences.idxOf later := by
  refine ⟨exists_parse_eq_ok_iff, fun template h => ?_⟩
  have hspells := parse_eq_ok_iff.1 h
  exact ⟨hspells, parse_eq_ok_iff.2 hspells.render, fun name => mem_pathVariables,
    nodup_pathVariables template, pairwise_eraseDups _⟩

/-- Slashes in a row, blanks around a name and a placeholder that occurs twice, and a segment with a
closing brace too many. -/
theorem template_decided_blanks :
    ∃ template, parse "a//\x7b b \x7dx\x7bc\x7d/\x7bb\x7d/" = .ok template ∧
      template.render = "/a/\x7bb\x7dx\x7bc\x7d/\x7bb\x7d/" ∧
      parse template.render = .ok template ∧ template.pathVariables = ["b", "c"] ∧
      ¬∃ template, parse "/a/id\x7d" = .ok template := by
  have hparse : parse "a//\x7b b \x7dx\x7bc\x7d/\x7bb\x7d/" =
      .ok ⟨[[.literal "a"], [.placeholder "b", .literal "x", .placeholder "c"],
        [.placeholder "b"]], true, []⟩ := by rfl
  obtain ⟨-, hreparse, -⟩ := (template_decided _).2 _ hparse
  refine ⟨_, hparse, by rfl, hreparse, by rfl, ?_⟩
  rw [(template_decided _).1]
  rintro ⟨-, -, hsegments⟩
  obtain ⟨front, name, hfront, -⟩ :=
    (hsegments "id\x7d".toList (by decide)).opened ['i', 'd'] [] rfl
  have hbrace : '\x7b' ∈ ['i', 'd'] := hfront ▸ List.mem_append_right _ List.mem_cons_self
  exact absurd hbrace (by decide)

end UriTemplate

end HttpRpc
