import HttpRpc.Proofs.Trace.Vector

/-!
# The vectors that can be made

Vectors are made of a root, of parts, of a text or for a request without one, and other vectors are
made of them by going down and up (`Reachable`). All of them are valid (`Reachable.isValid`), so no
text is lost or shared: each vector is read back from its own (`build_lossless`).
-/

namespace HttpRpc.RequestVector

open HttpRpc.Text

/-- The vectors that can be made. -/
inductive Reachable : RequestVector → Prop where
  | new {root : String} {vector : RequestVector} (h : RequestVector.new root = .ok vector) :
      Reachable vector
  | freshRoot (n : Nat) : Reachable (.freshRoot n)
  | fromParts {root : String} {suffixes : List UInt64} {vector : RequestVector}
      (h : RequestVector.fromParts root suffixes = .ok vector) : Reachable vector
  | parse {input : String} {vector : RequestVector} (h : RequestVector.parse input = .ok vector) :
      Reachable vector
  | child {vector : RequestVector} (h : Reachable vector) (number : UInt64) :
      Reachable (vector.child number)
  | parent {vector above : RequestVector} (h : Reachable vector)
      (hparent : vector.parent? = some above) : Reachable above
  | nextChild {vector : RequestVector} (h : Reachable vector) (source : VectorSource) :
      Reachable (source.nextChild vector).1

variable {vector above : RequestVector}

/-! ## Parts -/

/-- Parts make a vector exactly if the root is visible ASCII without points, and it is made of these
parts. -/
theorem fromParts_eq_ok_iff {root : String} {suffixes : List UInt64} :
    fromParts root suffixes = .ok vector ↔
      (IsGraphic root ∧ '.' ∉ root.toList) ∧ vector = ⟨root, suffixes⟩ := by
  rw [fromParts, map_eq_ok]
  constructor
  · rintro ⟨found, hfound, rfl⟩
    obtain ⟨rfl, hroot⟩ := checkRoot_eq_ok_iff_isGraphic.1 hfound
    exact ⟨hroot, rfl⟩
  · rintro ⟨hroot, rfl⟩
    exact ⟨root, checkRoot_eq_ok_iff_isGraphic.2 ⟨rfl, hroot⟩, rfl⟩

/-- Parts have a text exactly if they make a vector, and it is the text of that vector. -/
theorem build_eq_ok_iff {root text : String} {suffixes : List UInt64} :
    build root suffixes = .ok text ↔
      (IsGraphic root ∧ '.' ∉ root.toList) ∧ text = render ⟨root, suffixes⟩ := by
  rw [build, map_eq_ok]
  constructor
  · rintro ⟨made, hmade, rfl⟩
    obtain ⟨hroot, rfl⟩ := fromParts_eq_ok_iff.1 hmade
    exact ⟨hroot, rfl⟩
  · rintro ⟨hroot, rfl⟩
    exact ⟨_, fromParts_eq_ok_iff.2 ⟨hroot, rfl⟩, rfl⟩

/-! ## Validity -/

/-- A root that is made up is valid. -/
theorem isValid_freshRoot (n : Nat) : (freshRoot n).IsValid := by
  refine isValid_iff.2 ⟨fun hempty => ?_, fun c hc => ?_⟩
  · have hnil : (freshRoot n).root.toList = [] := by rw [hempty]; rfl
    rw [freshRoot, String.toList_ofList] at hnil
    exact Nat.toDigits_ne_nil (List.append_eq_nil_iff.1 hnil).2
  · rw [freshRoot, String.toList_ofList, List.mem_append] at hc
    rcases hc with hc | hc
    · rw [(List.mem_replicate.1 hc).2]
      decide
    · exact isVisible_of_mem_toDigits hc

/-- Above a valid vector is a valid one. -/
theorem IsValid.of_parent? (h : vector.IsValid) (hparent : vector.parent? = some above) :
    above.IsValid := by
  unfold parent? at hparent
  split at hparent
  · cases hparent
  · cases hparent
    exact h

/-- All vectors that can be made are valid. -/
theorem Reachable.isValid (h : Reachable vector) : vector.IsValid := by
  induction h with
  | new h => exact isValid_of_fromParts h
  | freshRoot n => exact isValid_freshRoot n
  | fromParts h => exact isValid_of_fromParts h
  | parse h => exact isValid_of_parse h
  | child h number ih => exact ih.child number
  | parent h hparent ih => exact ih.of_parent? hparent
  | nextChild h source ih => exact ih.child source.next

/-! ## Texts -/

/-- Parts have a text exactly if the root is visible ASCII without points, and the text is read as
the parts. Every vector that can be made is read back from its text, so different vectors have
different texts. -/
theorem build_lossless :
    (∀ root suffixes,
      ((∃ text, build root suffixes = .ok text) ↔ IsGraphic root ∧ '.' ∉ root.toList) ∧
      ∀ text, build root suffixes = .ok text → parse text = .ok ⟨root, suffixes⟩) ∧
    (∀ vector, Reachable vector → parse vector.render = .ok vector) ∧
    ∀ vector other, Reachable vector → Reachable other →
      (vector.render = other.render ↔ vector = other) := by
  refine ⟨fun root suffixes => ⟨⟨?_, ?_⟩, fun text h => ?_⟩, fun vector h => ?_,
    fun vector other h hother => ?_⟩
  · rintro ⟨text, h⟩
    exact (build_eq_ok_iff.1 h).1
  · exact fun h => ⟨_, build_eq_ok_iff.2 ⟨h, rfl⟩⟩
  · obtain ⟨hroot, rfl⟩ := build_eq_ok_iff.1 h
    exact (isValid_of_fromParts (fromParts_eq_ok_iff.2 ⟨hroot, rfl⟩)).parse_render
  · exact h.isValid.parse_render
  · exact h.isValid.render_inj hother.isValid

/-- A vector that is made of parts with the largest number, then one that is read and gone up and
down from. -/
theorem build_lossless_parts :
    build "x" [18446744073709551615, 0, 255] = .ok "x.ffffffffffffffff.0.ff" ∧
      parse "x.ffffffffffffffff.0.ff" = .ok ⟨"x", [18446744073709551615, 0, 255]⟩ ∧
      Reachable ⟨"x", [26, 1]⟩ ∧ parse "x.1a.1" = .ok ⟨"x", [26, 1]⟩ := by
  have hbuild : build "x" [18446744073709551615, 0, 255] = .ok "x.ffffffffffffffff.0.ff" := by
    decide
  have hparse : parse "x.1A.ff" = .ok ⟨"x", [26, 255]⟩ := by decide
  have hreachable : Reachable ⟨"x", [26, 1]⟩ :=
    ((Reachable.parse hparse).parent rfl).nextChild .new
  exact ⟨hbuild, (build_lossless.1 _ _).2 _ hbuild, hreachable,
    build_lossless.2.1 _ hreachable⟩

end HttpRpc.RequestVector
