import HttpRpc.Proofs.Checks
import HttpRpc.Proofs.Client.Call
import HttpRpc.Proofs.Service.Dispatch
import HttpRpc.Proofs.Text.Digits
import HttpRpc.Proofs.Text.Split
import HttpRpc.Proofs.Text.Utf8

/-!
# Request vectors on their way

The text of a vector that can be made is read as that vector (`IsValid.parse_render`), and may be
the value of a header (`IsValid.exists_ofString?_render`). So a request that is sent under a vector
carries it to the server (`text?_of_requestFor`, `carriedVector?_of_text?`), and every response
carries it back (`text?_of_dispatch`).
-/

namespace HttpRpc

open HttpRpc.Text

namespace RequestVector

/-- The vector can be made: its root is one that can be told from what follows it. -/
def IsValid (vector : RequestVector) : Prop :=
  checkRoot vector.root = .ok vector.root

instance (vector : RequestVector) : Decidable vector.IsValid :=
  inferInstanceAs (Decidable (checkRoot vector.root = .ok vector.root))

variable {vector other : RequestVector}

/-- A root passes the check as it is, if it has characters and all of them may occur in one. -/
theorem checkRoot_eq_ok_iff {root found : String} :
    checkRoot root = .ok found ↔
      found = root ∧ root ≠ "" ∧ ∀ c ∈ root.toList, isVisible c = true ∧ c ≠ '.' := by
  unfold checkRoot
  by_cases hempty : root = ""
  · simp [hempty]
  · have hnonempty : root.isEmpty = false := by simpa using hempty
    simp only [hnonempty, Bool.false_eq_true, if_false]
    split
    · next hall =>
        simp only [List.all_eq_true, Bool.and_eq_true, bne_iff_ne] at hall
        constructor
        · rintro ⟨⟩
          exact ⟨rfl, hempty, hall⟩
        · rintro ⟨rfl, -, -⟩
          rfl
    · next hall =>
        simp only [List.all_eq_true, Bool.and_eq_true, bne_iff_ne] at hall
        exact ⟨nofun, fun h => absurd h.2.2 hall⟩

/-- A vector can be made exactly if its root has characters, which are visible ASCII and no
points. -/
theorem isValid_iff :
    vector.IsValid ↔
      vector.root ≠ "" ∧ ∀ c ∈ vector.root.toList, isVisible c = true ∧ c ≠ '.' :=
  checkRoot_eq_ok_iff.trans (and_iff_right rfl)

/-- The text has characters, and its octets are visible ASCII. -/
def IsGraphic (text : String) : Prop :=
  text ≠ "" ∧ ∀ octet ∈ Utf8.encodeString text, 0x21 ≤ octet.toNat ∧ octet.toNat ≤ 0x7E

/-- A root passes the check as it is, if it is visible ASCII without points. -/
theorem checkRoot_eq_ok_iff_isGraphic {root found : String} :
    checkRoot root = .ok found ↔ found = root ∧ IsGraphic root ∧ '.' ∉ root.toList := by
  have hoctets : (∀ octet ∈ Utf8.encodeString root, 0x21 ≤ octet.toNat ∧ octet.toNat ≤ 0x7E) ↔
      ∀ c ∈ root.toList, 0x21 ≤ c.toNat ∧ c.toNat ≤ 0x7E :=
    Utf8.forall_mem_encode_iff (fun n => 0x21 ≤ n ∧ n ≤ 0x7E) (fun n hn => by omega) root.toList
  rw [checkRoot_eq_ok_iff, IsGraphic, hoctets]
  simp only [isVisible, Bool.and_eq_true, decide_eq_true_eq]
  constructor
  · rintro ⟨hfound, hne, hall⟩
    exact ⟨hfound, ⟨hne, fun c hc => (hall c hc).1⟩, fun hpoint => (hall _ hpoint).2 rfl⟩
  · rintro ⟨hfound, ⟨hne, hall⟩, hpoint⟩
    exact ⟨hfound, hne, fun c hc => ⟨hall c hc, fun hc' => hpoint (hc' ▸ hc)⟩⟩

/-! ## Making vectors -/

/-- Made of its parts, a vector is valid. -/
theorem isValid_of_fromParts {root : String} {suffixes : List UInt64}
    (h : fromParts root suffixes = .ok vector) : vector.IsValid := by
  rw [fromParts, map_eq_ok] at h
  obtain ⟨found, hroot, rfl⟩ := h
  obtain ⟨rfl, -⟩ := checkRoot_eq_ok_iff.1 hroot
  exact hroot

/-- Only valid vectors are read. -/
theorem isValid_of_parse {input : String} (h : parse input = .ok vector) : vector.IsValid := by
  unfold parse at h
  split at h
  · cases h
  split at h
  · cases h
  · next root segments _ =>
      cases hempty : root.isEmpty with
      | true =>
          rw [hempty] at h
          cases h
      | false =>
          rw [hempty] at h
          obtain ⟨root, hroot, h⟩ := bind_eq_ok.1 h
          obtain ⟨suffixes, -, h⟩ := bind_eq_ok.1 h
          cases h
          obtain ⟨rfl, -⟩ := checkRoot_eq_ok_iff.1 hroot
          exact hroot

/-- The children of a valid vector are valid. -/
theorem IsValid.child (h : vector.IsValid) (number : UInt64) : (vector.child number).IsValid := h

/-! ## Levels -/

/-- Above a child is the vector that it is a child of. -/
theorem parent?_child (vector : RequestVector) (number : UInt64) :
    (vector.child number).parent? = some vector := by
  simp [parent?, child]

/-- A child is one level deeper. -/
theorem depth_child (vector : RequestVector) (number : UInt64) :
    (vector.child number).depth = vector.depth + 1 := by
  simp [depth, child]

/-- A child has one vector above it and one number. -/
theorem child_inj {number another : UInt64} :
    vector.child number = other.child another ↔ vector = other ∧ number = another := by
  refine ⟨fun h => ?_, fun ⟨hvector, hnumber⟩ => by rw [hvector, hnumber]⟩
  have hparent := congrArg parent? h
  rw [parent?_child, parent?_child, Option.some_inj] at hparent
  subst hparent
  exact ⟨rfl, by simpa [child] using h⟩

/-! ## Text -/

/-- The characters of the text: those of the root, and a point and the digits for each level. -/
theorem toList_render (vector : RequestVector) :
    vector.render.toList = vector.root.toList ++
      (vector.suffixes.map fun suffix => Nat.toDigits 16 suffix.toNat).flatMap ('.' :: ·) := by
  rw [render, String.toList_append, String.toList_join, List.flatMap_map, List.flatMap_map]
  simp only [hexadecimal, String.toList_append, String.toList_ofList]
  rfl

/-- A digit of a level is visible and no point. -/
theorem isVisible_of_mem_toDigits {c : Char} {n : Nat} (h : c ∈ Nat.toDigits 16 n) :
    isVisible c = true ∧ c ≠ '.' := by
  have hdigit := isHexDigit_of_mem_toDigits ⟨by decide, by decide⟩ h
  refine ⟨?_, fun hpoint => by rw [hpoint] at hdigit; exact absurd hdigit (by decide)⟩
  simp only [isHexDigit, isDigit, isVisible, Bool.or_eq_true, Bool.and_eq_true,
    decide_eq_true_eq] at hdigit ⊢
  omega

/-- The digits of a level are read as its number. -/
theorem parseSuffix_toDigits (input : String) (number : UInt64) :
    parseSuffix input (Nat.toDigits 16 number.toNat) = .ok number := by
  have hbase : 1 < 16 ∧ 16 ≤ 16 := by decide
  have hnonempty : (Nat.toDigits 16 number.toNat).isEmpty = false := by
    simp [Nat.toDigits_ne_nil]
  have hdigits : (Nat.toDigits 16 number.toNat).all isHexDigit = true :=
    List.all_eq_true.2 fun c hc => isHexDigit_of_mem_toDigits hbase hc
  unfold parseSuffix
  simp only [hnonempty, hdigits, Bool.false_eq_true, if_false, if_true, value?_toDigits hbase]
  rw [if_pos (show number.toNat < UInt64.size from number.toNat_lt), UInt64.ofNat_toNat]

/-- The digits of all levels are read as their numbers. -/
theorem mapM_parseSuffix_toDigits (input : String) (suffixes : List UInt64) :
    (suffixes.map fun suffix => Nat.toDigits 16 suffix.toNat).mapM (parseSuffix input) =
      .ok suffixes := by
  induction suffixes with
  | nil => rfl
  | cons suffix rest ih =>
      rw [List.map_cons, List.mapM_cons, parseSuffix_toDigits, ih]
      rfl

/-- The text of a valid vector falls into its root and its levels at the points. -/
theorem IsValid.splitOn_render (h : vector.IsValid) :
    splitOn '.' vector.render.toList =
      vector.root.toList :: vector.suffixes.map fun suffix => Nat.toDigits 16 suffix.toNat := by
  rw [toList_render]
  refine splitOn_append_flatMap (fun hpoint => ((isValid_iff.1 h).2 _ hpoint).2 rfl)
    fun digits hdigits => ?_
  obtain ⟨suffix, -, rfl⟩ := List.mem_map.1 hdigits
  exact fun hpoint => (isVisible_of_mem_toDigits hpoint).2 rfl

/-- The text of a valid vector is read as the vector. -/
theorem IsValid.parse_render (h : vector.IsValid) : parse vector.render = .ok vector := by
  have hroot : vector.root.toList.isEmpty = false := by
    simpa using (isValid_iff.1 h).1
  have hrender : vector.render.isEmpty = false := by
    rw [Bool.eq_false_iff, ne_eq, String.isEmpty_iff, ← String.toList_eq_nil_iff, toList_render]
    intro hnil
    rw [(List.append_eq_nil_iff.1 hnil).1] at hroot
    cases hroot
  unfold parse
  simp only [hrender, h.splitOn_render, hroot, Bool.false_eq_true, if_false,
    mapM_parseSuffix_toDigits, String.ofList_toList]
  rw [show checkRoot vector.root = .ok vector.root from h]
  rfl

/-- Valid vectors with the same text are the same. -/
theorem IsValid.render_inj (h : vector.IsValid) (hother : other.IsValid) :
    vector.render = other.render ↔ vector = other := by
  refine ⟨fun hrender => ?_, congrArg render⟩
  have hparse := h.parse_render
  rw [hrender, hother.parse_render] at hparse
  exact (Except.ok.inj hparse).symm

/-- The text of a valid vector may be the value of a header, which reads back as the text. -/
theorem IsValid.exists_ofString?_render (h : vector.IsValid) :
    ∃ value, HeaderValue.ofString? vector.render = some value ∧
      value.text? = some vector.render := by
  refine HeaderValue.exists_ofString?_eq fun c hc => ?_
  have hvisible : isVisible c = true ∨ c = '.' := by
    rw [toList_render, List.mem_append] at hc
    rcases hc with hc | hc
    · exact Or.inl ((isValid_iff.1 h).2 c hc).1
    · obtain ⟨digits, hdigits, hc⟩ := List.mem_flatMap.1 hc
      obtain ⟨suffix, -, rfl⟩ := List.mem_map.1 hdigits
      rcases List.mem_cons.1 hc with hc | hc
      · exact Or.inr hc
      · exact Or.inl (isVisible_of_mem_toDigits hc).1
  rcases hvisible with hvisible | rfl
  · simp only [isVisible, Bool.and_eq_true, decide_eq_true_eq] at hvisible
    omega
  · decide

end RequestVector

variable {vector : RequestVector}

namespace ClientProxy

/-- A request under a vector states it. -/
theorem text?_withVector (h : vector.IsValid) (request : ExchangeRequest) :
    (withVector request vector).headers.text? Headers.requestVector = some vector.render := by
  obtain ⟨value, hvalue, htext⟩ := h.exists_ofString?_render
  unfold withVector Headers.text?
  rw [hvalue]
  show ((request.headers.insert Headers.requestVector value).get? _).bind _ = _
  rw [Headers.get?_insert_self, Option.bind_some, htext]

/-- A request that is sent from a vector is sent under the child that the source numbers next. -/
theorem text?_of_requestFor {proxy : ClientProxy} {method : String} {args : List Json}
    {world after : World} {parent : RequestVector} (hparent : parent.IsValid)
    {request : ExchangeRequest}
    (h : proxy.requestFor method args (some parent) world = (.ok request, after)) :
    let source := world.sources.getD proxy.factory.source .new
    request.headers.text? Headers.requestVector = some (parent.child source.next).render ∧
      after.sources = world.sources.set proxy.factory.source ⟨source.next + 1⟩ := by
  cases hprepare : proxy.prepare method args with
  | error e =>
      rw [requestFor_of_prepare_error hprepare] at h
      cases h
  | ok prepared =>
      rw [requestFor_of_prepare hprepare] at h
      cases h
      exact ⟨text?_withVector (hparent.child _) prepared, rfl⟩

end ClientProxy

namespace HttpDispatcher

/-- A request that states a vector carries it. -/
theorem carriedVector?_of_text? (h : vector.IsValid) {headers : Headers}
    (htext : headers.text? Headers.requestVector = some vector.render) :
    carriedVector? headers = some vector := by
  unfold carriedVector?
  rw [htext]
  show (RequestVector.parse vector.render).toOption = some vector
  rw [h.parse_render]
  rfl

/-- A header that is set as the text of a vector states it. -/
theorem text?_setText_render (h : vector.IsValid) (headers : Headers) (name : String) :
    (setText headers name vector.render).text? name = some vector.render := by
  obtain ⟨value, hvalue, htext⟩ := h.exists_ofString?_render
  rw [Headers.text?, get?_setText_self headers hvalue, Option.bind_some, htext]

/-- A response in the context of a vector states it. -/
theorem text?_respond (h : vector.IsValid) (status : Status) (media : MediaType) (body : Body) :
    (respond vector status media body).headers.text? Headers.requestVector =
      some vector.render := by
  unfold respond Headers.text?
  rw [get?_setText_of_ne _ (by decide)]
  exact text?_setText_render h Headers.empty Headers.requestVector

/-- A response to a request that has no result states the vector, too. -/
theorem text?_errorResponse (h : vector.IsValid) (dispatcher : HttpDispatcher)
    (accepted : List MediaType) (e : DispatchError) :
    (dispatcher.errorResponse vector accepted e).headers.text? Headers.requestVector =
      some vector.render := by
  unfold errorResponse
  cases e with
  | methodNotAllowed verb =>
      unfold Headers.text?
      rw [get?_setText_of_ne _ (by decide)]
      exact text?_respond h ..
  | _ => exact text?_respond h ..

section

variable {dispatcher : HttpDispatcher} {request : Request} {response : Response}
  {world after : World}

/-- Whatever the answer is, the response states the vector. -/
theorem text?_of_finished (h : vector.IsValid) {answer : Except DispatchError (MediaType × Body)}
    (hfinished : dispatcher.finished request vector answer world = (response, after)) :
    response.headers.text? Headers.requestVector = some vector.render := by
  cases answer with
  | ok found =>
      cases hfinished
      exact text?_respond h ..
  | error e =>
      cases hfinished
      exact text?_errorResponse h ..

/-- Whatever happens to a request that carries a vector, the response states it. -/
theorem text?_of_dispatch (h : vector.IsValid)
    (hcarried : carriedVector? request.headers = some vector) {context : Option RequestVector}
    (hdispatch : dispatcher.dispatch request context world = (response, after)) :
    response.headers.text? Headers.requestVector = some vector.render := by
  have hvector : vectorOf request world = vector := by
    rw [vectorOf, hcarried, Option.getD_some]
  rcases hhandle : dispatcher.handle request (some (vectorOf request world))
    (entered request world) with ⟨answer, left⟩
  have hfinished := dispatch_of_handle context hhandle
  rw [hdispatch, hvector] at hfinished
  exact text?_of_finished h hfinished.symm

end

end HttpDispatcher

end HttpRpc
