import HttpRpc.Binding.Table
import HttpRpc.Proofs.Binding.Braces
import HttpRpc.Proofs.Binding.Containment
import HttpRpc.Proofs.Text.Split

/-!
# Routes of one word

A route that submits its only argument to a path of one word has a URL that depends on no argument:
the base with the word as its last segment (`bind_submit`).
-/

namespace HttpRpc

open HttpRpc.Text

/-- A text of one or more letters and digits. -/
def IsWord (name : String) : Prop :=
  name ≠ "" ∧ ∀ c ∈ name.toList, isAlphanumeric c = true

instance (name : String) : Decidable (IsWord name) :=
  have : Decidable (∀ c ∈ name.toList, isAlphanumeric c = true) :=
    List.decidableBAll (fun c => isAlphanumeric c = true) name.toList
  inferInstanceAs (Decidable (_ ∧ ∀ c ∈ name.toList, isAlphanumeric c = true))

/-- The declaration of a method that submits its only argument to a path of its name. -/
def RouteDecl.submit (name param : String) : RouteDecl :=
  ⟨name, [.post], ["/" ++ name], [⟨param, [.body]⟩], []⟩

/-- The template of a path of one word. -/
def UriTemplate.word (name : String) : UriTemplate := ⟨[[.literal name]], false, []⟩

/-! ## Letters and digits -/

/-- The code points of letters and digits. -/
theorem toNat_of_isAlphanumeric {c : Char} (h : isAlphanumeric c = true) :
    (48 ≤ c.toNat ∧ c.toNat ≤ 57) ∨ (65 ≤ c.toNat ∧ c.toNat ≤ 90) ∨
      (97 ≤ c.toNat ∧ c.toNat ≤ 122) := by
  simp only [isAlphanumeric, isLetter, isDigit, Bool.or_eq_true, Bool.and_eq_true,
    decide_eq_true_eq] at h
  omega

/-- Letters and digits stand in a segment as they are. -/
theorem inSegment_of_isAlphanumeric (special : Bool) {c : Char} (h : isAlphanumeric c = true) :
    Url.Percent.inSegment special c = false := by
  have hrange := toNat_of_isAlphanumeric h
  have hne (d : Char) (hd : isAlphanumeric d = false) : c ≠ d := by
    rintro rfl
    exact absurd (h.symm.trans hd) (by decide)
  have hcontrol : Url.Percent.isControl c = false := by
    simp only [Url.Percent.isControl, Bool.or_eq_false_iff, decide_eq_false_iff_not,
      beq_eq_false_iff_ne]
    omega
  simp [Url.Percent.inSegment, Url.Percent.inPath, Url.Percent.inFragment, hcontrol,
    hne ' ' (by decide), hne '"' (by decide), hne '<' (by decide), hne '>' (by decide),
    hne '\x60' (by decide), hne '#' (by decide), hne '?' (by decide), hne '\x7b' (by decide),
    hne '\x7d' (by decide), hne '/' (by decide), hne '%' (by decide), hne '\\' (by decide)]

namespace IsWord

variable {name : String}

/-- A character that is no letter or digit does not occur in a word. -/
theorem not_mem (h : IsWord name) {c : Char} (hc : isAlphanumeric c = false) :
    c ∉ name.toList := by
  intro hmem
  exact absurd ((h.2 c hmem).symm.trans hc) (by decide)

/-- Words have characters. -/
theorem toList_ne_nil (h : IsWord name) : name.toList ≠ [] := by
  intro hempty
  exact h.1 (String.toList_eq_nil_iff.1 hempty)

/-- Nothing is removed from a word. -/
theorem kept_eq (h : IsWord name) : Url.kept name.toList = name.toList := by
  refine List.filter_eq_self.2 fun c hc => ?_
  cases hignored : Url.isIgnored c with
  | false => rfl
  | true =>
      unfold Url.isIgnored at hignored
      simp only [Bool.or_eq_true, beq_iff_eq, or_assoc] at hignored
      rcases hignored with rfl | rfl | rfl <;> exact absurd hc (h.not_mem (by decide))

/-- A word names a place. -/
theorem isPlace (h : IsWord name) : Url.IsPlace name := by
  unfold Url.IsPlace
  rw [h.kept_eq]
  have hpoint : '.' ∉ name.toList := h.not_mem (by decide)
  simp only [List.mem_cons, List.not_mem_nil, or_false, not_or]
  refine ⟨h.toList_ne_nil, ?_, ?_⟩ <;>
  · intro heq
    rw [heq] at hpoint
    exact hpoint List.mem_cons_self

/-- A word makes a segment as it is. -/
theorem segmentOf_eq (h : IsWord name) (special : Bool) : Url.segmentOf special name = name := by
  have hencode : Url.Percent.encode (Url.Percent.inSegment special) name.toList = name.toList := by
    refine Url.Percent.encode_eq_self_iff.2 fun c hc => ⟨?_, ?_⟩
    · have hrange := toNat_of_isAlphanumeric (h.2 c hc)
      omega
    · exact inSegment_of_isAlphanumeric special (h.2 c hc)
  rw [Url.segmentOf, h.kept_eq, hencode, String.ofList_toList]

end IsWord

/-! ## Templates -/

namespace UriTemplate

/-- A slash and a word are the template of the word. -/
theorem parse_word {name : String} (h : IsWord name) : parse ("/" ++ name) = .ok (word name) := by
  have hchars : ("/" ++ name).toList = '/' :: name.toList := String.toList_append
  have hquery : (('/' :: name.toList).contains '?' || ('/' :: name.toList).contains '#') =
      false := by
    have hmark : '?' ∉ name.toList := h.not_mem (by decide)
    have hsign : '#' ∉ name.toList := h.not_mem (by decide)
    simp [hmark, hsign]
  -- The empty part before the slash is dropped.
  have hsegments : pathSegments ('/' :: name.toList) = [name.toList] := by
    have hslash : '/' ∉ name.toList := h.not_mem (by decide)
    have hsplit := splitOn_append '/' [] name.toList
    rw [List.nil_append, splitOn_eq_self hslash] at hsplit
    rw [pathSegments, hsplit]
    simp [splitOn, h.toList_ne_nil]
  have hpieces : Piece.parseSegment name.toList = .ok [.literal name] := by
    have hbraceless : Piece.IsBraceless name.toList := by
      rintro c hc (rfl | rfl)
      · exact h.not_mem (by decide) hc
      · exact h.not_mem (by decide) hc
    rw [Piece.parseSegment_of_isBraceless hbraceless, Piece.ofText,
      if_neg (by simpa using h.toList_ne_nil), String.ofList_toList]
  have hlast : (('/' :: name.toList).getLast? == some '/') = false := by
    rw [beq_eq_false_iff_ne]
    intro hslash
    obtain ⟨c, rest, hname⟩ := List.exists_cons_of_ne_nil h.toList_ne_nil
    rw [hname, List.getLast?_cons_cons, ← hname] at hslash
    exact absurd (List.mem_of_getLast? hslash) (h.not_mem (by decide))
  have hparse : parse? ("/" ++ name).toList = .ok (word name) := by
    rw [hchars, parse?, hquery, hsegments, hlast]
    simp only [List.mapM_cons, List.mapM_nil, hpieces]
    rfl
  rw [parse, hparse]

/-- The template of a word appends the word, whatever the values. -/
theorem expand_word (base : BaseUri) (name : String) (values : PlaceholderValues) :
    (word name).expand base values = .ok (base.url.appendSegments [name] false) := by
  have htext : Piece.expandSegment values [.literal name] = .ok name := by
    show Except.ok (name ++ "") = _
    rw [String.append_empty]
  unfold expand word
  rw [List.mapM_cons, htext]
  rfl

end UriTemplate

/-- A route that submits its only argument is bound to the URL of its word. -/
theorem BoundMethod.bind_submit {name : String} (h : IsWord name) (base : BaseUri)
    (param : String) :
    BoundMethod.bind base (.submit name param) =
      .ok ⟨name, .post, 1, ⟨base, .word name, [], [],
        some (base.url.appendSegments [name] false)⟩, some 0⟩ := by
  have hroles : (RouteDecl.submit name param).params.zipIdx.foldlM
      (addParam name (.word name)) ⟨[], [], none⟩ = .ok ⟨[], [], some 0⟩ := rfl
  have hvariables : (UriTemplate.word name).pathVariables = [] := rfl
  unfold BoundMethod.bind
  simp only [show (RouteDecl.submit name param).qualifiers = [] from rfl,
    show verbOf (.submit name param) = .ok .post from rfl,
    show pathOf (.submit name param) = .ok ("/" ++ name) from rfl,
    show (RouteDecl.submit name param).method = name from rfl, ok_bind,
    UriTemplate.parse_word h]
  rw [hroles]
  simp only [ok_bind, hvariables, List.find?_nil, addQueryKeys, UriTemplate.expand_word]
  rfl

/-- A method that submits its only argument can be bound to every base. -/
theorem RouteTable.exists_bind_submit {name : String} (h : IsWord name) {baseUri : String}
    {base : BaseUri} (hbase : BaseUri.parse baseUri = .ok base) (param : String) :
    ∃ table, bind baseUri [.submit name param] = .ok table ∧ table.base = base := by
  unfold bind
  rw [hbase, ok_bind, bindRows, BoundMethod.bind_submit h]
  exact ⟨_, rfl, rfl⟩

end HttpRpc
