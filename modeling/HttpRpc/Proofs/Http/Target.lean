import HttpRpc.Http.Target
import HttpRpc.Proofs.Checks
import Mathlib.Data.List.TakeDrop

/-!
# Targets of URLs

A server that receives the text of a URL of the scheme `http` finds its path again, and no query
where there is none, if the text is a target at all.
-/

namespace HttpRpc.Target

open HttpRpc.Text

/-- A span ends where a run of characters does, if the next one fails. -/
theorem span_append {p : Char → Bool} {run behind : List Char} (hrun : ∀ c ∈ run, p c = true)
    (hbehind : ∀ c, behind.head? = some c → p c = false) :
    (run ++ behind).span p = (run, behind) := by
  rw [List.span_eq_takeWhile_dropWhile, List.takeWhile_append_of_pos hrun,
    List.dropWhile_append_of_pos hrun]
  cases behind with
  | nil => simp
  | cons c rest =>
      have hc := hbehind c rfl
      simp [hc]

/-- A path without a query and a fragment is read as it is. -/
theorem ofPathAndQuery_path {text : List Char} {target : Target}
    (htext : ∀ c ∈ text, c ≠ '?' ∧ c ≠ '#') (h : ofPathAndQuery text = .ok target) :
    target = ⟨String.ofList text, none⟩ := by
  have hspan : (text ++ []).span (fun c => c != '?' && c != '#') = (text, []) :=
    span_append (fun c hc => by simp [htext c hc]) (by simp)
  unfold ofPathAndQuery at h
  rw [List.append_nil] at hspan
  simp only [hspan] at h
  split at h
  · cases h
  · cases h
    rfl

/-- A target behind a scheme and a server is the path behind them. -/
theorem parse_http {server path : String} {target : Target}
    (hserver : ∀ c ∈ server.toList, endsServer c = false)
    (hpath : ∀ c ∈ path.toList, c ≠ '?' ∧ c ≠ '#') (hslash : path.toList.head? = some '/')
    (h : parse ("http:" ++ "//" ++ server ++ path) = .ok target) : target = ⟨path, none⟩ := by
  have hchars : ("http:" ++ "//" ++ server ++ path).toList =
      'h' :: 't' :: 't' :: 'p' :: ':' :: '/' :: '/' :: (server.toList ++ path.toList) := by
    simp [String.toList_append]
  have hscheme : afterScheme? ('h' :: 't' :: 't' :: 'p' :: ':' :: '/' :: '/' ::
      (server.toList ++ path.toList)) = .ok (some (server.toList ++ path.toList)) := by
    have hspan : (['h', 't', 't', 'p'] ++ ':' :: '/' :: '/' ::
        (server.toList ++ path.toList)).span isSchemeChar =
        (['h', 't', 't', 'p'], ':' :: '/' :: '/' :: (server.toList ++ path.toList)) :=
      span_append (List.all_eq_true.1 rfl) (by simp; decide)
    unfold afterScheme?
    rw [show 'h' :: 't' :: 't' :: 'p' :: ':' :: '/' :: '/' :: (server.toList ++ path.toList) =
      ['h', 't', 't', 'p'] ++ ':' :: '/' :: '/' :: (server.toList ++ path.toList) from rfl, hspan]
    rfl
  have hspan : (server.toList ++ path.toList).span (fun c => !endsServer c) =
      (server.toList, path.toList) := by
    refine span_append (fun c hc => by simp [hserver c hc]) fun c hc => ?_
    rw [hslash] at hc
    cases hc
    decide
  unfold parse at h
  simp only [hchars] at h
  split at h
  · cases h
  · -- The text starts with a letter and goes on, so it is none of the short forms.
    split at h
    · next heq => cases heq
    · next heq => cases heq
    · next heq => cases heq
    · next heq => cases heq
    · obtain ⟨found, hfound, h⟩ := bind_eq_ok.1 h
      cases hscheme.symm.trans hfound
      obtain ⟨-, -, h⟩ := bind_eq_ok.1 h
      simp only [hspan] at h
      split at h
      · cases h
      · rw [ofPathAndQuery_path hpath h, String.ofList_toList]

end HttpRpc.Target
