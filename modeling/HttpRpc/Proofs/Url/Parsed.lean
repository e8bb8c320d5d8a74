import HttpRpc.Binding.Template
import HttpRpc.Http.Target
import HttpRpc.Proofs.Checks
import HttpRpc.Proofs.Text.Digits
import HttpRpc.Proofs.Url.Escape

/-!
# What parsed URLs are made of

In a parsed URL of the scheme `http` nothing ends the server but the path behind it, and nothing
ends the path but a query: user name, host and port hold no slash, question mark or number sign, and
segments hold no question mark or number sign. So a reader that cuts the text of the URL finds its
parts again.
-/

namespace HttpRpc.Url

open HttpRpc.Text
open Target (endsServer)

/-- Nothing in the text ends a server. -/
def InServer (text : String) : Prop :=
  ∀ c ∈ text.toList, endsServer c = false

instance (text : String) : Decidable (InServer text) :=
  List.decidableBAll (fun c => endsServer c = false) text.toList

/-- Nothing in the text ends a path. -/
def InPath (text : String) : Prop :=
  ∀ c ∈ text.toList, c ≠ '?' ∧ c ≠ '#'

/-! ## Numerals and escapes -/

/-- A character that ends a server is one of three. -/
theorem endsServer_cases {c : Char} (h : endsServer c = true) : c = '/' ∨ c = '?' ∨ c = '#' := by
  unfold endsServer at h
  simpa [or_assoc] using h

/-- Hexadecimal digits do not end a server. -/
theorem endsServer_of_isHexDigit {c : Char} (h : isHexDigit c = true) : endsServer c = false := by
  cases hends : endsServer c with
  | false => rfl
  | true => rcases endsServer_cases hends with rfl | rfl | rfl <;> exact absurd h (by decide)

/-- Numerals in both bases do not end a server. -/
theorem inServer_toDigits {base : Nat} (hbase : 1 < base ∧ base ≤ 16) (n : Nat) :
    InServer (String.ofList (Nat.toDigits base n)) := by
  intro c hc
  rw [String.toList_ofList] at hc
  exact endsServer_of_isHexDigit (isHexDigit_of_mem_toDigits hbase hc)

/-- Texts that do not end a server do not end one together. -/
theorem inServer_append {first second : String} (hfirst : InServer first)
    (hsecond : InServer second) : InServer (first ++ second) := by
  intro c hc
  rw [String.toList_append, List.mem_append] at hc
  exact hc.elim (hfirst c) (hsecond c)

/-- Texts that do not end a server do not end one with separators of that kind. -/
theorem inServer_intercalate {sep : String} {texts : List String} (hsep : InServer sep)
    (htexts : ∀ text ∈ texts, InServer text) : InServer (String.intercalate sep texts) := by
  induction texts with
  | nil => rw [String.intercalate_nil]; intro c hc; simp at hc
  | cons text rest ih =>
      have hrest := ih fun other hother => htexts other (List.mem_cons_of_mem _ hother)
      have htext := htexts text List.mem_cons_self
      cases rest with
      | nil => rwa [String.intercalate_singleton]
      | cons next others =>
          rw [String.intercalate_cons_cons]
          exact inServer_append (inServer_append htext hsep) hrest

/-! ## Servers -/

/-- An address of version 4 does not end a server. -/
theorem inServer_renderIpv4 (address : Nat) : InServer (Host.renderIpv4 address) := by
  refine inServer_intercalate (by decide) fun text htext => ?_
  obtain ⟨n, -, rfl⟩ := List.mem_map.1 htext
  exact inServer_toDigits (by decide) n

/-- An address of version 6 does not end a server. -/
theorem inServer_renderIpv6 (pieces : List Nat) : InServer (Host.renderIpv6 pieces) := by
  have hpieces (pieces : List Nat) : InServer (Host.renderPieces pieces) := by
    refine inServer_intercalate (by decide) fun text htext => ?_
    obtain ⟨n, -, rfl⟩ := List.mem_map.1 htext
    exact inServer_toDigits (by decide) n
  unfold Host.renderIpv6
  obtain ⟨start, length⟩ := Host.longestRun 0 pieces
  show InServer (if length < 2 then _ else _)
  split
  · exact hpieces pieces
  · exact inServer_append (inServer_append (hpieces _) (by decide)) (hpieces _)

/-- A domain does not end a server. -/
theorem inServer_of_parseDomain {text : List Char} {host : Host}
    (h : Host.parseDomain text = .ok host) : InServer host.render := by
  unfold Host.parseDomain at h
  split at h
  · cases h
  · next domain hdomain =>
      split at h
      · cases h
      · next hforbidden =>
          split at h
          · cases h
          · split at h
            · split at h
              · cases h
                exact inServer_renderIpv4 _
              · cases h
            · cases h
              intro c hc
              rw [Host.render, String.toList_ofList] at hc
              cases hends : endsServer c with
              | false => rfl
              | true =>
                  -- All three are forbidden in domains.
                  refine absurd (List.any_eq_true.2 ⟨c, hc, ?_⟩) hforbidden
                  rcases endsServer_cases hends with rfl | rfl | rfl <;> decide

/-- The host of a URL that browsers know does not end a server. -/
theorem inServer_of_parseHost {text : List Char} {host : Host}
    (h : Host.parse true text = .ok host) : InServer host.render := by
  unfold Host.parse at h
  split at h
  · split at h
    · split at h
      · cases h
        exact inServer_append (inServer_append (by decide) (inServer_renderIpv6 _)) (by decide)
      · cases h
    · cases h
  · exact inServer_of_parseDomain h

/-- A user name and a password do not end a server. -/
theorem inServer_userinfoText (text : List Char) : InServer (userinfoText text) := by
  have hescape (part : List Char) :
      ∀ c ∈ Percent.encode Percent.inUserinfo part, endsServer c = false := by
    intro c hc
    cases hends : endsServer c with
    | false => rfl
    | true =>
        have hset : Percent.inUserinfo c = true ∧ c ≠ '%' ∧ isHexDigit c = false := by
          rcases endsServer_cases hends with rfl | rfl | rfl <;> decide
        exact absurd hc (Percent.not_mem_encode hset.1 hset.2.1 hset.2.2 part)
  unfold userinfoText
  split
  · intro c hc
    rw [String.toList_ofList] at hc
    exact hescape _ c hc
  · next user password _ =>
      intro c hc
      rw [String.toList_ofList, List.mem_append] at hc
      rcases hc with hc | hc
      · exact hescape _ c hc
      · split at hc
        · cases hc
        · rcases List.mem_cons.1 hc with rfl | hc
          · decide
          · exact hescape _ c hc

/-- The parts of an authority do not end a server. -/
theorem inServer_of_parseAuthority {final : Bool} {text : List Char} {authority : Authority}
    (h : parseAuthority "http" final text = .ok authority) :
    InServer authority.userinfo ∧ InServer authority.host.render := by
  have hempty : InServer "" := by decide
  unfold parseAuthority at h
  rw [show isSpecialScheme "http" = true by decide] at h
  -- The server is what is left without the user name, so both cases are the same from here on.
  cases hsplit : splitUserinfo? text
  all_goals
    simp only [hsplit] at h
    split at h
    · cases h
    · split at h
      · cases h
      · obtain ⟨host, hhost, h⟩ := bind_eq_ok.1 h
        obtain ⟨⟨port, behind⟩, -, h⟩ := bind_eq_ok.1 h
        cases h
        first
        | exact ⟨hempty, inServer_of_parseHost hhost⟩
        | exact ⟨inServer_userinfoText _, inServer_of_parseHost hhost⟩

/-! ## Paths -/

/-- An escaped segment does not end a path. -/
theorem inPath_encode (text : List Char) :
    InPath (String.ofList (Percent.encode Percent.inPath text)) := by
  intro c hc
  rw [String.toList_ofList] at hc
  constructor
  · rintro rfl
    exact Percent.not_mem_encode (by decide) (by decide) (by decide) text hc
  · rintro rfl
    exact Percent.not_mem_encode (by decide) (by decide) (by decide) text hc

/-- A step back leaves segments of the path. -/
theorem mem_of_mem_goBack {path : List String} {segment : String} (h : segment ∈ goBack path) :
    segment ∈ path := by
  unfold goBack at h
  split at h
  · exact h
  · exact (List.dropLast_sublist path).subset h

/-- Segments that are followed from segments that do not end a path do not end one. -/
theorem inPath_of_mem_follow {trail : Trail} {texts : List (List Char)} {segment : String}
    (htrail : ∀ other ∈ trail.segments, InPath other)
    (h : segment ∈ (trail.follow false texts).segments) : InPath segment := by
  have hopen {trail : Trail} (htrail : ∀ other ∈ trail.segments, InPath other) :
      ∀ other ∈ trail.open.segments, InPath other := by
    intro other hother
    rcases List.mem_append.1 hother with hother | hother
    · exact htrail other hother
    · rw [List.mem_singleton.1 hother]
      exact fun c hc => absurd hc (by simp)
  have hback {trail : Trail} (htrail : ∀ other ∈ trail.segments, InPath other) :
      ∀ other ∈ trail.back.segments, InPath other :=
    fun other hother => htrail other (mem_of_mem_goBack hother)
  have henter {trail : Trail} (htrail : ∀ other ∈ trail.segments, InPath other)
      (text : List Char) :
      ∀ other ∈ (trail.enter false Percent.inPath text).segments, InPath other := by
    intro other hother
    simp only [Trail.enter, Bool.false_eq_true, false_and, if_false] at hother
    rcases List.mem_append.1 hother with hother | hother
    · exact htrail other hother
    · rw [List.mem_singleton.1 hother]
      exact inPath_encode _
  -- The last text is followed on its own: a dot segment there leaves an empty segment.
  induction texts generalizing trail with
  | nil => exact htrail segment h
  | cons text rest ih =>
      cases rest with
      | nil =>
          rw [Trail.follow] at h
          split at h
          · exact hopen htrail segment h
          · exact hopen (hback htrail) segment h
          · exact henter htrail text segment h
      | cons next others =>
          rw [Trail.follow] at h
          · split at h
            · exact ih htrail h
            · exact ih (hback htrail) h
            · exact ih (henter htrail text) h
          · simp

/-- Segments lead somewhere: the last of them leaves a segment, be it an empty one. -/
theorem follow_ne_nil (trail : Trail) {texts : List (List Char)} (h : texts ≠ []) :
    (trail.follow false texts).segments ≠ [] := by
  induction texts generalizing trail with
  | nil => exact absurd rfl h
  | cons text rest ih =>
      cases rest with
      | nil =>
          rw [Trail.follow]
          split <;> simp [Trail.open, Trail.back, Trail.enter]
      | cons next others =>
          rw [Trail.follow]
          · split
            · exact ih _ (by simp)
            · exact ih _ (by simp)
            · exact ih _ (by simp)
          · simp

/-- The segments of a path on a server do not end it. -/
theorem inPath_of_mem_resolve {texts : List (List Char)} {segment : String}
    (h : segment ∈ (resolve false texts).segments) : InPath segment :=
  have hroot : ∀ other ∈ Trail.root.segments, InPath other := by simp [Trail.root]
  inPath_of_mem_follow hroot h

/-- The text of a path of segments that do not end it does not end it. -/
theorem inPath_renderPath {segments : List String} (h : ∀ segment ∈ segments, InPath segment) :
    InPath (renderPath (.segments segments)) := by
  intro c hc
  rw [renderPath, String.toList_join] at hc
  obtain ⟨text, htext, hc⟩ := List.mem_flatMap.1 hc
  obtain ⟨segment, hsegment, rfl⟩ := List.mem_map.1 htext
  rw [String.toList_append, List.mem_append] at hc
  rcases hc with hc | hc
  · rw [List.mem_singleton.1 hc]
    decide
  · exact h segment hsegment c hc

/-- The text of a path with a segment starts with a slash. -/
theorem head?_renderPath {segments : List String} (h : segments ≠ []) :
    (renderPath (.segments segments)).toList.head? = some '/' := by
  obtain ⟨first, rest, rfl⟩ := List.exists_cons_of_ne_nil h
  rw [renderPath, List.map_cons, String.join_cons, String.append_assoc, String.toList_append]
  rfl

/-! ## URLs -/

/-- What a text of the scheme `http` states has a server, and a path made of segments. -/
theorem parseHierarchy_http {final : Bool} {text : List Char} {hierarchy : Hierarchy}
    (h : parseHierarchy "http" final text = .ok hierarchy) :
    InServer hierarchy.userinfo ∧
      (∃ host, hierarchy.host = some host ∧ InServer host.render) ∧
      ∃ segments, hierarchy.path = .segments segments ∧ ∀ segment ∈ segments, InPath segment := by
  unfold parseHierarchy at h
  simp only [show isSpecialScheme "http" = true by decide, show ("http" = "file") = False by decide,
    if_false, if_true] at h
  obtain ⟨authority, hauthority, h⟩ := bind_eq_ok.1 h
  obtain ⟨huserinfo, hhost⟩ := inServer_of_parseAuthority hauthority
  cases h
  exact ⟨huserinfo, ⟨_, rfl, hhost⟩, _, rfl, fun segment => inPath_of_mem_resolve⟩

/-- What a text of a scheme that browsers know states has a path with a segment, unless it names a
file. -/
theorem parseHierarchy_special {scheme : String} {final : Bool} {text : List Char}
    {hierarchy : Hierarchy} (hspecial : isSpecialScheme scheme = true) (hfile : scheme ≠ "file")
    (h : parseHierarchy scheme final text = .ok hierarchy) :
    ∃ segments, hierarchy.path = .segments segments ∧ segments ≠ [] := by
  unfold parseHierarchy at h
  simp only [hspecial, if_neg hfile, if_true] at h
  obtain ⟨authority, -, h⟩ := bind_eq_ok.1 h
  cases h
  refine ⟨_, rfl, follow_ne_nil _ ?_⟩
  rw [pathBehindHost, Bool.not_true, Bool.and_false, if_neg (by decide)]
  exact splitOn_ne_nil _ _

/-- User name, host and port make up a server. -/
theorem renderAuthority_of_host {url : Url} {host : Host} (hhost : url.host = some host)
    (huserinfo : InServer url.userinfo) (hrender : InServer host.render) :
    ∃ server, url.renderAuthority = "//" ++ server ∧ InServer server := by
  have huser : InServer (if url.userinfo.isEmpty then "" else url.userinfo ++ "@") := by
    split
    · decide
    · exact inServer_append huserinfo (by decide)
  have hport (port : Nat) : InServer (":" ++ decimal port) :=
    inServer_append (by decide) (inServer_toDigits (by decide) port)
  have hjoin (user host port : String) :
      "//" ++ user ++ host ++ port = "//" ++ (user ++ host ++ port) := by
    rw [String.append_assoc, String.append_assoc, String.append_assoc]
  have hserver := inServer_append huser hrender
  unfold renderAuthority
  rw [hhost]
  cases url.port with
  | none => exact ⟨_, hjoin _ _ "", inServer_append hserver (by decide)⟩
  | some port => exact ⟨_, hjoin _ _ _, inServer_append hserver (hport port)⟩

/-- A parsed URL of the scheme `http` has a server behind two slashes, and a path made of segments
that do not end it. -/
theorem parse_http {text : String} {url : Url} (h : parse text = .ok url)
    (hscheme : url.scheme = "http") :
    (∃ server, url.renderAuthority = "//" ++ server ∧ InServer server) ∧
      ∃ segments, url.path = .segments segments ∧ ∀ segment ∈ segments, InPath segment := by
  unfold parse at h
  split at h
  · cases h
  · obtain ⟨⟨userinfo, host, port, path⟩, hhierarchy, h⟩ := bind_eq_ok.1 h
    cases h
    simp only at hscheme
    subst hscheme
    obtain ⟨huserinfo, ⟨server, hserver, hhost⟩, hpath⟩ := parseHierarchy_http hhierarchy
    refine ⟨?_, hpath⟩
    exact renderAuthority_of_host hserver huserinfo hhost

/-- A parsed URL of a scheme that browsers know has a path with a segment, unless it names a
file. -/
theorem parse_special {text : String} {url : Url} (h : parse text = .ok url)
    (hspecial : url.isSpecial = true) (hfile : url.scheme ≠ "file") :
    ∃ segments, url.path = .segments segments ∧ segments ≠ [] := by
  unfold parse at h
  split at h
  · cases h
  · obtain ⟨⟨userinfo, host, port, path⟩, hhierarchy, h⟩ := bind_eq_ok.1 h
    cases h
    exact parseHierarchy_special hspecial hfile hhierarchy

end HttpRpc.Url

/-- A base URL is the URL of its text. -/
theorem HttpRpc.BaseUri.url_of_parse {text : String} {base : BaseUri} (h : parse text = .ok base) :
    Url.parse text = .ok base.url := by
  unfold parse at h
  split at h
  · cases h
  · next url hurl =>
      split at h
      · cases h
      · split at h
        · cases h
        · cases h
          exact hurl
