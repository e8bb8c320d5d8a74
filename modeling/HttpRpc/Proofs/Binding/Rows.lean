import HttpRpc.Proofs.Binding.Table
import HttpRpc.Proofs.Url.Parsed
import Mathlib.Data.List.Nodup

/-!
# Tables of sound rows

A table is bound exactly if its base is a URL that paths can be appended to and its rows are sound:
each can be bound on its own, and no two have one name (`SoundRows`). It then holds what these rows
are bound to and nothing else, whatever their order. Otherwise the error is that of the base, or of
the first row that breaks a rule (`FirstFault`). The main statement is `bind_rows_decided`.
-/

namespace HttpRpc

/-- A text is read as a base if it is the text of its URL, and not otherwise. -/
theorem BaseUri.parse_eq_ok_iff {text : String} {base : BaseUri} :
    parse text = .ok base ↔ Url.parse text = .ok base.url := by
  refine ⟨url_of_parse, fun h => ?_⟩
  unfold parse
  split
  · next herror =>
      rw [h] at herror
      cases herror
  · next url hurl =>
      rw [h] at hurl
      cases hurl
      split
      · next hpath =>
          obtain ⟨list, hlist⟩ := base.segments_path
          rw [hlist] at hpath
          cases hpath
      · split
        · next hfragment =>
            rw [base.fragment_eq_none] at hfragment
            cases hfragment
        · rfl

namespace RouteTable

/-- Each row can be bound on its own, and no two rows have one name. -/
structure SoundRows (base : BaseUri) (rows : List RouteDecl) : Prop where
  bound : ∀ row ∈ rows, ∃ bound, BoundMethod.bind base row = .ok bound
  names : (rows.map RouteDecl.method).Nodup

/-- The rule that a row breaks below others: it cannot be bound, or it can but repeats a name. -/
inductive RowFault (base : BaseUri) (before : List RouteDecl) (row : RouteDecl) :
    BindingError → Prop where
  | unbound {e} : BoundMethod.bind base row = .error e → RowFault base before row e
  | repeated {bound} : BoundMethod.bind base row = .ok bound →
      row.method ∈ before.map RouteDecl.method →
      RowFault base before row (.duplicateRoute row.method)

/-- The first rule that a table breaks is the one that the error is about: that of its base, or the
one that a row breaks below sound rows. -/
inductive FirstFault (baseUri : String) (rows : List RouteDecl) : BindingError → Prop where
  | base {e} : BaseUri.parse baseUri = .error e → FirstFault baseUri rows e
  | row {base before row behind e} : BaseUri.parse baseUri = .ok base →
      rows = before ++ row :: behind → SoundRows base before → RowFault base before row e →
      FirstFault baseUri rows e

variable {base : BaseUri} {above : List BoundMethod} {rows : List RouteDecl} {baseUri : String}

/-! ## Sound rows -/

/-- Rows are sound if those of the front are and the last one breaks no rule. -/
theorem soundRows_concat {front : List RouteDecl} {last : RouteDecl} :
    SoundRows base (front ++ [last]) ↔
      SoundRows base front ∧ ∀ e, ¬RowFault base front last e := by
  constructor
  · rintro ⟨hbound, hnames⟩
    rw [List.map_append, List.map_singleton, List.nodup_append] at hnames
    obtain ⟨hfront, -, hlast⟩ := hnames
    refine ⟨⟨fun row hrow => hbound row (List.mem_append_left _ hrow), hfront⟩, ?_⟩
    intro e hfault
    cases hfault with
    | unbound herror =>
        obtain ⟨bound, hok⟩ := hbound last (List.mem_append_right _ List.mem_cons_self)
        rw [hok] at herror
        cases herror
    | repeated _ hmem => exact hlast _ hmem _ List.mem_cons_self rfl
  · rintro ⟨⟨hbound, hnames⟩, hlast⟩
    obtain ⟨method, hmethod⟩ : ∃ method, BoundMethod.bind base last = .ok method := by
      cases hbind : BoundMethod.bind base last with
      | error e => exact absurd (.unbound hbind) (hlast e)
      | ok method => exact ⟨method, rfl⟩
    constructor
    · rw [List.forall_mem_append, List.forall_mem_singleton]
      exact ⟨hbound, method, hmethod⟩
    · rw [List.map_append, List.map_singleton]
      refine List.nodup_append.2 ⟨hnames, List.nodup_singleton _, ?_⟩
      intro name hname other hother heq
      rw [heq, List.mem_singleton.1 hother] at hname
      exact hlast _ (.repeated hmethod hname)

/-- Rows are sound, or there is a first one that breaks a rule. -/
theorem soundRows_or_fault (base : BaseUri) (rows : List RouteDecl) :
    SoundRows base rows ∨ ∃ before row behind e, rows = before ++ row :: behind ∧
      SoundRows base before ∧ RowFault base before row e := by
  have hnone : SoundRows base [] := ⟨fun row hrow => absurd hrow List.not_mem_nil, List.nodup_nil⟩
  exact sound_or_fault hnone
    (fun front last hfront hlast => soundRows_concat.2 ⟨hfront, hlast⟩) rows

/-- Sound rows are sound in any order. -/
theorem SoundRows.perm {others : List RouteDecl} (h : SoundRows base rows)
    (hperm : others.Perm rows) : SoundRows base others where
  bound row hrow := h.bound row (hperm.subset hrow)
  names := (hperm.map RouteDecl.method).nodup_iff.2 h.names

/-! ## Binding rows -/

/-- Sound rows are passed, under their own names, if these are none of those above. -/
theorem bindRows_append (above : List BoundMethod) (hsound : SoundRows base rows)
    (hnew : ∀ row ∈ rows, row.method ∉ above.map BoundMethod.method) (behind : List RouteDecl) :
    ∃ more, more.map BoundMethod.method = rows.map RouteDecl.method ∧
      bindRows base above (rows ++ behind) = bindRows base (above ++ more) behind := by
  induction rows generalizing above with
  | nil => exact ⟨[], rfl, by rw [List.append_nil, List.nil_append]⟩
  | cons row rest ih =>
      rw [List.forall_mem_cons] at hnew
      obtain ⟨hrow, hrest⟩ := hnew
      obtain ⟨method, hmethod⟩ := hsound.bound row List.mem_cons_self
      have hname : method.method = row.method := BoundMethod.method_of_bind hmethod
      have hnames := hsound.names
      rw [List.map_cons, List.nodup_cons] at hnames
      have hfree : ¬(above.any fun other => other.method == row.method) = true := by
        intro hany
        obtain ⟨other, hother, heq⟩ := List.any_eq_true.1 hany
        exact hrow (List.mem_map.2 ⟨other, hother, beq_iff_eq.1 heq⟩)
      have hbelow : ∀ later ∈ rest,
          later.method ∉ (above ++ [method]).map BoundMethod.method := by
        intro later hlater hmem
        rw [List.map_append, List.map_singleton, List.mem_append, List.mem_singleton, hname] at hmem
        rcases hmem with hmem | heq
        · exact hrest later hlater hmem
        · exact hnames.1 (List.mem_map.2 ⟨later, hlater, heq⟩)
      obtain ⟨more, hmore, hbind⟩ := ih (above ++ [method])
        ⟨fun later hlater => hsound.bound later (List.mem_cons_of_mem _ hlater), hnames.2⟩ hbelow
      refine ⟨method :: more, by rw [List.map_cons, List.map_cons, hname, hmore], ?_⟩
      rw [List.cons_append, bindRows, hmethod]
      simp only [if_neg hfree]
      rw [hbind, List.append_assoc]
      rfl

/-- A row that breaks a rule ends the binding. -/
theorem bindRows_of_fault {before behind : List RouteDecl} {row : RouteDecl} {e : BindingError}
    (hnames : above.map BoundMethod.method = before.map RouteDecl.method)
    (hfault : RowFault base before row e) :
    bindRows base above (row :: behind) = ⟨above, some e⟩ := by
  unfold bindRows
  cases hfault with
  | unbound herror => rw [herror]
  | repeated hbind hmem =>
      rw [← hnames] at hmem
      obtain ⟨other, hother, heq⟩ := List.mem_map.1 hmem
      have hany : (above.any fun other => other.method == row.method) = true :=
        List.any_eq_true.2 ⟨other, hother, beq_iff_eq.2 heq⟩
      simp only [hbind, if_pos hany]

/-! ## Binding tables -/

/-- A table of sound rows is bound, with one method under each of their names. -/
theorem bind_of_soundRows (hbase : BaseUri.parse baseUri = .ok base)
    (hsound : SoundRows base rows) :
    ∃ methods, methods.map BoundMethod.method = rows.map RouteDecl.method ∧
      bind baseUri rows = .ok ⟨base, methods⟩ := by
  obtain ⟨methods, hnames, hbind⟩ :=
    bindRows_append [] hsound (fun _ _ => List.not_mem_nil) []
  rw [List.append_nil, List.nil_append] at hbind
  refine ⟨methods, hnames, ?_⟩
  unfold bind
  rw [hbase, ok_bind, hbind]
  rfl

/-- The first fault of a table is the error of binding it. -/
theorem bind_of_firstFault {e : BindingError} (h : FirstFault baseUri rows e) :
    bind baseUri rows = .error e := by
  unfold bind
  cases h with
  | base herror =>
      rw [herror]
      rfl
  | row hbase hrows hsound hfault =>
      obtain ⟨methods, hnames, hbind⟩ :=
        bindRows_append [] hsound (fun _ _ => List.not_mem_nil) _
      rw [hbase, ok_bind, hrows, hbind, List.nil_append, bindRows_of_fault hnames hfault]
      rfl

/-- The base and the rows of a table are sound, or there is a first fault. -/
theorem soundRows_or_firstFault (baseUri : String) (rows : List RouteDecl) :
    (∃ base, BaseUri.parse baseUri = .ok base ∧ SoundRows base rows) ∨
      ∃ e, FirstFault baseUri rows e := by
  cases hbase : BaseUri.parse baseUri with
  | error e => exact Or.inr ⟨e, .base hbase⟩
  | ok base =>
      rcases soundRows_or_fault base rows with
        hsound | ⟨before, row, behind, e, hrows, hbefore, hfault⟩
      · exact Or.inl ⟨base, rfl, hsound⟩
      · exact Or.inr ⟨e, .row hbase hrows hbefore hfault⟩

/-- The rows of a bound table are sound, and their names are those of its methods. -/
theorem soundRows_of_bind {table : RouteTable} (h : bind baseUri rows = .ok table) :
    BaseUri.parse baseUri = .ok table.base ∧ SoundRows table.base rows ∧
      table.names = rows.map RouteDecl.method := by
  rcases soundRows_or_firstFault baseUri rows with ⟨base, hbase, hsound⟩ | ⟨e, hfault⟩
  · obtain ⟨methods, hnames, hbind⟩ := bind_of_soundRows hbase hsound
    rw [hbind] at h
    cases h
    exact ⟨hbase, hsound, hnames⟩
  · rw [bind_of_firstFault hfault] at h
    cases h

/-- A bound table holds nothing under other names than those of its rows. -/
theorem get?_eq_none_of_bind {table : RouteTable} (h : bind baseUri rows = .ok table)
    {name : String} (hname : name ∉ rows.map RouteDecl.method) : table.get? name = none := by
  rw [← (soundRows_of_bind h).2.2] at hname
  refine List.find?_eq_none.2 fun method hmethod heq => hname ?_
  exact List.mem_map.2 ⟨method, hmethod, beq_iff_eq.1 heq⟩

/-- The order of its rows does not matter for what a table holds. -/
theorem get?_eq_of_perm {others : List RouteDecl} {table other : RouteTable}
    (hperm : others.Perm rows) (h : bind baseUri rows = .ok table)
    (hother : bind baseUri others = .ok other) (name : String) :
    other.get? name = table.get? name := by
  by_cases hname : name ∈ rows.map RouteDecl.method
  · obtain ⟨row, hrow, rfl⟩ := List.mem_map.1 hname
    obtain ⟨hbase, method, hmethod, hget⟩ := get?_of_bind h hrow
    obtain ⟨hotherBase, otherMethod, hotherMethod, hotherGet⟩ :=
      get?_of_bind hother (hperm.symm.subset hrow)
    have hsame : other.base = table.base := Except.ok.inj (hotherBase.symm.trans hbase)
    rw [hsame, hmethod] at hotherMethod
    rw [hget, hotherGet, Except.ok.inj hotherMethod]
  · have hothers : name ∉ others.map RouteDecl.method :=
      fun hmem => hname ((hperm.map RouteDecl.method).subset hmem)
    rw [get?_eq_none_of_bind h hname, get?_eq_none_of_bind hother hothers]

/-- A table is bound exactly if its text is that of a URL with a path of segments and no fragment,
each row can be bound on its own, and no two rows have one name. It then holds under the name of
each row what the row is bound to and nothing under other names, has as many methods as there are
rows, and holds the same if the rows stand in another order. Otherwise the error is that of the
base, or of the first row that cannot be bound or that repeats a name. -/
theorem bind_rows_decided (baseUri : String) (rows : List RouteDecl) :
    ((∃ table, bind baseUri rows = .ok table) ↔
      ∃ url, ∃ hfragment : url.fragment = none, ∃ hpath : ∃ list, url.path = .segments list,
        Url.parse baseUri = .ok url ∧
        (∀ row ∈ rows, ∃ bound, BoundMethod.bind ⟨url, hfragment, hpath⟩ row = .ok bound) ∧
        (rows.map RouteDecl.method).Nodup) ∧
    (∀ table, bind baseUri rows = .ok table →
      Url.parse baseUri = .ok table.base.url ∧ table.size = rows.length ∧
      (∀ row ∈ rows, ∃ bound, BoundMethod.bind table.base row = .ok bound ∧
        table.get? row.method = some bound) ∧
      (∀ name, name ∉ rows.map RouteDecl.method → table.get? name = none) ∧
      ∀ others : List RouteDecl, others.Perm rows →
        ∃ other, bind baseUri others = .ok other ∧ ∀ name, other.get? name = table.get? name) ∧
    ∀ e, bind baseUri rows = .error e ↔ FirstFault baseUri rows e := by
  refine ⟨⟨?_, ?_⟩, fun table h => ?_, fun e => ⟨fun h => ?_, bind_of_firstFault⟩⟩
  · rintro ⟨table, h⟩
    obtain ⟨hbase, hsound, -⟩ := soundRows_of_bind h
    exact ⟨table.base.url, table.base.fragment_eq_none, table.base.segments_path,
      BaseUri.parse_eq_ok_iff.1 hbase, hsound.bound, hsound.names⟩
  · rintro ⟨url, hfragment, hpath, hurl, hbound, hnames⟩
    obtain ⟨methods, -, hbind⟩ :=
      bind_of_soundRows (BaseUri.parse_eq_ok_iff.2 hurl) ⟨hbound, hnames⟩
    exact ⟨_, hbind⟩
  · obtain ⟨hbase, hsound, hnames⟩ := soundRows_of_bind h
    refine ⟨BaseUri.parse_eq_ok_iff.1 hbase, ?_, fun row hrow => (get?_of_bind h hrow).2,
      fun name => get?_eq_none_of_bind h, fun others hperm => ?_⟩
    · have hlength := congrArg List.length hnames
      rwa [names, List.length_map, List.length_map] at hlength
    · obtain ⟨methods, -, hbind⟩ := bind_of_soundRows hbase (hsound.perm hperm)
      exact ⟨_, hbind, get?_eq_of_perm hperm h hbind⟩
  · rcases soundRows_or_firstFault baseUri rows with ⟨base, hbase, hsound⟩ | ⟨other, hfault⟩
    · obtain ⟨methods, -, hbind⟩ := bind_of_soundRows hbase hsound
      rw [hbind] at h
      cases h
    · rw [bind_of_firstFault hfault] at h
      cases h
      exact hfault

/-- Two rows in either order, and a row that repeats a name and states two verbs. -/
theorem bind_rows_decided_items :
    ∃ table other, bind "http://host/api" [⟨"list", [], ["/items"], [], []⟩,
        ⟨"show", [], ["/items/{id}"], [⟨"id", [.path "id"]⟩], []⟩] = .ok table ∧
      bind "http://host/api" [⟨"show", [], ["/items/{id}"], [⟨"id", [.path "id"]⟩], []⟩,
        ⟨"list", [], ["/items"], [], []⟩] = .ok other ∧
      (∀ name, other.get? name = table.get? name) ∧
      bind "http://host/api" [⟨"list", [], ["/items"], [], []⟩,
        ⟨"list", [.get, .post], [], [], []⟩] = .error (.ambiguousVerb "list" ["GET", "POST"]) ∧
      FirstFault "http://host/api" [⟨"list", [], ["/items"], [], []⟩,
        ⟨"list", [.get, .post], [], [], []⟩] (.ambiguousVerb "list" ["GET", "POST"]) := by
  have hbind : ∃ table, bind "http://host/api" [⟨"list", [], ["/items"], [], []⟩,
      ⟨"show", [], ["/items/{id}"], [⟨"id", [.path "id"]⟩], []⟩] = .ok table := ⟨_, rfl⟩
  obtain ⟨table, htable⟩ := hbind
  have hfail : bind "http://host/api" [⟨"list", [], ["/items"], [], []⟩,
      ⟨"list", [.get, .post], [], [], []⟩] = .error (.ambiguousVerb "list" ["GET", "POST"]) := rfl
  obtain ⟨-, -, -, -, hperm⟩ := (bind_rows_decided _ _).2.1 table htable
  obtain ⟨other, hother, hget⟩ := hperm _ (List.Perm.swap _ _ [])
  exact ⟨table, other, htable, hother, hget, hfail, ((bind_rows_decided _ _).2.2 _).1 hfail⟩

end RouteTable

end HttpRpc
