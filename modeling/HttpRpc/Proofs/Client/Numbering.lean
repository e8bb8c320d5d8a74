import HttpRpc.Proofs.Client.Request
import HttpRpc.Proofs.Trace.Vector

/-!
# Numbers of outgoing calls

A process builds factories and sends requests through their proxies, in any order and from any
vectors. Every factory has a source of its own, which counts its requests from one on (`Numbered`).
So the vector of a request says from which vector it was sent and how many requests its factory had
sent before (`Process.text?_eq_iff`): requests of one factory never share a vector, but those of two
factories may (`Process.text?_eq_of_two_factories`).
-/

namespace HttpRpc

/-! ## Processes -/

/-- A request that was sent: through which of the factories, from which vector, and what it was. -/
structure Sending where
  factory : Nat
  parent : RequestVector
  request : ExchangeRequest

/-- The text of the vector under which a request was sent, if it states one. -/
def Sending.text? (sending : Sending) : Option String :=
  sending.request.headers.text? Headers.requestVector

/-- The number of requests sent through a factory before the `i`-th request. -/
def sentBefore (sendings : List Sending) (factory i : Nat) : Nat :=
  (sendings.take i).countP fun sending => sending.factory == factory

/-- The states that a process comes to, with the factories that it has built and the requests that
it has sent from vectors. A call takes its number in one step (`requestFor`), so calls at the same
time are steps in some order; nothing but building and sending touches the sources. -/
inductive Process : World → List ClientFactory → List Sending → Prop where
  | start : Process .initial [] []
  | build {world after : World} {factories : List ClientFactory} {sendings : List Sending}
      (h : Process world factories sendings) {settings : FactorySettings}
      {context : Option RequestVector} {factory : ClientFactory}
      (hbuild : ClientFactory.build settings context world = (.ok factory, after)) :
      Process after (factories ++ [factory]) sendings
  | send {world after : World} {factories : List ClientFactory} {sendings : List Sending}
      (h : Process world factories sendings) {proxy : ClientProxy} {k : Nat}
      (hfactory : factories[k]? = some proxy.factory) {parent : RequestVector}
      (hparent : parent.IsValid) {method : String} {args : List Json} {request : ExchangeRequest}
      (hsend : proxy.requestFor method args (some parent) world = (.ok request, after)) :
      Process after factories (sendings ++ [⟨k, parent, request⟩])
  | other {world after : World} {factories : List ClientFactory} {sendings : List Sending}
      (h : Process world factories sendings) (hsources : after.sources = world.sources) :
      Process after factories sendings

/-! ## Steps -/

/-- A factory that is built has a new source. -/
theorem ClientFactory.source_of_build {settings : FactorySettings} {context : Option RequestVector}
    {world after : World} {factory : ClientFactory}
    (h : build settings context world = (.ok factory, after)) :
    factory.source = world.sources.length ∧
      after.sources = world.sources ++ [VectorSource.new] := by
  unfold build at h
  cases hassemble : assemble settings with
  | error e =>
      rw [hassemble] at h
      cases h
  | ok make =>
      rw [hassemble] at h
      cases h
      exact ⟨source_of_assemble hassemble _, rfl⟩

namespace ClientProxy

variable {proxy : ClientProxy} {method : String} {args : List Json} {world after : World}

/-- A call that sends nothing, or not from a vector, takes no number. -/
theorem sources_of_requestFor {context : Option RequestVector}
    {result : Except ClientError ExchangeRequest}
    (h : proxy.requestFor method args context world = (result, after))
    (hunsent : context = none ∨ ∃ e, result = .error e) : after.sources = world.sources := by
  cases hprepare : proxy.prepare method args with
  | error e =>
      rw [requestFor_of_prepare_error hprepare] at h
      cases h
      rfl
  | ok prepared =>
      rw [requestFor_of_prepare hprepare] at h
      rcases hunsent with rfl | ⟨e, rfl⟩
      · cases h
        rfl
      · cases h

end ClientProxy

/-! ## Numbers -/

/-- The number of a request behind `n` others of its factory. -/
def requestNumber (n : Nat) : UInt64 := UInt64.ofNat (n + 1)

/-- Requests behind different numbers of others have different numbers, as long as they are fewer
than a source has numbers. -/
theorem requestNumber_inj {n m : Nat} (hn : n + 1 < Nat.pow 2 64) (hm : m + 1 < Nat.pow 2 64) :
    requestNumber n = requestNumber m ↔ n = m := by
  refine ⟨fun h => ?_, congrArg requestNumber⟩
  have hnat := congrArg UInt64.toNat h
  rw [requestNumber, requestNumber, UInt64.toNat_ofNat_of_lt' hn,
    UInt64.toNat_ofNat_of_lt' hm] at hnat
  exact Nat.succ_inj.1 hnat

/-- The numbers follow each other. -/
theorem requestNumber_succ (n : Nat) : requestNumber (n + 1) = requestNumber n + 1 :=
  UInt64.ofNat_add (n + 1) 1

/-- What stands in a list with one more item behind it stands in the list or is the item. -/
theorem getElem?_concat_eq_some {α : Type} {items : List α} {last item : α} {k : Nat}
    (h : (items ++ [last])[k]? = some item) :
    items[k]? = some item ∨ k = items.length ∧ last = item := by
  rw [List.getElem?_append] at h
  split at h
  · exact Or.inl h
  · obtain ⟨hlt, hitem⟩ := List.getElem?_eq_some_iff.1 h
    rw [List.length_singleton] at hlt
    exact Or.inr ⟨by omega, by simpa using hitem⟩

section

variable {sendings : List Sending} {factory : Nat}

/-- No more requests are sent through one factory than through all. -/
theorem sentBefore_le (sendings : List Sending) (factory i : Nat) :
    sentBefore sendings factory i ≤ i :=
  Nat.le_trans List.countP_le_length (List.length_take_le i sendings)

/-- What is sent later does not count. -/
theorem sentBefore_append {i : Nat} (h : i ≤ sendings.length) (later : List Sending) :
    sentBefore (sendings ++ later) factory i = sentBefore sendings factory i := by
  rw [sentBefore, List.take_append_of_le_length h, sentBefore]

/-- A request counts for its factory. -/
theorem sentBefore_succ {i : Nat} {sending : Sending} (h : sendings[i]? = some sending) :
    sentBefore sendings factory (i + 1) =
      sentBefore sendings factory i + if sending.factory = factory then 1 else 0 := by
  rw [sentBefore, List.take_add_one, h, List.countP_append, sentBefore]
  simp [List.countP_cons]

/-- The further a list goes, the more are counted. -/
theorem sentBefore_mono {i j : Nat} (h : i ≤ j) :
    sentBefore sendings factory i ≤ sentBefore sendings factory j :=
  (List.take_sublist_take_left h).countP_le

/-- Of two requests of a factory the later one is behind more others. -/
theorem sentBefore_lt {i j : Nat} {sending : Sending} (h : sendings[i]? = some sending)
    (hij : i < j) : sentBefore sendings sending.factory i < sentBefore sendings sending.factory j :=
  calc sentBefore sendings sending.factory i
    _ < sentBefore sendings sending.factory (i + 1) := by
        rw [sentBefore_succ h, if_pos rfl]
        exact Nat.lt_succ_self _
    _ ≤ sentBefore sendings sending.factory j := sentBefore_mono hij

end

/-- Every factory has a source of its own, which counts the requests sent through it, and every
request is under the child with the number that the count gave. -/
structure Numbered (world : World) (factories : List ClientFactory) (sendings : List Sending) :
    Prop where
  length_sources : world.sources.length = factories.length
  source_eq {k : Nat} {factory : ClientFactory} :
    factories[k]? = some factory → factory.source = k
  next_eq {k : Nat} {source : VectorSource} : world.sources[k]? = some source →
    source.next = requestNumber (sentBefore sendings k sendings.length)
  factory_lt {sending : Sending} : sending ∈ sendings → sending.factory < factories.length
  isValid {sending : Sending} : sending ∈ sendings → sending.parent.IsValid
  text?_eq {i : Nat} {sending : Sending} : sendings[i]? = some sending →
    sending.text? =
      some (sending.parent.child (requestNumber (sentBefore sendings sending.factory i))).render

namespace Numbered

variable {world after : World} {factories : List ClientFactory} {sendings : List Sending}

/-- A factory that is built comes with a source through which nothing was sent. -/
theorem build (h : Numbered world factories sendings) {settings : FactorySettings}
    {context : Option RequestVector} {factory : ClientFactory}
    (hbuild : ClientFactory.build settings context world = (.ok factory, after)) :
    Numbered after (factories ++ [factory]) sendings := by
  obtain ⟨hsource, hsources⟩ := ClientFactory.source_of_build hbuild
  have hunused : sentBefore sendings factories.length sendings.length = 0 := by
    rw [sentBefore, List.countP_eq_zero]
    intro sending hsending
    have := h.factory_lt (List.mem_of_mem_take hsending)
    simpa using Nat.ne_of_lt this
  refine ⟨?_, ?_, ?_, ?_, h.isValid, h.text?_eq⟩
  · rw [hsources, List.length_append, List.length_append, h.length_sources]
    rfl
  · intro k other hother
    rcases getElem?_concat_eq_some hother with hother | ⟨rfl, rfl⟩
    · exact h.source_eq hother
    · rw [hsource, h.length_sources]
  · intro k source hk
    rw [hsources] at hk
    rcases getElem?_concat_eq_some hk with hk | ⟨rfl, rfl⟩
    · exact h.next_eq hk
    · rw [h.length_sources, hunused]
      rfl
  · intro sending hsending
    rw [List.length_append]
    exact Nat.lt_add_right _ (h.factory_lt hsending)

/-- A request that is sent takes the number of its factory. -/
theorem send (h : Numbered world factories sendings) {proxy : ClientProxy} {k : Nat}
    (hfactory : factories[k]? = some proxy.factory) {parent : RequestVector}
    (hparent : parent.IsValid) {method : String} {args : List Json} {request : ExchangeRequest}
    (hsend : proxy.requestFor method args (some parent) world = (.ok request, after)) :
    Numbered after factories (sendings ++ [⟨k, parent, request⟩]) := by
  obtain ⟨htext, hsources⟩ := ClientProxy.text?_of_requestFor hparent hsend
  rw [h.source_eq hfactory] at htext hsources
  have hlt : k < factories.length := (List.getElem?_eq_some_iff.1 hfactory).1
  have hfound : world.sources[k]? = some (world.sources.getD k .new) := by
    rw [List.getD_eq_getElem?_getD, List.getElem?_eq_getElem (h.length_sources ▸ hlt),
      Option.getD_some]
  have hnext := h.next_eq hfound
  rw [hnext] at htext hsources
  -- The count of every factory goes on from where it was; only that of `k` grows.
  have hcount (factory : Nat) :
      sentBefore (sendings ++ [⟨k, parent, request⟩]) factory (sendings.length + 1) =
        sentBefore sendings factory sendings.length + if k = factory then 1 else 0 := by
    rw [sentBefore_succ List.getElem?_concat_length, sentBefore_append (Nat.le_refl _)]
  refine ⟨?_, h.source_eq, ?_, ?_, ?_, ?_⟩
  · rw [hsources, List.length_set, h.length_sources]
  · intro other source hother
    rw [List.length_append, List.length_singleton, hcount]
    rw [hsources, List.getElem?_set] at hother
    split at hother
    · next hk =>
        subst hk
        rw [if_pos (h.length_sources ▸ hlt)] at hother
        cases hother
        rw [if_pos rfl, requestNumber_succ]
    · next hk =>
        rw [if_neg hk, Nat.add_zero]
        exact h.next_eq hother
  · intro sending hsending
    rcases List.mem_append.1 hsending with hsending | hsending
    · exact h.factory_lt hsending
    · rw [List.mem_singleton.1 hsending]
      exact hlt
  · intro sending hsending
    rcases List.mem_append.1 hsending with hsending | hsending
    · exact h.isValid hsending
    · rw [List.mem_singleton.1 hsending]
      exact hparent
  · intro i sending hi
    rcases getElem?_concat_eq_some hi with hi | ⟨rfl, rfl⟩
    · rw [sentBefore_append (Nat.le_of_lt (List.getElem?_eq_some_iff.1 hi).1)]
      exact h.text?_eq hi
    · rw [sentBefore_append (Nat.le_refl _)]
      exact htext

end Numbered

/-- Every process numbers its requests. -/
theorem Process.numbered {world : World} {factories : List ClientFactory}
    {sendings : List Sending} (h : Process world factories sendings) :
    Numbered world factories sendings := by
  induction h with
  | start => exact ⟨rfl, by simp, by simp [World.initial], by simp, by simp, by simp⟩
  | build _ hbuild ih => exact ih.build hbuild
  | send _ hfactory hparent hsend ih => exact ih.send hfactory hparent hsend
  | other _ hsources ih =>
      exact ⟨hsources ▸ ih.length_sources, ih.source_eq, hsources ▸ ih.next_eq, ih.factory_lt,
        ih.isValid, ih.text?_eq⟩

/-- A call that sends nothing, or not from a vector, is a step like any other. -/
theorem Process.call {world after : World} {factories : List ClientFactory}
    {sendings : List Sending} (h : Process world factories sendings) {proxy : ClientProxy}
    {method : String} {args : List Json} {context : Option RequestVector}
    {result : Except ClientError ExchangeRequest}
    (hcall : proxy.requestFor method args context world = (result, after))
    (hunsent : context = none ∨ ∃ e, result = .error e) : Process after factories sendings :=
  h.other (ClientProxy.sources_of_requestFor hcall hunsent)

section

variable {world : World} {factories : List ClientFactory} {sendings : List Sending}
  {transport : Transport} {make : Nat → ClientFactory}

/-- Every process may build one more factory with the default settings. -/
theorem Process.exists_build (h : Process world factories sendings)
    (hassemble : ClientFactory.assemble ⟨.default, none, some transport⟩ = .ok make) :
    ∃ after, Process after (factories ++ [make factories.length]) sendings := by
  have hbuild : ∃ after, ClientFactory.build ⟨.default, none, some transport⟩ none world =
      (.ok (make world.sources.length), after) := by
    unfold ClientFactory.build
    rw [hassemble]
    exact ⟨_, rfl⟩
  obtain ⟨after, hbuild⟩ := hbuild
  rw [h.numbered.length_sources] at hbuild
  exact ⟨after, h.build hbuild⟩

/-- Every process may send one more request through a factory with the default settings. -/
theorem Process.exists_send (h : Process world factories sendings)
    (hassemble : ClientFactory.assemble ⟨.default, none, some transport⟩ = .ok make) {k : Nat}
    (hfactory : factories[k]? = some (make k)) {parent : RequestVector}
    (hparent : parent.IsValid) :
    ∃ after request, Process after factories (sendings ++ [⟨k, parent, request⟩]) := by
  obtain ⟨table, hbind, -, -, -⟩ := RouteTable.exists_bind_echo
  let proxy : ClientProxy := ⟨"Echo", table, make k⟩
  let submitted := proxy.submitted (table.base.url.appendSegments ["echo"] false) (.bool true)
  have hproxy : factories[k]? = some proxy.factory := hfactory
  have hsend : proxy.requestFor "echo" [.bool true] (some parent) world =
      (.ok (proxy.addressed submitted (some parent) world).1,
        (proxy.addressed submitted (some parent) world).2) :=
    ClientProxy.requestFor_submit hassemble rfl (by decide) hbind List.mem_cons_self (.bool true)
      (some parent) world
  exact ⟨_, _, h.send hproxy hparent hsend⟩

end

/-! ## Vectors of different requests -/

/-- Two requests state the same vector exactly if they were sent from one vector, each behind as
many others of its factory. Through one factory that is only one request. -/
theorem Process.text?_eq_iff {world : World} {factories : List ClientFactory}
    {sendings : List Sending} (h : Process world factories sendings)
    (hfew : sendings.length < Nat.pow 2 64) {i j : Nat} {a b : Sending}
    (ha : sendings[i]? = some a) (hb : sendings[j]? = some b) :
    (a.text? = b.text? ↔ a.parent = b.parent ∧
      sentBefore sendings a.factory i = sentBefore sendings b.factory j) ∧
    (a.factory = b.factory → a.text? = b.text? → i = j) := by
  have hnumbered := h.numbered
  have hbound {k : Nat} {sending : Sending} (hk : sendings[k]? = some sending) :
      sentBefore sendings sending.factory k + 1 < Nat.pow 2 64 := by
    have hle := sentBefore_le sendings sending.factory k
    have hlt := (List.getElem?_eq_some_iff.1 hk).1
    exact Nat.lt_of_le_of_lt (Nat.succ_le_of_lt (Nat.lt_of_le_of_lt hle hlt)) hfew
  have hsame : a.text? = b.text? ↔ a.parent = b.parent ∧
      sentBefore sendings a.factory i = sentBefore sendings b.factory j := by
    rw [hnumbered.text?_eq ha, hnumbered.text?_eq hb, Option.some_inj,
      ((hnumbered.isValid (List.mem_of_getElem? ha)).child _).render_inj
        ((hnumbered.isValid (List.mem_of_getElem? hb)).child _),
      RequestVector.child_inj, requestNumber_inj (hbound ha) (hbound hb)]
  refine ⟨hsame, fun hfactory htext => ?_⟩
  have hcount := (hsame.1 htext).2
  rcases Nat.lt_trichotomy i j with hlt | heq | hlt
  · have := sentBefore_lt ha hlt
    rw [hcount, hfactory] at this
    exact absurd this (Nat.lt_irrefl _)
  · exact heq
  · have := sentBefore_lt hb hlt
    rw [← hcount, hfactory] at this
    exact absurd this (Nat.lt_irrefl _)

/-- Through one factory a process sends two requests from one vector under two. -/
theorem Process.text?_ne_of_one_factory :
    ∃ world factories a b, Process world factories [a, b] ∧ a.factory = b.factory ∧
      a.parent = b.parent ∧ a.text? ≠ b.text? := by
  have hparent : RequestVector.IsValid ⟨"r", []⟩ := by decide
  obtain ⟨make, hassemble⟩ := ClientFactory.exists_assemble_default (.scripted 0)
  obtain ⟨_, hbuilt⟩ := Process.start.exists_build hassemble
  obtain ⟨_, first, hfirst⟩ := hbuilt.exists_send (k := 0) hassemble rfl hparent
  obtain ⟨world, second, hsecond⟩ := hfirst.exists_send (k := 0) hassemble rfl hparent
  have hfew : 2 < Nat.pow 2 64 := by decide
  refine ⟨world, _, _, _, hsecond, rfl, rfl, fun htext => ?_⟩
  exact absurd ((hsecond.text?_eq_iff hfew (i := 0) (j := 1) rfl rfl).2 rfl htext) (by decide)

/-- Through two factories a process sends two requests from one vector under the same. -/
theorem Process.text?_eq_of_two_factories :
    ∃ world factories a b, Process world factories [a, b] ∧ a.parent = b.parent ∧
      a.text? = some "r.1" ∧ b.text? = some "r.1" := by
  have hparent : RequestVector.IsValid ⟨"r", []⟩ := by decide
  obtain ⟨make, hassemble⟩ := ClientFactory.exists_assemble_default (.scripted 0)
  obtain ⟨_, hone⟩ := Process.start.exists_build hassemble
  obtain ⟨_, htwo⟩ := hone.exists_build hassemble
  obtain ⟨_, first, hfirst⟩ := htwo.exists_send (k := 0) hassemble rfl hparent
  obtain ⟨world, second, hsecond⟩ := hfirst.exists_send (k := 1) hassemble rfl hparent
  -- Each of the two is the first request of its factory.
  have htext : (RequestVector.child ⟨"r", []⟩ (requestNumber 0)).render = "r.1" := by
    decide
  exact ⟨world, _, _, _, hsecond, rfl,
    (hsecond.numbered.text?_eq (i := 0) rfl).trans (congrArg some htext),
    (hsecond.numbered.text?_eq (i := 1) rfl).trans (congrArg some htext)⟩

end HttpRpc
