import HttpRpc.Proofs.Backoff.Schedule
import HttpRpc.Proofs.Client.Call

/-!
# Exchanges that are made again

A client exchanges a request again after each passing failure as long as its strategy yields a
delay. `Exchanges` is a row of exchanges of one request with delays between them, without saying
where it ends; `Settles` says where it must end. The exchanges of a call are such a row, over the
delays of the strategy from the first one on, whatever the transport answers
(`exchangeWithRetry_settles`). What a scripted transport records of a call is the same request once
for each exchange (`exchangeWithRetry_scripted`).
-/

namespace HttpRpc

open ClientProxy (retryEvent completeEvent)

/-- The world once a passing failure has been logged and the delay after it has been waited for. -/
def World.retried (world : World) (e : TransportError) (attempt : Nat) (delay : Duration) : World :=
  { world.logged (retryEvent e attempt delay) with pauses := world.pauses ++ [delay] }

/-- The world once the last outcome of a row of exchanges has been logged, which only a response
is. -/
def World.reported (world : World) (outcome : Except TransportError Response) (attempt : Nat) :
    World :=
  match outcome with
  | .ok response => world.logged (completeEvent response.status attempt)
  | .error _ => world

namespace ClientProxy

/-- Whether nothing is exchanged after an outcome: it is a response, whatever its status, or a
failure that is not a passing one. -/
def isFinal : Except TransportError Response → Bool
  | .ok _ => true
  | .error e => !e.isRecoverable

/-- What is not final is a passing failure. -/
theorem isFinal_eq_false {outcome : Except TransportError Response} :
    isFinal outcome = false ↔ ∃ e, outcome = .error e ∧ e.isRecoverable = true := by
  cases outcome <;> simp [isFinal]

/-- A row of exchanges of one request, the first of them under the number of an attempt: each but
the first begins in the world that the one before it has left, after a delay of the list. -/
inductive Exchanges (transport : Transport) (request : ExchangeRequest)
    (context : Option RequestVector) :
    Nat → World → List Duration → List (Except TransportError Response) → World → Prop where
  | last {attempt : Nat} {world after : World} {outcome : Except TransportError Response}
      (h : transport.exchange request context world = (outcome, after)) :
      Exchanges transport request context attempt world [] [outcome] after
  | again {attempt : Nat} {world between after : World} {e : TransportError} {delay : Duration}
      {delays : List Duration} {outcomes : List (Except TransportError Response)}
      (h : transport.exchange request context world = (.error e, between))
      (hrest : Exchanges transport request context (attempt + 1) (between.retried e attempt delay)
        delays outcomes after) :
      Exchanges transport request context attempt world (delay :: delays) (.error e :: outcomes)
        after

/-- A row of outcomes ends where it must: all but the last are passing failures with a delay for
each of them, and the last is final unless the delays are used up. -/
structure Settles (delays : List Duration) (passing : List (Except TransportError Response))
    (last : Except TransportError Response) : Prop where
  length_le : passing.length ≤ delays.length
  not_final : ∀ outcome ∈ passing, isFinal outcome = false
  final_or_spent : isFinal last = true ∨ passing.length = delays.length

/-! ## One exchange -/

section

variable {transport : Transport} {request : ExchangeRequest} {context : Option RequestVector}
  {world after : World} {e : TransportError} {mark : BackoffMark}

/-- A final outcome is the result. -/
theorem exchangeFrom_of_final {outcome : Except TransportError Response}
    (h : transport.exchange request context world = (outcome, after))
    (hfinal : isFinal outcome = true) (fuel : Nat) (mark : BackoffMark) (attempt : Nat) :
    exchangeFrom transport request fuel mark attempt context world =
      (outcome, after.reported outcome attempt) := by
  unfold exchangeFrom
  rw [Run.bind_of_eq h]
  cases outcome with
  | ok response => rfl
  | error e =>
      have he : e.isRecoverable = false := by simpa [isFinal] using hfinal
      simp only [he, Bool.false_eq_true, if_false]
      rfl

/-- A passing failure is the result if there is no delay left. -/
theorem exchangeFrom_of_stop (h : transport.exchange request context world = (.error e, after))
    (he : e.isRecoverable = true) (hnext : mark.next.1 = none) (fuel attempt : Nat) :
    exchangeFrom transport request fuel mark attempt context world = (.error e, after) := by
  unfold exchangeFrom
  rw [Run.bind_of_eq h]
  simp only [he, if_true]
  cases hmark : mark.next with
  | mk first next =>
      rw [hmark] at hnext
      cases hnext
      cases fuel <;> rfl

/-- After a passing failure the request is exchanged again behind the next delay. -/
theorem exchangeFrom_of_delay (h : transport.exchange request context world = (.error e, after))
    (he : e.isRecoverable = true) {delay : Duration} (hnext : mark.next.1 = some delay)
    (fuel attempt : Nat) :
    exchangeFrom transport request (fuel + 1) mark attempt context world =
      exchangeFrom transport request fuel mark.next.2 (attempt + 1) context
        (after.retried e attempt delay) := by
  rw [exchangeFrom, Run.bind_of_eq h]
  simp only [he, if_true]
  cases hmark : mark.next with
  | mk first next =>
      rw [hmark] at hnext
      cases hnext
      rfl

end

/-! ## Rows of exchanges -/

/-- With fuel for its schedule, a mark is asked for the delays of a row of exchanges that ends where
it must. -/
theorem exchangeFrom_settles {transport : Transport} {request : ExchangeRequest}
    {context : Option RequestVector} {mark : BackoffMark} {delays : List Duration}
    (hyields : mark.Yields delays) {fuel : Nat} (hfuel : delays.length ≤ fuel) (attempt : Nat)
    (world : World) :
    ∃ passing last after, Settles delays passing last ∧
      Exchanges transport request context attempt world (delays.take passing.length)
        (passing ++ [last]) after ∧
      exchangeFrom transport request fuel mark attempt context world =
        (last, after.reported last (attempt + passing.length)) := by
  induction hyields generalizing fuel attempt world with
  | stop hnext =>
      rcases hexchange : transport.exchange request context world with ⟨outcome, after⟩
      refine ⟨[], outcome, after, ⟨Nat.le_refl _, by simp, Or.inr rfl⟩, .last hexchange, ?_⟩
      cases hfinal : isFinal outcome with
      | true => exact exchangeFrom_of_final hexchange hfinal ..
      | false =>
          obtain ⟨e, rfl, he⟩ := isFinal_eq_false.1 hfinal
          exact exchangeFrom_of_stop hexchange he hnext ..
  | @delay mark delay delays hnext _ ih =>
      rcases hexchange : transport.exchange request context world with ⟨outcome, between⟩
      cases hfinal : isFinal outcome with
      | true =>
          exact ⟨[], outcome, between, ⟨Nat.zero_le _, by simp, Or.inl hfinal⟩, .last hexchange,
            exchangeFrom_of_final hexchange hfinal ..⟩
      | false =>
          obtain ⟨e, rfl, he⟩ := isFinal_eq_false.1 hfinal
          obtain ⟨fuel, rfl⟩ : ∃ less, fuel = less + 1 :=
            Nat.exists_eq_add_one.2 (Nat.lt_of_lt_of_le (Nat.zero_lt_succ _) hfuel)
          obtain ⟨passing, last, after, hsettles, hrow, hrun⟩ :=
            ih (Nat.le_of_succ_le_succ hfuel) (attempt + 1) (between.retried e attempt delay)
          refine ⟨.error e :: passing, last, after, ⟨?_, ?_, ?_⟩, .again hexchange hrow, ?_⟩
          · exact Nat.succ_le_succ hsettles.length_le
          · exact List.forall_mem_cons.2 ⟨hfinal, hsettles.not_final⟩
          · exact hsettles.final_or_spent.imp_right (congrArg (· + 1))
          · rw [exchangeFrom_of_delay hexchange he hnext, hrun, List.length_cons,
              Nat.add_assoc, Nat.add_comm 1]

/-- Over a schedule that the strategy has, the exchanges of a call are a row from the first delay on
and end where they must; the last outcome is the result as it is. -/
theorem exchangeWithRetry_of_yields {factory : ClientFactory} {delays : List Duration}
    (hyields : factory.backoff.newMark.Yields delays)
    (hlength : delays.length ≤ factory.backoff.newMark.bound) (request : ExchangeRequest)
    (context : Option RequestVector) (world : World) :
    ∃ passing last after, Settles delays passing last ∧
      Exchanges factory.transport request context 1 world (delays.take passing.length)
        (passing ++ [last]) after ∧
      exchangeWithRetry factory request context world =
        (last, after.reported last (passing.length + 1)) := by
  obtain ⟨passing, last, after, hsettles, hrow, hrun⟩ :=
    @exchangeFrom_settles factory.transport request context _ _ hyields _ hlength 1 world
  rw [Nat.add_comm] at hrun
  exact ⟨passing, last, after, hsettles, hrow, hrun⟩

/-- A client with an accepted strategy makes the exchanges of each of its calls over the same
schedule, from its first delay on. -/
theorem exchangeWithRetry_settles {factory : ClientFactory}
    (haccepted : factory.backoff.IsAccepted) :
    ∃ delays, factory.backoff.newMark.Yields delays ∧
      ∀ (request : ExchangeRequest) (context : Option RequestVector) (world : World),
        ∃ passing last after, Settles delays passing last ∧
          Exchanges factory.transport request context 1 world (delays.take passing.length)
            (passing ++ [last]) after ∧
          exchangeWithRetry factory request context world =
            (last, after.reported last (passing.length + 1)) := by
  obtain ⟨delays, hyields, hlength⟩ := haccepted.exists_yields
  exact ⟨delays, hyields, exchangeWithRetry_of_yields hyields hlength⟩

/-- A client with the default strategy waits for up to seven delays, from 50 milliseconds on and
each twice the one before it. -/
theorem exchangeWithRetry_settles_default :
    let strategy : BackoffStrategy := .exponential .default
    let factory : ClientFactory :=
      ⟨.scripted 0, .default, strategy, .json, ⟨[]⟩, ⟨[]⟩, .empty, 0⟩
    let delays : List Duration := [50, 100, 200, 400, 800, 1600, 3200].map .ofMillis
    strategy.IsAccepted ∧ strategy.newMark.Yields delays ∧
      ∀ (request : ExchangeRequest) (context : Option RequestVector) (world : World),
        ∃ passing last after, Settles delays passing last ∧
          Exchanges factory.transport request context 1 world (delays.take passing.length)
            (passing ++ [last]) after ∧
          exchangeWithRetry factory request context world =
            (last, after.reported last (passing.length + 1)) := by
  intro strategy factory delays
  have haccepted : strategy.IsAccepted := ⟨by rfl, by decide⟩
  have hdelays : strategy.newMark.Yields delays :=
    .delay (by decide) (.delay (by decide) (.delay (by decide)
      (.delay (by decide) (.delay (by decide) (.delay (by decide)
        (.delay (by decide) (.stop (by decide))))))))
  obtain ⟨found, hfound, hruns⟩ := @exchangeWithRetry_settles factory haccepted
  cases hfound.unique hdelays
  exact ⟨haccepted, hdelays, hruns⟩

/-! ## Scripted transports -/

/-- The outcome that the scripted transport of the number has for an exchange to come, counted from
the next one. -/
def scriptedOutcome (number : Nat) (world : World) (k : Nat) : Except TransportError Response :=
  (world.scripts.getD number ⟨[], []⟩).outcomes.getD k (.error .closed)

/-- The requests that the scripted transport of the number has recorded. -/
def recordedRequests (number : Nat) (world : World) : List ExchangeRequest :=
  (world.scripts.getD number ⟨[], []⟩).recorded.map RecordedExchange.request

/-- A scripted transport records a request and has the outcomes behind the first one left. -/
theorem exchange_scripted {number : Nat} {world : World} (hnumber : number < world.scripts.length)
    (request : ExchangeRequest) (context : Option RequestVector) :
    ∃ after, (Transport.scripted number).exchange request context world =
        (scriptedOutcome number world 0, after) ∧
      after.pauses = world.pauses ∧ after.scripts.length = world.scripts.length ∧
      recordedRequests number after = recordedRequests number world ++ [request] ∧
      ∀ k, scriptedOutcome number after k = scriptedOutcome number world (k + 1) := by
  let script := world.scripts.getD number ⟨[], []⟩
  let later : Script := ⟨script.outcomes.tail, script.recorded ++ [⟨request, world.time⟩]⟩
  have hlater : (world.scripts.set number later).getD number ⟨[], []⟩ = later := by
    simp [hnumber]
  refine ⟨{ world with scripts := world.scripts.set number later }, ?_, rfl, by simp, ?_, ?_⟩
  · have hfirst : script.outcomes.head?.getD (.error .closed) = scriptedOutcome number world 0 := by
      rw [scriptedOutcome, List.getD_eq_getElem?_getD, List.head?_eq_getElem?]
    rw [← hfirst]
    rfl
  · show List.map _ ((world.scripts.set number later).getD number ⟨[], []⟩).recorded = _
    rw [hlater]
    exact List.map_append
  · intro k
    show ((world.scripts.set number later).getD number ⟨[], []⟩).outcomes.getD k _ = _
    rw [hlater]
    show script.outcomes.tail.getD k _ = script.outcomes.getD (k + 1) _
    simp [List.getD_eq_getElem?_getD]

/-- A row of exchanges through a scripted transport has the outcomes of the script in their order,
records the request once for each of them, and pauses for the delays between them. -/
theorem Exchanges.scripted {number attempt : Nat} {request : ExchangeRequest}
    {context : Option RequestVector} {world after : World} {delays : List Duration}
    {outcomes : List (Except TransportError Response)}
    (h : Exchanges (.scripted number) request context attempt world delays outcomes after)
    (hnumber : number < world.scripts.length) :
    after.pauses = world.pauses ++ delays ∧
      recordedRequests number after =
        recordedRequests number world ++ List.replicate outcomes.length request ∧
      ∀ k < outcomes.length, outcomes[k]? = some (scriptedOutcome number world k) := by
  induction h with
  | @last attempt world after outcome h =>
      obtain ⟨left, hexchange, hpauses, -, hrecorded, -⟩ :=
        exchange_scripted hnumber request context
      cases h.symm.trans hexchange
      refine ⟨by rw [hpauses, List.append_nil], hrecorded, fun k hk => ?_⟩
      rw [List.length_singleton] at hk
      rw [Nat.lt_one_iff.1 hk]
      rfl
  | @again attempt world between after e delay delays outcomes h hrest ih =>
      obtain ⟨left, hexchange, hpauses, hlength, hrecorded, hlater⟩ :=
        exchange_scripted hnumber request context
      have hleft : left = between := congrArg Prod.snd (hexchange.symm.trans h)
      have hfirst : scriptedOutcome number world 0 = .error e :=
        congrArg Prod.fst (hexchange.symm.trans h)
      subst hleft
      obtain ⟨hrestPauses, hrestRecorded, hrestOutcomes⟩ := ih (hlength ▸ hnumber)
      refine ⟨?_, ?_, ?_⟩
      · rw [hrestPauses]
        show left.pauses ++ [delay] ++ delays = _
        rw [hpauses, List.append_assoc, List.singleton_append]
      · rw [hrestRecorded]
        show recordedRequests number left ++ _ = _
        rw [hrecorded, List.append_assoc, List.singleton_append, ← List.replicate_succ,
          List.length_cons]
      · rintro (_ | k) hk
        · rw [hfirst]
          rfl
        · rw [List.getElem?_cons_succ, hrestOutcomes k (Nat.lt_of_succ_lt_succ hk)]
          exact congrArg some (hlater k)

/-- A call through a scripted transport goes through the outcomes of the script up to the first
that is final, but through no more than one behind each delay of its schedule. -/
theorem exchangeWithRetry_scripted {factory : ClientFactory} {number : Nat}
    (haccepted : factory.backoff.IsAccepted) (htransport : factory.transport = .scripted number) :
    ∃ delays, factory.backoff.newMark.Yields delays ∧
      ∀ (request : ExchangeRequest) (context : Option RequestVector) (world : World),
        number < world.scripts.length → ∃ n ≤ delays.length,
          let (result, after) := exchangeWithRetry factory request context world
          (∀ k < n, isFinal (scriptedOutcome number world k) = false) ∧
            (isFinal (scriptedOutcome number world n) = true ∨ n = delays.length) ∧
            result = scriptedOutcome number world n ∧
            after.pauses = world.pauses ++ delays.take n ∧
            recordedRequests number after =
              recordedRequests number world ++ List.replicate (n + 1) request := by
  obtain ⟨delays, hyields, hlength⟩ := haccepted.exists_yields
  refine ⟨delays, hyields, fun request context world hnumber => ?_⟩
  obtain ⟨passing, last, after, hsettles, hrow, hrun⟩ :=
    exchangeWithRetry_of_yields hyields hlength request context world
  rw [htransport] at hrow
  obtain ⟨hpauses, hrecorded, houtcomes⟩ := hrow.scripted hnumber
  rw [List.length_append, List.length_singleton] at hrecorded houtcomes
  have hlast : last = scriptedOutcome number world passing.length := by
    have hat := houtcomes passing.length (Nat.lt_succ_self _)
    rw [List.getElem?_concat_length] at hat
    exact Option.some.inj hat
  refine ⟨passing.length, hsettles.length_le, ?_⟩
  rw [hrun]
  refine ⟨fun k hk => ?_, hlast ▸ hsettles.final_or_spent, hlast, ?_, ?_⟩
  · have hat := houtcomes k (Nat.lt_succ_of_lt hk)
    rw [List.getElem?_append_left hk] at hat
    exact hsettles.not_final _ (List.mem_of_getElem? hat)
  · cases last <;> exact hpauses
  · cases last <;> exact hrecorded

end ClientProxy

end HttpRpc
