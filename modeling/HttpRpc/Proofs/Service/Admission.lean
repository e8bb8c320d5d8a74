import HttpRpc.Service.Dispatcher

/-!
# What a request must pass

A request is looked at in a row of six checks before a method is called (`Admission`). Each check is
stated apart from the others, as the presence of what it finds. `prepare_decided` says that the
first check that fails decides the error, and that a request that fails none calls the method of its
name with the input that it holds.
-/

namespace HttpRpc

namespace HttpDispatcher

/-! ## What is found in a request -/

section

variable (dispatcher : HttpDispatcher) (request : Request)

/-- The media type of the body, if it is stated, well formed, and one that some codec is for. -/
def media? : Option MediaType :=
  match contentType? request.headers with
  | some (.ok media) => if dispatcher.codecs.supports media then some media else none
  | _ => none

/-- The method that is registered under the name that the request states. -/
def method? : Option RpcMethod :=
  dispatcher.registry.get? (methodName dispatcher.config request.target)

/-- The codec that reads the input of the method. -/
def reader? : Option Codec := do
  let method ← dispatcher.method? request
  let media ← dispatcher.media? request
  dispatcher.codecs.readerFor? method.inputType media

/-- The input that the body holds; an empty body counts as null. -/
def input? : Option Json := do
  let codec ← dispatcher.reader? request
  if request.body.isEmpty then some .null else (codec.read request.body).toOption

end

/-- The value of a header that allows to submit and nothing else. -/
def postAllowed : HeaderValue := ⟨Text.Utf8.encodeString "POST"⟩

/-- The verbs that the answer to an error allows. -/
def allowed? : DispatchError → Option HeaderValue
  | .methodNotAllowed _ => some postAllowed
  | _ => none

/-! ## Checks -/

/-- The checks before a method is called. -/
inductive Admission where
  | verb
  | size
  | mediaType
  | name
  | reader
  | body
deriving DecidableEq, Repr

namespace Admission

/-- The order in which the checks are made. -/
def order : List Admission := [verb, size, mediaType, name, reader, body]

/-- Whether a request passes a check. -/
def passes (dispatcher : HttpDispatcher) (request : Request) : Admission → Bool
  | verb => request.verb = .post
  | size => request.body.length ≤ dispatcher.config.maxBodyBytes
  | mediaType => (dispatcher.media? request).isSome
  | name => (dispatcher.method? request).isSome
  | reader => (dispatcher.reader? request).isSome
  | body => (dispatcher.input? request).isSome

/-- The first check that a request fails. -/
def failed? (dispatcher : HttpDispatcher) (request : Request) : Option Admission :=
  order.find? fun check => !check.passes dispatcher request

/-- The status of the answer to a request that fails a check. -/
def status : Admission → Status
  | verb => ⟨405⟩
  | size => ⟨413⟩
  | mediaType => ⟨415⟩
  | name => ⟨404⟩
  | reader => ⟨500⟩
  | body => ⟨400⟩

/-- The code in the payload of the answer. -/
def code : Admission → String
  | verb => "MethodNotAllowed"
  | size => "PayloadTooLarge"
  | mediaType => "UnsupportedMediaType"
  | name => "NotFound"
  | reader => "InternalError"
  | body => "BadRequest"

/-- The verbs that the answer allows. -/
def allowed? : Admission → Option HeaderValue
  | verb => some postAllowed
  | _ => none

end Admission

/-- What an error tells: the status, the code in its payload, and the verbs that it allows. -/
structure Tells (e : DispatchError) (status : Status) (code : String)
    (allowed : Option HeaderValue) : Prop where
  status_eq : e.status = status
  code_eq : e.toPayload.code = code
  allowed_eq : allowed? e = allowed

/-! ## The checks before the call -/

section

variable {dispatcher : HttpDispatcher} {request : Request}

/-- A request with another verb is refused before anything else is looked at. -/
theorem prepare_of_verb (hverb : request.verb ≠ .post) :
    dispatcher.prepare request = .error (.methodNotAllowed request.verb) := by
  unfold prepare
  rw [if_pos hverb]
  rfl

/-- A request with too long a body is refused whatever else is wrong with it. -/
theorem prepare_of_size (hverb : request.verb = .post)
    (hsize : dispatcher.config.maxBodyBytes < request.body.length) :
    dispatcher.prepare request =
      .error (.payloadTooLarge request.body.length dispatcher.config.maxBodyBytes) := by
  unfold prepare
  rw [if_neg fun hne => hne hverb]
  show (if _ then _ else _) = _
  rw [if_pos hsize]
  rfl

/-- A request without a media type that some codec is for is refused whatever it calls. -/
theorem prepare_of_media?_none (hverb : request.verb = .post)
    (hsize : request.body.length ≤ dispatcher.config.maxBodyBytes)
    (hmedia : dispatcher.media? request = none) :
    ∃ cause, dispatcher.prepare request = .error (.unsupportedMediaType cause) := by
  simp only [prepare, hverb, ne_eq, not_true_eq_false, if_false, Nat.not_lt.2 hsize, pure_bind]
  unfold media? at hmedia
  split at hmedia
  · next media hcontent =>
      have hsupports : dispatcher.codecs.supports media = false := by
        refine Bool.eq_false_iff.2 fun h => ?_
        rw [if_pos h] at hmedia
        cases hmedia
      rw [hcontent]
      exact ⟨.unsupportedMediaType media.render, by simp [hsupports]; rfl⟩
  · next hcontent =>
      cases h : contentType? request.headers with
      | none => exact ⟨_, rfl⟩
      | some stated =>
          cases stated with
          | error e => exact ⟨_, rfl⟩
          | ok media => exact absurd h (hcontent media)

/-- A request with a media type is for the method of its name, whose input it holds. -/
theorem prepare_of_media?_some {media : MediaType} (hverb : request.verb = .post)
    (hsize : request.body.length ≤ dispatcher.config.maxBodyBytes)
    (hmedia : dispatcher.media? request = some media) :
    dispatcher.prepare request =
      match dispatcher.method? request with
      | none => .error (.notFound (methodName dispatcher.config request.target))
      | some method => (dispatcher.decode method media request.body).map fun input =>
          (method, input) := by
  simp only [prepare, hverb, ne_eq, not_true_eq_false, if_false, Nat.not_lt.2 hsize, pure_bind]
  unfold media? at hmedia
  split at hmedia
  · next stated hcontent =>
      split at hmedia
      · next hsupports =>
          cases hmedia
          simp only [hcontent, hsupports, Bool.not_true, Bool.false_eq_true, if_false]
          unfold method?
          cases dispatcher.registry.get? (methodName dispatcher.config request.target) with
          | none => rfl
          | some method =>
              show (dispatcher.decode method media request.body >>= fun input =>
                pure (method, input)) =
                (dispatcher.decode method media request.body).map fun input => (method, input)
              cases dispatcher.decode method media request.body with
              | error e => rfl
              | ok input => rfl
      · cases hmedia
  · cases hmedia

section

variable {method : RpcMethod} {media : MediaType}

/-- The reader of a request is the one of its method for its media type. -/
theorem reader?_eq (hmethod : dispatcher.method? request = some method)
    (hmedia : dispatcher.media? request = some media) :
    dispatcher.reader? request = dispatcher.codecs.readerFor? method.inputType media := by
  rw [reader?, hmethod, hmedia]
  rfl

/-- Without a reader there is no input. -/
theorem decode_of_reader?_none (hmethod : dispatcher.method? request = some method)
    (hmedia : dispatcher.media? request = some media)
    (hreader : dispatcher.reader? request = none) :
    dispatcher.decode method media request.body =
      .error (.noReader method.name (.noReader method.inputType media.render)) := by
  rw [reader?_eq hmethod hmedia] at hreader
  rw [decode, hreader]

/-- A body without input is a bad one. -/
theorem decode_of_input?_none {codec : Codec} (hmethod : dispatcher.method? request = some method)
    (hmedia : dispatcher.media? request = some media)
    (hreader : dispatcher.reader? request = some codec)
    (hinput : dispatcher.input? request = none) :
    ∃ cause, dispatcher.decode method media request.body =
      .error (.badRequest method.name cause) := by
  simp only [input?, hreader, Option.bind_eq_bind, Option.bind_some] at hinput
  rw [reader?_eq hmethod hmedia] at hreader
  rw [decode, hreader]
  split at hinput
  · cases hinput
  · next hempty =>
      simp only [hempty]
      cases hread : codec.read request.body with
      | error cause => exact ⟨cause, rfl⟩
      | ok value =>
          rw [hread] at hinput
          cases hinput

/-- The input that a body holds is what the method gets. -/
theorem decode_of_input?_some {input : Json} (hmethod : dispatcher.method? request = some method)
    (hmedia : dispatcher.media? request = some media)
    (hinput : dispatcher.input? request = some input) :
    dispatcher.decode method media request.body = .ok input := by
  obtain ⟨codec, hreader, hinput⟩ := Option.bind_eq_some_iff.1 hinput
  rw [reader?_eq hmethod hmedia] at hreader
  rw [decode, hreader]
  show (if request.body.isEmpty = true then _ else _) = _
  split at hinput
  · next hempty =>
      cases hinput
      rw [if_pos hempty]
  · next hempty =>
      rw [if_neg hempty]
      cases hread : codec.read request.body with
      | error cause =>
          rw [hread] at hinput
          cases hinput
      | ok value =>
          rw [hread] at hinput
          cases hinput
          rfl

end

/-! ## Requests that are well formed -/

/-- A body that is stated to be of a media type of some codec is decoded as one. -/
theorem media?_of_contentType? {media : MediaType}
    (hcontent : contentType? request.headers = some (.ok media))
    (hsupports : dispatcher.codecs.supports media = true) :
    dispatcher.media? request = some media := by
  simp only [media?, hcontent, hsupports, if_true]

/-- An empty body is decoded as null, if there is a reader. -/
theorem decode_of_empty {method : RpcMethod} {media : MediaType} {codec : Codec}
    (hreader : dispatcher.codecs.readerFor? method.inputType media = some codec) :
    dispatcher.decode method media [] = .ok .null := by
  rw [decode, hreader]
  rfl

/-- A body is decoded by the reader. -/
theorem decode_of_read {method : RpcMethod} {media : MediaType} {codec : Codec} {body : Body}
    {value : Json} (hreader : dispatcher.codecs.readerFor? method.inputType media = some codec)
    (hbody : body.isEmpty = false) (hread : codec.read body = .ok value) :
    dispatcher.decode method media body = .ok value := by
  simp only [decode, hreader, hbody, hread, Bool.false_eq_true, if_false]

/-- A request with a body that a method can decode is for the method and the input. -/
theorem prepare_of_decode {media : MediaType} {method : RpcMethod} {input : Json}
    (hverb : request.verb = .post)
    (hsize : request.body.length ≤ dispatcher.config.maxBodyBytes)
    (hmedia : dispatcher.media? request = some media)
    (hmethod : dispatcher.method? request = some method)
    (hdecode : dispatcher.decode method media request.body = .ok input) :
    dispatcher.prepare request = .ok (method, input) := by
  rw [prepare_of_media?_some hverb hsize hmedia]
  simp only [hmethod, hdecode, Except.map]

/-! ## The first check that fails -/

/-- The first check that fails decides the error, and a request that fails none calls the method of
its name with the input that it holds. -/
theorem prepare_decided (dispatcher : HttpDispatcher) (request : Request) :
    (∃ check e, Admission.failed? dispatcher request = some check ∧
      dispatcher.prepare request = .error e ∧ Tells e check.status check.code check.allowed?) ∨
    (Admission.failed? dispatcher request = none ∧
      ∃ method input, dispatcher.method? request = some method ∧
        dispatcher.input? request = some input ∧
        dispatcher.prepare request = .ok (method, input)) := by
  simp only [Admission.failed?, Admission.order]
  -- Each check is looked at where all checks before it are passed.
  by_cases hverb : request.verb = .post
  case neg =>
    left
    exact ⟨.verb, _, by simp [Admission.passes, hverb], prepare_of_verb hverb, ⟨rfl, rfl, rfl⟩⟩
  by_cases hsize : request.body.length ≤ dispatcher.config.maxBodyBytes
  case neg =>
    left
    exact ⟨.size, _, by simp [Admission.passes, hverb, hsize],
      prepare_of_size hverb (Nat.not_le.1 hsize), ⟨rfl, rfl, rfl⟩⟩
  cases hmedia : dispatcher.media? request with
  | none =>
      left
      obtain ⟨cause, hprepare⟩ := prepare_of_media?_none hverb hsize hmedia
      exact ⟨.mediaType, _, by simp [Admission.passes, hverb, hsize, hmedia], hprepare,
        ⟨rfl, rfl, rfl⟩⟩
  | some media =>
      have hprepare := prepare_of_media?_some hverb hsize hmedia
      cases hmethod : dispatcher.method? request with
      | none =>
          left
          rw [hmethod] at hprepare
          exact ⟨.name, _, by simp [Admission.passes, hverb, hsize, hmedia, hmethod], hprepare,
            ⟨rfl, rfl, rfl⟩⟩
      | some method =>
          simp only [hmethod] at hprepare
          cases hreader : dispatcher.reader? request with
          | none =>
              left
              rw [decode_of_reader?_none hmethod hmedia hreader] at hprepare
              exact ⟨.reader, _, by simp [Admission.passes, hverb, hsize, hmedia, hmethod, hreader],
                hprepare, ⟨rfl, rfl, rfl⟩⟩
          | some codec =>
              cases hinput : dispatcher.input? request with
              | none =>
                  left
                  obtain ⟨cause, hdecode⟩ := decode_of_input?_none hmethod hmedia hreader hinput
                  rw [hdecode] at hprepare
                  exact ⟨.body, _, by
                    simp [Admission.passes, hverb, hsize, hmedia, hmethod, hreader, hinput],
                    hprepare, ⟨rfl, rfl, rfl⟩⟩
              | some input =>
                  right
                  rw [decode_of_input?_some hmethod hmedia hinput] at hprepare
                  exact ⟨by
                    simp [Admission.passes, hverb, hsize, hmedia, hmethod, hreader, hinput],
                    method, input, rfl, rfl, hprepare⟩

/-- A method that a request calls is the one of its name. -/
theorem method?_of_prepare {dispatcher : HttpDispatcher} {request : Request} {method : RpcMethod}
    {input : Json} (h : dispatcher.prepare request = .ok (method, input)) :
    dispatcher.method? request = some method := by
  rcases prepare_decided dispatcher request with
    ⟨-, e, -, hprepare, -⟩ | ⟨-, found, other, hfound, -, hprepare⟩
  · cases hprepare.symm.trans h
  · cases hprepare.symm.trans h
    exact hfound

/-- A request that fails no check calls the method of its name. -/
theorem exists_prepare_eq {dispatcher : HttpDispatcher} {request : Request} {method : RpcMethod}
    (hpassed : Admission.failed? dispatcher request = none)
    (hmethod : dispatcher.method? request = some method) :
    ∃ input, dispatcher.prepare request = .ok (method, input) := by
  rcases prepare_decided dispatcher request with
    ⟨check, e, hfailed, -⟩ | ⟨-, found, input, hfound, -, hprepare⟩
  · cases hpassed.symm.trans hfailed
  · cases hmethod.symm.trans hfound
    exact ⟨input, hprepare⟩

end

end HttpDispatcher

end HttpRpc
