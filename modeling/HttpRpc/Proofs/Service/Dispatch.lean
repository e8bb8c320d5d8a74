import HttpRpc.Proofs.Run
import HttpRpc.Service.Dispatcher

/-!
# The run of a dispatcher

What a dispatcher does to the world. A request that may not call a method leaves nothing behind but
the report of its error (`dispatch_of_prepare_error`). For any other one the invoker of the method
is run once, with the input that the request holds, and all that happens besides is the report of an
error (`dispatch_of_prepare_ok`).
-/

namespace HttpRpc

namespace HttpDispatcher

/-- The vector that a request is answered under: the one that it carries, or else a new root. -/
def vectorOf (request : Request) (world : World) : RequestVector :=
  (carriedVector? request.headers).getD (.freshRoot world.freshRoots)

/-- The world once the vector of a request is known. -/
def known (request : Request) (world : World) : World :=
  match carriedVector? request.headers with
  | some _ => world
  | none => { world with freshRoots := world.freshRoots + 1 }

/-- The world when the handling of a request begins. -/
def entered (request : Request) (world : World) : World :=
  (known request world).logged
    ⟨.debug, "dispatching", [("request_vector", (vectorOf request world).render)]⟩

/-- What a request is answered with once its method has ended. -/
def answer (dispatcher : HttpDispatcher) (request : Request) (method : RpcMethod)
    (outcome : Outcome) : Except DispatchError (MediaType × Body) :=
  match result method.name outcome with
  | .error e => .error e
  | .ok output => dispatcher.encode method (acceptedTypes request.headers) output

/-- The response to a request, and the world after an error is reported. -/
def finished (dispatcher : HttpDispatcher) (request : Request) (vector : RequestVector)
    (answer : Except DispatchError (MediaType × Body)) (world : World) : Response × World :=
  match answer with
  | .ok (media, body) => (respond vector .ok media body, world)
  | .error e =>
    (dispatcher.errorResponse vector (acceptedTypes request.headers) e,
      world.logged ((Error.dispatch e).event (some vector)))

variable {dispatcher : HttpDispatcher} {request : Request} {method : RpcMethod} {input : Json}

/-- The vector that a request carries is taken as it is, and a root is made up where there is
none. -/
theorem requestVector_eq (request : Request) (context : Option RequestVector) (world : World) :
    requestVector request.headers context world =
      (vectorOf request world, known request world) := by
  unfold requestVector vectorOf known
  cases carriedVector? request.headers with
  | none => rfl
  | some vector => rfl

/-- The handling of a request begins with the transports as they are. -/
theorem links_entered (request : Request) (world : World) :
    (entered request world).links = world.links := by
  show (known request world).links = world.links
  unfold known
  split <;> rfl

/-- A run of a dispatcher is a run of its handling under the vector of the request. -/
theorem dispatch_of_handle {answer : Except DispatchError (MediaType × Body)}
    {world after : World} (context : Option RequestVector)
    (h : dispatcher.handle request (some (vectorOf request world)) (entered request world) =
      (answer, after)) :
    dispatcher.dispatch request context world =
      dispatcher.finished request (vectorOf request world) answer after := by
  unfold dispatch
  rw [Run.bind_of_eq (requestVector_eq request context world)]
  have hlog : Run.log
      ⟨.debug, "dispatching", [("request_vector", (vectorOf request world).render)]⟩ context
      (known request world) = ((), entered request world) := rfl
  rw [Run.bind_of_eq hlog]
  unfold Run.within
  rw [Run.bind_of_eq h]
  cases answer with
  | ok found => rfl
  | error e => rfl

/-- A request that may not call a method only has its error reported. -/
theorem dispatch_of_prepare_error {e : DispatchError} (h : dispatcher.prepare request = .error e)
    (context : Option RequestVector) (world : World) :
    dispatcher.dispatch request context world =
      dispatcher.finished request (vectorOf request world) (.error e) (entered request world) := by
  refine dispatch_of_handle context ?_
  rw [handle, h]
  rfl

/-- A request that may call a method has its invoker run once, under the vector and with the
input. -/
theorem dispatch_of_prepare_ok {invoker : Invoker} {outcome : Outcome} {world after : World}
    (h : dispatcher.prepare request = .ok (method, input))
    (hinvoker : method.invoker = some invoker) (context : Option RequestVector)
    (hrun : invoker input (some (vectorOf request world)) (entered request world) =
      (outcome, after)) :
    dispatcher.dispatch request context world =
      dispatcher.finished request (vectorOf request world)
        (dispatcher.answer request method outcome) after := by
  refine dispatch_of_handle context ?_
  have hinvoke : invoke method input (some (vectorOf request world)) (entered request world) =
      (result method.name outcome, after) := by
    unfold invoke
    rw [hinvoker]
    exact Run.bind_of_eq hrun
  unfold handle answer
  rw [h]
  show (invoke method input >>= _) (some (vectorOf request world)) (entered request world) = _
  rw [Run.bind_of_eq hinvoke]
  cases result method.name outcome with
  | error e => rfl
  | ok output => rfl

end HttpDispatcher

end HttpRpc
