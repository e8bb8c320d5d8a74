import HttpRpc.Run

/-!
# Runs step by step

A run is a function of the ambient vector and the world. `Run.bind_of_eq` follows a run from one
action to the next.
-/

namespace HttpRpc

/-- The world with one more event in its log. -/
def World.logged (world : World) (e : LogEvent) : World :=
  { world with log := world.log ++ [e] }

namespace Run

variable {α β : Type} {action : Run α} {rest : α → Run β} {context : Option RequestVector}
  {world after : World}

/-- Once an action has ended, the rest runs with its result in the world that it left. -/
theorem bind_of_eq {a : α} (h : action context world = (a, after)) :
    (action >>= rest) context world = rest a context after := by
  show rest (action context world).1 context (action context world).2 = rest a context after
  rw [h]

end Run

end HttpRpc
