import HttpRpc.Error
import HttpRpc.Transport.Exchange

/-!
# Runs

The client and the server do more than compute: they log, wait, number outgoing calls, and act
inside the context of a call. `Run` is the type of such actions. The context is an ambient request
vector, which an action can only change for an action inside it; everything else is in the `World`.
-/

namespace HttpRpc

/-- What can be seen of a transport in memory: how many exchanges it has completed, and whether it
is closed. -/
structure MemoryLink where
  exchanges : Nat
  closed : Bool
deriving DecidableEq, Repr

/-- An exchange that a scripted transport was asked for, and when. -/
structure RecordedExchange where
  request : ExchangeRequest
  time : Nat
deriving DecidableEq, Repr

/-- The state of a scripted transport: the outcomes still to come and the exchanges asked for. -/
structure Script where
  outcomes : List (Except TransportError Response)
  recorded : List RecordedExchange

/-- Everything that actions change. -/
structure World where
  /-- The events logged, in order. -/
  log : List LogEvent
  /-- The delays waited for, in order. -/
  pauses : List Duration
  /-- The number of roots made up. -/
  freshRoots : Nat
  /-- The number of clients bound. -/
  clients : Nat
  /-- The sources of numbers for outgoing calls. -/
  sources : List VectorSource
  /-- The transports in memory. -/
  links : List MemoryLink
  /-- The scripted transports. -/
  scripts : List Script

/-- The world before anything has happened. -/
def World.initial : World := ⟨[], [], 0, 0, [], [], []⟩

/-- The longest time that a pause takes: thirty years of 365 days. -/
def Duration.longestPause : Duration := .ofParts (30 * 365 * 86400) 0

/-- The milliseconds that a pause takes, which ends with a full one. -/
def Duration.ticks (d : Duration) : Nat :=
  (min d.nanos longestPause.nanos + 999999) / 1000000

/-- The time in milliseconds: that of all pauses. -/
def World.time (world : World) : Nat :=
  world.pauses.foldl (fun time delay => time + delay.ticks) 0

/-- An action inside the context of a call. -/
abbrev Run (α : Type) : Type := ReaderT (Option RequestVector) (StateM World) α

namespace Run

/-! ## Context -/

/-- The ambient vector, if there is one. -/
def ambient : Run (Option RequestVector) := read

/-- The action with the vector as its ambient one. -/
def within {α : Type} (vector : RequestVector) (action : Run α) : Run α :=
  fun _ => action (some vector)

/-- The action without an ambient vector. -/
def apart {α : Type} (action : Run α) : Run α :=
  fun _ => action none

/-- The action as a task of its own that inherits the ambient vector. -/
def spawn {α : Type} (action : Run α) : Run α := do
  match ← ambient with
  | some vector => within vector action
  | none => apart action

/-! ## Log and time -/

/-- Logs an event. -/
def log (e : LogEvent) : Run Unit :=
  modify fun world => { world with log := world.log ++ [e] }

/-- Logs events. -/
def logAll (events : List LogEvent) : Run Unit :=
  modify fun world => { world with log := world.log ++ events }

/-- Logs the event that reports an error. -/
def report (e : Error) : Run Unit := do
  log (e.event (← ambient))

/-- Waits. -/
def pause (delay : Duration) : Run Unit :=
  modify fun world => { world with pauses := world.pauses ++ [delay] }

/-- The time in milliseconds. -/
def time : Run Nat := do
  let world : World ← get
  return world.time

/-! ## Request vectors -/

/-- A root made up for a request that came without one. -/
def freshRoot : Run RequestVector := do
  let world : World ← get
  set { world with freshRoots := world.freshRoots + 1 }
  return .freshRoot world.freshRoots

/-- The number of a source that has given no number yet. -/
def newSource : Run Nat := do
  let world : World ← get
  set { world with sources := world.sources ++ [VectorSource.new] }
  return world.sources.length

/-- The child of a vector under the next number of a source. -/
def nextChild (source : Nat) (parent : RequestVector) : Run RequestVector := do
  let world : World ← get
  let (child, after) := (world.sources.getD source VectorSource.new).nextChild parent
  set { world with sources := world.sources.set source after }
  return child

/-- The number of a client that is bound now. -/
def newClient : Run Nat := do
  let world : World ← get
  set { world with clients := world.clients + 1 }
  return world.clients

/-! ## Transports -/

/-- The number of a transport in memory that has seen no exchange. -/
def newLink : Run Nat := do
  let world : World ← get
  set { world with links := world.links ++ [MemoryLink.mk 0 false] }
  return world.links.length

/-- What can be seen of a transport in memory. -/
def link (number : Nat) : Run MemoryLink := do
  let world : World ← get
  return world.links.getD number ⟨0, true⟩

/-- Changes a transport in memory. -/
def modifyLink (number : Nat) (f : MemoryLink → MemoryLink) : Run Unit :=
  modify fun world => { world with links := world.links.modify number f }

/-- The number of a scripted transport with the outcomes. -/
def newScript (outcomes : List (Except TransportError Response)) : Run Nat := do
  let world : World ← get
  set { world with scripts := world.scripts ++ [Script.mk outcomes []] }
  return world.scripts.length

/-- The state of a scripted transport. -/
def script (number : Nat) : Run Script := do
  let world : World ← get
  return world.scripts.getD number ⟨[], []⟩

/-- Sets the state of a scripted transport. -/
def setScript (number : Nat) (script : Script) : Run Unit :=
  modify fun world => { world with scripts := world.scripts.set number script }

end Run

end HttpRpc
