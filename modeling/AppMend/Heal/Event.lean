import AppMend.Heal.State

/-!
# Events of a heal

Each step of a heal is told to whoever listens. The bus keeps a limited number of events: a listener
that is slower than that loses the oldest ones, and learns how many.
-/

namespace AppMend

/-- The state of a heal after a step. -/
structure HealEvent where
  session : String
  attempt : Nat
  maxAttempts : Nat
  status : HealStatus
  message : Option String
deriving DecidableEq, Inhabited

namespace HealEvent

def ofState (session : String) (s : HealState) : HealEvent :=
  ⟨session, s.attemptNumber, s.maxAttempts, s.status, s.lastMessage⟩

def progress (e : HealEvent) : String := s!"{e.attempt}/{e.maxAttempts}"

def toJson (e : HealEvent) : Json.Value :=
  .objectOf [("sessionId", some e.session), ("attempt", some (.ofNat e.attempt)),
    ("maxAttempts", some (.ofNat e.maxAttempts)), ("status", some e.status.toJson),
    ("message", e.message.map .str)]

end HealEvent

/-- The events told so far, the last one first, and where each listener stands. -/
structure EventBus where
  told : List HealEvent := []
  /-- By name of the listener: how many events were told before the next one it gets. -/
  listeners : List (String × Nat) := []
deriving DecidableEq, Inhabited

namespace EventBus

/-- How many events the bus keeps. -/
def capacity : Nat := 256

def publish (b : EventBus) (e : HealEvent) : EventBus := { b with told := e :: b.told }

/-- Adds a listener to all that is told from now on, in place of one of the same name. -/
def subscribe (b : EventBus) (listener : String) : EventBus :=
  { b with listeners := b.listeners.filter (·.1 != listener) ++ [(listener, b.told.length)] }

def unsubscribe (b : EventBus) (listener : String) : EventBus :=
  { b with listeners := b.listeners.filter (·.1 != listener) }

def isListening (b : EventBus) (listener : String) : Bool := b.listeners.any (·.1 == listener)

def count (b : EventBus) : Nat := b.listeners.length

/-- Hands a listener the events that wait for it, the first one first, and the number of those it
lost. -/
def drain (b : EventBus) (listener : String) : EventBus × List HealEvent × Nat :=
  let position := ((b.listeners.find? (·.1 == listener)).map (·.2)).getD b.told.length
  let waiting := b.told.length - position
  let kept := min waiting capacity
  ({ b with listeners := b.listeners.map fun (n, p) => if n == listener then (n, b.told.length) else (n, p) },
    (b.told.take kept).reverse, waiting - kept)

end EventBus

end AppMend
