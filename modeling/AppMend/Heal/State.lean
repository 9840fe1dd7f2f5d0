import AppMend.Json.Value

/-!
# The state of a heal

A heal starts idle and ends healed, failed or cancelled. In between it alternates between two phases,
each of which carries the number of the attempt: waiting for new files, and checking them. Which step
may follow which is one table, and the bound on the attempts is part of it. Every step is recorded.
-/

namespace AppMend

inductive HealStatus where
  | idle
  /-- Waiting for the files of an attempt. -/
  | healing (attempt : Nat)
  /-- Checking the files of an attempt. -/
  | revalidating (attempt : Nat)
  | healed
  /-- Out of attempts. -/
  | failed
  | cancelled
deriving DecidableEq, Inhabited

namespace HealStatus

/-- The status without its attempt. -/
def name : HealStatus → String
  | idle => "idle"
  | healing _ => "healing"
  | revalidating _ => "revalidating"
  | healed => "healed"
  | failed => "failed"
  | cancelled => "cancelled"

def attempt? : HealStatus → Option Nat
  | healing n | revalidating n => some n
  | idle | healed | failed | cancelled => none

def text (s : HealStatus) : String :=
  match s.attempt? with
  | some n => s!"{s.name}({n})"
  | none => s.name

/-- Whether nothing follows. -/
def isTerminal : HealStatus → Bool
  | healed | failed | cancelled => true
  | idle | healing _ | revalidating _ => false

/-- The status of a name, with an attempt if it takes one. -/
def ofName? (name : String) (attempt : Nat) : Option HealStatus :=
  [idle, healing attempt, revalidating attempt, healed, failed, cancelled].find? (·.name == name)

/-- Whether one status may follow another when `max` attempts are allowed. An attempt for which no
files came counts as used up. -/
def mayFollow (max : Nat) : HealStatus → HealStatus → Bool
  | .idle, .healing n => n == 1 && 1 ≤ max
  | .healing n, .revalidating m => n == m
  | .healing n, .healing m => m == n + 1 && m ≤ max
  | .revalidating n, .healing m => m == n + 1 && m ≤ max
  | .revalidating _, .healed => true
  | s, .failed => !s.isTerminal
  | s, .cancelled => !s.isTerminal
  | _, _ => false

def toJson (s : HealStatus) : Json.Value :=
  .objectOf [("status", some s.name), ("attempt", s.attempt?.map .ofNat)]

end HealStatus

/-- A step that was taken. -/
structure Transition where
  source : HealStatus
  target : HealStatus
  reason : Option String := none
deriving DecidableEq, Inhabited

def Transition.toJson (t : Transition) : Json.Value :=
  .objectOf [("from", some t.source.toJson), ("to", some t.target.toJson),
    ("reason", t.reason.map .str)]

/-- A step that may not be taken. -/
structure IllegalTransition where
  source : HealStatus
  target : HealStatus
deriving DecidableEq, Inhabited

def IllegalTransition.message (e : IllegalTransition) : String :=
  s!"Illegal heal transition: {e.source.text} → {e.target.text}"

structure HealState where
  /-- The attempts begun so far. -/
  attemptNumber : Nat := 0
  maxAttempts : Nat := 3
  status : HealStatus := .idle
  lastMessage : Option String := none
  /-- The steps taken so far, the first one first. -/
  transitions : List Transition := []
deriving DecidableEq, Inhabited

namespace HealState

/-- The state before anything happened. -/
def start (maxAttempts : Nat) : HealState := { maxAttempts }

/-- Takes a step, if it may be taken. -/
def advance (s : HealState) (target : HealStatus) (reason : Option String) :
    Except IllegalTransition HealState :=
  if HealStatus.mayFollow s.maxAttempts s.status target then
    .ok { s with
      attemptNumber := target.attempt?.getD s.attemptNumber
      status := target
      lastMessage := reason.or s.lastMessage
      transitions := s.transitions ++ [⟨s.status, target, reason⟩] }
  else .error ⟨s.status, target⟩

/-- Begins the next attempt. -/
def beginAttempt (s : HealState) (reason : String) : Except IllegalTransition HealState :=
  s.advance (.healing (s.attemptNumber + 1)) (some reason)

def fail (s : HealState) (reason : String) : Except IllegalTransition HealState :=
  s.advance .failed (some reason)

def cancel (s : HealState) (reason : String) : Except IllegalTransition HealState :=
  s.advance .cancelled (some reason)

def isTerminal (s : HealState) : Bool := s.status.isTerminal

/-- Whether another attempt may be begun. -/
def canRetry (s : HealState) : Bool := !s.isTerminal && s.attemptNumber < s.maxAttempts

/-- The history in one line. -/
def summary (s : HealState) : String :=
  s!"{HealStatus.idle.text} → {s.status.text} ({s.attemptNumber}/{s.maxAttempts} attempts)" ++
    (if s.transitions.isEmpty then ""
      else " [" ++ " → ".intercalate (s.transitions.map (·.target.text)) ++ "]")

def toJson (s : HealState) : Json.Value :=
  .objectOf [("attemptNumber", some (.ofNat s.attemptNumber)),
    ("maxAttempts", some (.ofNat s.maxAttempts)), ("status", some s.status.toJson),
    ("lastMessage", s.lastMessage.map .str),
    ("transitions", some (.arr (s.transitions.map Transition.toJson)))]

end HealState

end AppMend
