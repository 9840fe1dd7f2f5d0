import AppMend.Preview.Service

/-!
# Calls that run together

Calls on one preview service take turns, in the order they were made. Each goes on until it has to
wait. When all of them wait, the clock moves on to the earliest time at which one can go on. A call may
have a limit: if it is not done by then, it is given up.
-/

namespace AppMend.Preview

/-- How far a call got. -/
inductive Standing where
  | live (phase : Phase)
  | ended (outcome : Outcome)
  /-- It was given up. -/
  | givenUp

/-- The standing of a call that got to a phase. -/
def Standing.ofPhase : Phase → Standing
  | .done outcome => .ended outcome
  | phase => .live phase

structure Call where
  job : Job
  number : Nat := 0
  /-- The time at which it is given up. -/
  limit : Option Nat := none
  /-- Whether it is given up when the run is called off. -/
  heedsCallOff : Bool := false
  standing : Standing := .live .asking

namespace Call

def isLive (k : Call) : Bool :=
  match k.standing with
  | .live _ => true
  | .ended _ | .givenUp => false

/-- One step of a call, unless it has to wait or is over. -/
def step? (c : PreviewConfig) (b : Browser) (now : Nat) (k : Call) (s : Service) :
    Option (Call × Service) :=
  match k.standing with
  | .ended _ | .givenUp => none
  | .live phase =>
    (s.step? c b now k.number k.job phase).map fun r => ({ k with standing := .ofPhase r.1 }, r.2)

/-- Gives up a call that waits. A page that it holds is left open, to be closed later. -/
def giveUp? (k : Call) (s : Service) : Option (Call × Service) :=
  match k.standing with
  | .ended _ | .givenUp => none
  | .live phase =>
    if phase.isSuspended then some ({ k with standing := .givenUp }, s.abandon k.number phase)
    else none

/-- One turn of a call: it takes steps until it has to wait, and may be given up then. -/
def turn (c : PreviewConfig) (b : Browser) (now : Nat) (k : Call) (s : Service) : Call × Service :=
  match k.standing with
  | .ended _ | .givenUp => (k, s)
  | .live phase =>
    match s.poll c b now k.number k.job Service.maxSteps phase with
    | (.done outcome, s) => ({ k with standing := .ended outcome }, s)
    | (phase, s) =>
      if k.limit.any (· ≤ now) || k.heedsCallOff && s.calledOff then
        ({ k with standing := .givenUp }, s.drop k.number phase)
      else ({ k with standing := .live phase }, s)

/-- When a call can go on or is given up. -/
def wakeTime? (now : Nat) (s : Service) (k : Call) : Option Nat :=
  match k.standing with
  | .ended _ | .givenUp => none
  | .live phase =>
    match s.wakeTime? now k.number phase, k.limit with
    | some t, some l => some (min t l)
    | some t, none => some t
    | none, l => l

end Call

namespace Service

/-- One turn of each call. -/
def round (c : PreviewConfig) (b : Browser) (now : Nat) : List Call → Service → List Call × Service
  | [], s => ([], s)
  | k :: ks, s =>
    let (k, s) := k.turn c b now s
    let (ks, s) := round c b now ks s
    (k :: ks, s)

/-- Rounds until no call is left that can go on. -/
def run (c : PreviewConfig) (b : Browser) : Nat → Nat → List Call → Service → List Call × Service
  | 0, _, ks, s => (ks, s)
  | fuel + 1, now, ks, s =>
    let (ks, s) := s.round c b now ks
    match (ks.filterMap (·.wakeTime? now s)).min? with
    | none => (ks, s)
    | some t => run c b fuel (max now t) ks s

/-- Runs a call for each job of a list, each given up at its time if it has one. -/
def runCalls (c : PreviewConfig) (b : Browser) (jobs : List Call) (s : Service) :
    List Standing × Service :=
  let calls := jobs.zipIdx.map fun (k, i) => { k with number := s.calls + i }
  let (ks, s) := { s with calls := s.calls + jobs.length }.run c b (maxSteps * (jobs.length + 1)) 0 calls
  (ks.map (·.standing), s)

end Service

end AppMend.Preview
