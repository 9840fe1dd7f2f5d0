import AppMend.Heal.Session
import AppMend.Preview.Service

/-!
# Heals that run together

Heals share the preview service, the registry of sessions, the bus of events and the generator. A heal
goes on in small steps, each a function of the time and of what is shared, so heals can be interleaved
in any way. `Heals.run` interleaves them as one worker does: each goes on until it has to wait, in the
order they were started, and when all wait the clock moves on.
-/

namespace AppMend

open Preview (Phase Service)

/-- What the generator does with a request. -/
structure Reply where
  delayMs : Nat := 0
  answer : Generated
  /-- It calls everything off and never answers. -/
  callsOff : Bool := false

/-- What heals meet from outside. -/
structure HealWorld where
  config : Config
  browser : Browser
  /-- What the app was made from. -/
  prompt : String
  files : FileSet
  /-- What the generator does with each request, by its number from zero. -/
  reply : Nat → RegenerationRequest → Reply

/-- What heals share. -/
structure HealShared where
  service : Service := {}
  registry : Registry := .empty
  bus : EventBus := {}
  /-- The requests made so far, the last one first. -/
  requests : List RegenerationRequest := []
  /-- Whether everything was called off from outside. -/
  stopped : Bool := false

/-- What a heal is doing. -/
inductive Activity where
  | unstarted
  /-- It does what its session says next. -/
  | ready (s : Session)
  /-- A pass is at its preview. -/
  | rendering (s : Session) (p : Pass) (code entry : String) (call : Nat) (phase : Phase)
  /-- The generator was asked; this will be its answer at that time. -/
  | awaiting (s : Session) (d : Diagnosis) (deadline : Nat) (answer : Generated)
  | ended (r : Except HealFailure Session)

structure Heal where
  session : String
  activity : Activity := .unstarted

namespace HealShared

/-- Whether everything was called off. -/
def calledOff (x : HealShared) : Bool := x.stopped || x.service.calledOff

def publish (x : HealShared) (es : List HealEvent) : HealShared :=
  { x with bus := es.foldl EventBus.publish x.bus }

end HealShared

namespace Heal

/-- The answer that a request gets and the time at which it comes, which is limited. -/
def answerAt (w : HealWorld) (now : Nat) (r : Reply) : Nat × Generated :=
  let limit := w.config.heal.regenerationTimeoutMs
  if r.delayMs ≤ limit then (now + r.delayMs, r.answer)
  else (now + limit, .error (.timeout limit))

/-- Goes on with the session after a step of it. -/
def after (x : HealShared) (session : String) : SessionStep → Activity × HealShared
  | .ok (s, events) => (.ready s, x.publish events)
  | .error e =>
    (.ended (.error (.transition e)), { x with registry := x.registry.release session })

/-- Does what a session says next. -/
def proceed (w : HealWorld) (now : Nat) (x : HealShared) (s : Session) : Activity × HealShared :=
  match s.phase with
  | .over => (.ended (.ok s), { x with registry := x.registry.release s.name })
  | .checking =>
    match Pass.upToPreview w.config (fun _ => x.calledOff) s.state.attemptNumber s.working with
    | .error stage => after x s.name (s.onCalledOff stage.name)
    | .ok (.over p) => after x s.name (s.onPass p)
    | .ok (.toRender p code entry) =>
      (.rendering s p code entry x.service.calls .asking,
        { x with service.calls := x.service.calls + 1 })
  | .regenerating d =>
    let request := s.request d
    let reply := w.reply x.requests.length request
    let x := { x with requests := request :: x.requests }
    if reply.callsOff then after { x with stopped := true } s.name (s.onCalledOff "regeneration")
    else
      let (deadline, answer) := answerAt w now reply
      (.awaiting s d deadline answer, x)

/-- The next step of a heal, unless it has to wait or is over. -/
def step? (w : HealWorld) (now : Nat) (x : HealShared) (h : Heal) : Option (Heal × HealShared) :=
  let next (r : Activity × HealShared) := some ({ h with activity := r.1 }, r.2)
  match h.activity with
  | .unstarted =>
    match x.registry.lease h.session with
    | .error e => next (.ended (.error (.busy e)), x)
    | .ok registry =>
      next (.ready (.start h.session w.prompt w.files w.config.heal.maxAttempts), { x with registry })
  | .ready s => next (proceed w now x s)
  | .rendering s p _ entry _ (.done outcome) =>
    next (after x s.name (s.onPass (p.finish entry (Preview.verdict outcome))))
  | .rendering s p code entry call phase =>
    if x.calledOff then
      next (after { x with service := x.service.drop call phase } s.name
        (s.onCalledOff Stage.preview.name))
    else
      (x.service.step? w.config.preview w.browser now call (.render code entry) phase).bind
        fun (phase, service) => next (.rendering s p code entry call phase, { x with service })
  | .awaiting s d deadline answer =>
    if x.calledOff then next (after x s.name (s.onCalledOff "regeneration"))
    else if deadline ≤ now then next (after x s.name (s.onGenerated d answer))
    else none
  | .ended _ => none

/-- Whether a heal waits for its document to be written. -/
def isWriting (h : Heal) : Bool :=
  match h.activity with
  | .rendering _ _ _ _ _ .writing => true
  | _ => false

/-- Takes steps until the heal has to wait or is over. Writing a document always makes it wait. -/
def poll (w : HealWorld) (now : Nat) : Nat → HealShared → Heal → Heal × HealShared
  | 0, x, h => (h, x)
  | fuel + 1, x, h =>
    match h.step? w now x with
    | none => (h, x)
    | some (h, x) => if h.isWriting then (h, x) else poll w now fuel x h

/-- When a heal that waits can go on, if that is known. -/
def wakeTime? (now : Nat) (x : HealShared) (h : Heal) : Option Nat :=
  match h.activity with
  | .unstarted | .ready _ => some now
  | .rendering _ _ _ _ call phase =>
    if x.calledOff then some now else x.service.wakeTime? now call phase
  | .awaiting _ _ deadline _ => if x.calledOff then some now else some deadline
  | .ended _ => none

end Heal

namespace Heals

/-- The most steps that one heal takes. -/
def maxSteps (w : HealWorld) : Nat := 24 * (w.config.heal.maxAttempts + 2)

/-- One turn of each heal. -/
def round (w : HealWorld) (now : Nat) : HealShared → List Heal → List Heal × HealShared
  | x, [] => ([], x)
  | x, h :: hs =>
    let (h, x) := h.poll w now (maxSteps w) x
    let (hs, x) := round w now x hs
    (h :: hs, x)

/-- Rounds until no heal is left that can go on. -/
def run (w : HealWorld) : Nat → Nat → HealShared → List Heal → List Heal × HealShared
  | 0, _, x, hs => (hs, x)
  | fuel + 1, now, x, hs =>
    let (hs, x) := round w now x hs
    match (hs.filterMap (·.wakeTime? now x)).min? with
    | none => (hs, x)
    | some t => run w fuel (max now t) x hs

/-- What each of the heals came to that were started together. -/
def runBatch (w : HealWorld) (x : HealShared) (sessions : List String) :
    List (Option (Except HealFailure Session)) × HealShared :=
  let (hs, x) := run w (maxSteps w * (sessions.length + 1)) 0 x
    (sessions.map fun session => { session })
  (hs.map fun h => match h.activity with
    | .ended r => some r
    | _ => none, x)

/-- Runs batches of heals, one batch after another. -/
def runBatches (w : HealWorld) : HealShared → List (List String) →
    List (Option (Except HealFailure Session)) × HealShared
  | x, [] => ([], x)
  | x, sessions :: rest =>
    let (rs, x) := runBatch w x sessions
    let (rest, x) := runBatches w x rest
    (rs ++ rest, x)

end Heals

end AppMend
