import AppMend.Heal.Event
import AppMend.Heal.Request
import AppMend.Pass

/-!
# Heal sessions

A session checks its files with a pass. If the pass fails, the generator is asked for new files, and
these are checked in turn, until a pass is green or no attempt is left.

A session is a machine that waits for one of two things, the result of a pass or the answer of the
generator, and can be called off while it waits. Where the results come from and how long they take is
not its concern.

A session is worked on by one heal at a time. A heal takes a lease of its session and gives it back in
the end; who asks for a session that is leased is turned away, and does not wait.
-/

namespace AppMend

/-! ## Leases of sessions -/

/-- The sessions that are leased, each once. -/
structure Registry where
  active : List String
  distinct : active.Nodup
deriving DecidableEq

/-- A session that is leased already. -/
structure SessionBusy where
  session : String
deriving DecidableEq, Inhabited

def SessionBusy.message (e : SessionBusy) : String :=
  s!"Session {e.session} already has a pipeline running"

namespace Registry

/-- No session is leased. -/
def empty : Registry := ⟨[], .nil⟩

instance : Inhabited Registry := ⟨empty⟩

def isActive (r : Registry) (session : String) : Bool := r.active.contains session

def count (r : Registry) : Nat := r.active.length

/-- Takes a lease. -/
def lease (r : Registry) (session : String) : Except SessionBusy Registry :=
  if h : session ∈ r.active then .error ⟨session⟩
  else .ok ⟨session :: r.active, List.nodup_cons.mpr ⟨h, r.distinct⟩⟩

/-- Gives a lease back. -/
def release (r : Registry) (session : String) : Registry where
  active := r.active.erase session
  distinct := r.distinct.erase _

/-! ## What a lease does to every session -/

theorem isActive_lease {r s : Registry} {session : String} (h : r.lease session = .ok s)
    (other : String) : s.isActive other = (other == session || r.isActive other) := by
  simp only [lease] at h
  split at h
  · contradiction
  · cases h
    simp [isActive, Bool.beq_eq_decide_eq]

theorem isActive_release (r : Registry) (session other : String) :
    (r.release session).isActive other = (other != session && r.isActive other) := by
  simp [isActive, release, r.distinct.mem_erase_iff, bne, Bool.beq_eq_decide_eq]

end Registry

/-- What a session waits for. -/
inductive SessionPhase where
  /-- A pass over the files. -/
  | checking
  /-- New files, because of a diagnosis. -/
  | regenerating (d : Diagnosis)
  | over
deriving DecidableEq, Inhabited

structure Session where
  name : String
  /-- What the app was made from. -/
  prompt : String
  state : HealState
  /-- The files as they are now. -/
  working : FileSet
  passes : List Pass := []
  /-- The diagnoses of the passes that failed. -/
  diagnoses : List Diagnosis := []
  /-- What was wrong before the attempt that mended it. -/
  fixApplied : Option String := none
  phase : SessionPhase := .checking
deriving DecidableEq, Inhabited

/-- A session after a step, with the events to tell. -/
abbrev SessionStep := Except IllegalTransition (Session × List HealEvent)

namespace Session

def start (name prompt : String) (working : FileSet) (maxAttempts : Nat) : Session :=
  { name, prompt, state := .start maxAttempts, working }

/-- Changes the status and tells of it. -/
def move (s : Session) (r : Except IllegalTransition HealState) (phase : SessionPhase) : SessionStep :=
  r.map fun state => ({ s with state, phase }, [.ofState s.name state])

/-- The message of a session that is out of attempts. -/
def exhausted (s : Session) (d : Diagnosis) : String :=
  s!"{s.state.maxAttempts} regeneration attempt(s) exhausted; manual fix required. Last failure: {d.summary}"

/-- Begins the next attempt because of a diagnosis, or gives up. -/
def retry (s : Session) (d : Diagnosis) : SessionStep :=
  if s.state.canRetry then s.move (s.state.beginAttempt d.summary) (.regenerating d)
  else s.move (s.state.fail (s.exhausted d)) .over

/-- Takes in the result of a pass. -/
def onPass (s : Session) (p : Pass) : SessionStep :=
  let s := { s with working := p.files, passes := s.passes ++ [p] }
  match p.diagnosis? with
  | some d => { s with diagnoses := s.diagnoses ++ [d] }.retry d
  | none =>
    match s.diagnoses.getLast? with
    | none => .ok ({ s with phase := .over }, [])
    | some d =>
      { s with fixApplied := some d.rootCause }.move
        (s.state.advance .healed
          (some s!"all stages passed after attempt {s.state.attemptNumber}")) .over

/-- Takes in the answer of the generator. An attempt without new files is used up. -/
def onGenerated (s : Session) (d : Diagnosis) (r : Generated) : SessionStep :=
  match r.checked with
  | .ok files =>
    { s with working := s.working.overlay files }.move
      (s.state.advance (.revalidating s.state.attemptNumber) (some "regenerated files received"))
      .checking
  | .error e => { s with state.lastMessage := some e.message }.retry d

/-- Calls the session off during something. -/
def onCalledOff (s : Session) (during : String) : SessionStep :=
  if s.state.isTerminal then .ok ({ s with phase := .over }, [])
  else s.move (s.state.cancel ("Pipeline cancelled during " ++ during)) .over

/-- What the generator is asked for because of a diagnosis. -/
def request (s : Session) (d : Diagnosis) : RegenerationRequest :=
  .of s.prompt d s.working s.state.attemptNumber

/-! ## What a session comes to -/

/-- Whether the files of the session are good. -/
def isValid (s : Session) : Bool :=
  match s.state.status with
  | .healed => true
  | .idle => (s.passes.getLast?.map Pass.allGreen).getD false
  | _ => false

/-- Whether the session gave up. -/
def needsManualFix (s : Session) : Bool := s.state.status == .failed

/-- The bundle of files that are good. -/
def bundle? (s : Session) : Option BundleArtifact :=
  if s.isValid then s.passes.getLast?.bind (·.bundle) else none

/-- What the session came to as a document. -/
def toJson (s : Session) : Json.Value :=
  .objectOf [("sessionId", some s.name), ("isValid", some s.isValid),
    ("manualFixRequired", some s.needsManualFix), ("fixApplied", s.fixApplied.map .str),
    ("state", some s.state.toJson), ("files", some s.working.toJson),
    ("bundle", s.bundle?.map BundleArtifact.toJson), ("passes", some (.arr (s.passes.map Pass.toJson))),
    ("diagnostics", some (.arr (s.diagnoses.map Diagnosis.toJson)))]

end Session

/-- Why a heal has no result. -/
inductive HealFailure where
  | busy (e : SessionBusy)
  | transition (e : IllegalTransition)
deriving DecidableEq, Inhabited

def HealFailure.message : HealFailure → String
  | busy e => e.message
  | transition e => e.message

end AppMend
