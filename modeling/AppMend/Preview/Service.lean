import AppMend.Preview.Harness
import AppMend.Preview.Inspection

/-!
# The preview service

All previews share one browser, which is started when it is first needed. The slot of the browser is
held by one call at a time, also while the browser starts; further calls wait in the order they came. A
browser that is shut down is taken out of the slot first, and closed when the slot has gone on. Every
rendering has a page and a document of its own, and neither outlives it.

A call is in one of a few phases, and `Service.step?` takes it to the next one in which it has to wait. It
is a function of the time, the browser and the shared state alone, so calls can be interleaved in any way.
A call that waits can be given up. What was done to browsers, pages and documents is kept in a log.
-/

namespace AppMend.Preview

/-- What was done to a browser, to a page or to a document. Browsers are told apart by a number, pages
and documents by the number of the call they belong to. -/
inductive Incident where
  /-- A start was tried. -/
  | launchTried
  | launched (browser : Nat)
  /-- A start that was tried came to nothing. -/
  | launchFailed
  | browserClosed (browser : Nat)
  | documentMade (call : Nat)
  | documentRemoved (call : Nat)
  | pageOpened (call : Nat)
  | pageClosed (call : Nat)
deriving DecidableEq, Inhabited

/-- The state that all calls share. -/
structure Service where
  /-- The browser that runs. -/
  browser : Option Nat := none
  /-- The call that holds the slot of the browser. -/
  holder : Option Nat := none
  /-- The calls that wait for the slot, the next one first. -/
  queue : List Nat := []
  /-- The number of the next call. -/
  calls : Nat := 0
  /-- Whether a page called off the run it was opened for. -/
  calledOff : Bool := false
  /-- The calls that left a page open, which is closed later. -/
  leftOpen : List Nat := []
  log : List Incident := []
deriving DecidableEq, Inhabited

/-- What a call is for. -/
inductive Job where
  | launch
  | shutdown
  | render (bundle entry : String)
deriving DecidableEq, Inhabited

/-- What a call came to; only a rendering has a verdict. -/
abbrev Outcome := Except PreviewFailure (Option Verdict)

/-- What a rendering came to. -/
def verdict (r : Outcome) : Except PreviewFailure Verdict := r.map (·.getD {})

/-- The hold that a rendering has on its page, until it closes the page. -/
structure PageGuard where
  page : Option PageBehaviour

namespace PageGuard

def empty : PageGuard := ⟨none⟩

def holding (p : PageBehaviour) : PageGuard := ⟨some p⟩

/-- The page, to be used. -/
def get (g : PageGuard) : Except PreviewFailure PageBehaviour :=
  match g.page with
  | some p => .ok p
  | none => .error .pageClosed

end PageGuard

inductive Phase where
  /-- It has not asked for the browser. -/
  | asking
  /-- It waits for the slot. -/
  | queued
  /-- It holds the slot and waits for a browser to start; this is what comes of it. -/
  | launching (deadline : Nat) (started : Except PreviewFailure Unit)
  /-- It writes its document. -/
  | writing
  /-- Its page is opened. -/
  | opening (deadline : Nat)
  /-- Its page is loaded; this is whether it will be in time. -/
  | loading (deadline : Nat) (loaded : Except PreviewFailure Bool) (guard : PageGuard)
  /-- Its page was loaded and is left alone for a while. -/
  | settling (deadline : Nat) (guard : PageGuard)
  /-- Its page is looked at; this is what comes of it. -/
  | looking (deadline : Nat) (outcome : Outcome) (guard : PageGuard)
  /-- Its page is closed. -/
  | leaving (deadline : Nat) (outcome : Outcome)
  /-- It took a browser out of the slot and is to close it. -/
  | retiring (browser : Nat)
  /-- The browser that it took out is closed. -/
  | closing (deadline : Nat) (outcome : Outcome)
  | done (outcome : Outcome)

/-- Whether a call waits in a phase, so that it can be given up there. -/
def Phase.isSuspended : Phase → Bool
  | .retiring _ | .done _ => false
  | .asking | .queued | .launching .. | .writing | .opening _ | .loading .. | .settling ..
  | .looking .. | .leaving .. | .closing .. => true

namespace Service

def note (s : Service) (is : List Incident) : Service := { s with log := s.log ++ is }

def running (s : Service) : Bool := s.browser.isSome

/-- Goes on at once, or after a time in a phase. -/
def pause (now ms : Nat) (phase : Nat → Phase) (next : Service → Phase × Service) (s : Service) :
    Phase × Service :=
  if ms = 0 then next s else (phase (now + ms), s)

/-! ## The slot -/

/-- Gives the slot to the next call. -/
def pass (s : Service) : Service :=
  match s.queue with
  | [] => { s with holder := none }
  | call :: queue => { s with holder := some call, queue }

/-- Takes a call out of the queue, and the slot out of its hands. -/
def withdraw (s : Service) (call : Nat) : Service :=
  if s.holder = some call then s.pass else { s with queue := s.queue.filter (· != call) }

/-- The number of the next browser. -/
def nextBrowser (s : Service) : Nat :=
  (s.log.filter fun i => match i with
    | .launched _ => true
    | _ => false).length

/-! ## What a call does with the slot -/

/-- The phase that follows when a browser is there. -/
def withBrowser (b : Browser) (call : Nat) (job : Job) (s : Service) : Phase × Service :=
  match job with
  | .render .. =>
    match b.writing with
    | .refused e => (.done (.error (.harness e)), s)
    | .done | .failed _ => (.writing, s.note [.documentMade call])
  | .launch | .shutdown => (.done (.ok none), s)

/-- Puts a browser that started into the slot. -/
def install (s : Service) : Service :=
  { s with browser := some s.nextBrowser }.note [.launched s.nextBrowser]

/-- How long the start of a browser is waited for, and what comes of it. -/
def start (c : PreviewConfig) (b : Browser) : Nat × Except PreviewFailure Unit :=
  let inTime (r : Except PreviewFailure Unit) : Nat × Except PreviewFailure Unit :=
    if b.launchMs ≤ c.launchTimeoutMs then (b.launchMs, r)
    else (c.launchTimeoutMs, .error (.launchTimeout c.launchTimeoutMs))
  match b.launch with
  | .done => inTime (.ok ())
  | .failed e => inTime (.error (.launch e))
  | .missing => (0, .error .noBrowser)
  | .endless => (c.launchTimeoutMs, .error (.launchTimeout c.launchTimeoutMs))

/-- Goes on after a start that was tried. -/
def afterStart (b : Browser) (call : Nat) (job : Job) (started : Except PreviewFailure Unit)
    (s : Service) : Phase × Service :=
  match started with
  | .ok () => s.install.pass.withBrowser b call job
  | .error e => (.done (.error e), (s.note [.launchFailed]).pass)

/-- Gets a browser, from the slot or by a start. -/
def acquire (c : PreviewConfig) (b : Browser) (now call : Nat) (job : Job) (s : Service) :
    Phase × Service :=
  if s.running then s.pass.withBrowser b call job
  else if b.launch = .missing then (.done (.error .noBrowser), s.pass)
  else
    pause now (start c b).1 (.launching · (start c b).2) (afterStart b call job (start c b).2)
      (s.note [.launchTried])

/-- Takes the browser out of the slot. -/
def takeOut (s : Service) : Phase × Service :=
  match s.browser with
  | none => (.done (.ok none), s.pass)
  | some n => (.retiring n, { s with browser := none }.pass)

/-- What comes of closing a browser. -/
def closeOutcome (b : Browser) : Outcome :=
  match b.closeError with
  | some e => .error (.launch e)
  | none => .ok none

/-- Closes a browser that was taken out of the slot. -/
def close (b : Browser) (now browser : Nat) (s : Service) : Phase × Service :=
  pause now b.closeMs (.closing · (closeOutcome b)) (fun s => (.done (closeOutcome b), s))
    (s.note [.browserClosed browser])

/-- What a call does that holds the slot. -/
def useSlot (c : PreviewConfig) (b : Browser) (now call : Nat) (job : Job) (s : Service) :
    Phase × Service :=
  match job with
  | .shutdown => s.takeOut
  | .launch | .render .. => s.acquire c b now call job

/-! ## What a call does with a page -/

/-- Lets go of what a rendering has: its document is removed, and a page that it still holds is closed
later. -/
def letGo (call : Nat) (guard : PageGuard) (s : Service) : Service :=
  { s with leftOpen := s.leftOpen ++ if guard.page.isSome then [call] else [] }.note
    [.documentRemoved call]

/-- Ends a rendering that has closed its page. -/
def depart (call : Nat) (outcome : Outcome) (s : Service) : Phase × Service :=
  (.done outcome, s.letGo call .empty)

/-- Closes the page of a rendering, unless that was done, and ends it. -/
def leave (now call : Nat) (outcome : Outcome) (guard : PageGuard) (s : Service) : Phase × Service :=
  match guard.page with
  | some p =>
    pause now p.closeMs (.leaving · outcome) (depart call outcome) (s.note [.pageClosed call])
  | none => depart call outcome s

/-- Goes on with the page of a rendering, if it holds one. -/
def withPage (call : Nat) (guard : PageGuard) (next : PageBehaviour → Service → Phase × Service)
    (s : Service) : Phase × Service :=
  match guard.get with
  | .ok p => next p s
  | .error e => (.done (.error e), s.letGo call guard)

/-- Looks at a page that was loaded. -/
def look (c : PreviewConfig) (now call : Nat) (entry : String) (guard : PageGuard) :
    Service → Phase × Service :=
  withPage call guard fun p =>
    let outcome : Outcome := .ok (some (inspect c entry true p))
    pause now p.lookMs (.looking · outcome guard) (leave now call outcome guard)

/-- Goes on when the loading of a page has ended or is not waited for any more. -/
def afterLoading (c : PreviewConfig) (now call : Nat) (entry : String)
    (loaded : Except PreviewFailure Bool) (guard : PageGuard) : Service → Phase × Service :=
  match loaded with
  | .ok true => pause now c.settleMs (.settling · guard) (look c now call entry guard)
  | .ok false =>
    withPage call guard fun p => leave now call (.ok (some (inspect c entry false p))) guard
  | .error e => leave now call (.error e) guard

/-- How long the loading of a page is waited for, and what comes of it: whether it was loaded in time. -/
def load (c : PreviewConfig) (p : PageBehaviour) : Nat × Except PreviewFailure Bool :=
  let inTime (r : Except PreviewFailure Bool) : Nat × Except PreviewFailure Bool :=
    if p.loadMs ≤ c.navigationTimeoutMs then (p.loadMs, r) else (c.navigationTimeoutMs, .ok false)
  match p.loading with
  | .done => inTime (.ok true)
  | .failed e => inTime (.error (.page e))
  | .endless => (c.navigationTimeoutMs, .ok false)

/-- Goes on with the page of an app, if it could be opened. -/
def afterOpening (c : PreviewConfig) (b : Browser) (now call : Nat) (bundle entry : String)
    (s : Service) : Phase × Service :=
  match b.openError with
  | some e => (.done (.error (.page e)), s.letGo call .empty)
  | none =>
    let page := b.page (harnessPage c bundle entry)
    withPage call (.holding page)
      (fun p => pause now (load c p).1 (.loading · (load c p).2 (.holding page))
        (afterLoading c now call entry (load c p).2 (.holding page)))
      ({ s with calledOff := s.calledOff || page.cancels }.note [.pageOpened call])

/-- Opens the page of an app, if its document could be written. -/
def afterWriting (c : PreviewConfig) (b : Browser) (now call : Nat) (bundle entry : String)
    (s : Service) : Phase × Service :=
  match b.writing with
  | .failed e => (.done (.error (.harness e)), s.letGo call .empty)
  | .done | .refused _ => pause now b.openMs .opening (afterOpening c b now call bundle entry) s

/-! ## Steps -/

/-- What comes of a time, if that is over. -/
def due (now deadline : Nat) (r : Phase × Service) : Option (Phase × Service) :=
  if deadline ≤ now then some r else none

/-- The next step of a rendering that has its document. -/
def renderStep? (c : PreviewConfig) (b : Browser) (now call : Nat) (bundle entry : String)
    (s : Service) : Phase → Option (Phase × Service)
  | .writing => some (s.afterWriting c b now call bundle entry)
  | .opening deadline => due now deadline (s.afterOpening c b now call bundle entry)
  | .loading deadline loaded guard => due now deadline (s.afterLoading c now call entry loaded guard)
  | .settling deadline guard => due now deadline (s.look c now call entry guard)
  | .looking deadline outcome guard => due now deadline (s.leave now call outcome guard)
  | .leaving deadline outcome => due now deadline (s.depart call outcome)
  | _ => none

/-- The next step of a call, unless it has to wait or is done. -/
def step? (c : PreviewConfig) (b : Browser) (now call : Nat) (job : Job) (s : Service) :
    Phase → Option (Phase × Service)
  | .asking =>
    match s.holder with
    | none => some ({ s with holder := some call }.useSlot c b now call job)
    | some _ => some (.queued, { s with queue := s.queue ++ [call] })
  | .queued => if s.holder = some call then some (s.useSlot c b now call job) else none
  | .launching deadline started => due now deadline (s.afterStart b call job started)
  | .retiring browser => some (s.close b now browser)
  | .closing deadline outcome => due now deadline (.done outcome, s)
  | phase =>
    match job with
    | .render bundle entry => s.renderStep? c b now call bundle entry phase
    | .launch | .shutdown => none

/-- The state after a call was given up in a phase. -/
def abandon (call : Nat) (s : Service) : Phase → Service
  | .asking | .retiring _ | .closing .. | .done _ => s
  | .queued => s.withdraw call
  | .launching .. => (s.note [.launchFailed]).withdraw call
  | .writing | .opening _ | .leaving .. => s.letGo call .empty
  | .loading _ _ guard | .settling _ guard | .looking _ _ guard => s.letGo call guard

/-- Closes a page that was left open. -/
def closeLeft (call : Nat) (s : Service) : Service :=
  if call ∈ s.leftOpen then { s with leftOpen := s.leftOpen.erase call }.note [.pageClosed call]
  else s

/-- The state after a call was given up in a phase and its page was closed. -/
def drop (call : Nat) (s : Service) (phase : Phase) : Service := (s.abandon call phase).closeLeft call

/-- Takes steps until the call has to wait or is done. Writing a document always makes it wait. -/
def poll (c : PreviewConfig) (b : Browser) (now call : Nat) (job : Job) :
    Nat → Phase → Service → Phase × Service
  | 0, phase, s => (phase, s)
  | fuel + 1, phase, s =>
    match s.step? c b now call job phase with
    | none => (phase, s)
    | some (.writing, s) => (.writing, s)
    | some (phase, s) => poll c b now call job fuel phase s

/-- The most steps that a call takes. -/
def maxSteps : Nat := 10

/-- When a call that waits can go on, if that is known. -/
def wakeTime? (now call : Nat) (s : Service) : Phase → Option Nat
  | .asking | .writing | .retiring _ => some now
  | .queued => if s.holder = some call then some now else none
  | .launching deadline _ | .opening deadline | .loading deadline .. | .settling deadline _
  | .looking deadline .. | .leaving deadline _ | .closing deadline _ => some deadline
  | .done _ => none

/-! ## Counts -/

def launches (s : Service) : Nat := s.log.count .launchTried

def opened (s : Service) : Nat :=
  (s.log.filter fun i => match i with
    | .pageOpened _ => true
    | _ => false).length

def closed (s : Service) : Nat :=
  (s.log.filter fun i => match i with
    | .pageClosed _ => true
    | _ => false).length

def documentsMade (s : Service) : Nat :=
  (s.log.filter fun i => match i with
    | .documentMade _ => true
    | _ => false).length

def documentsRemoved (s : Service) : Nat :=
  (s.log.filter fun i => match i with
    | .documentRemoved _ => true
    | _ => false).length

end Service

end AppMend.Preview
