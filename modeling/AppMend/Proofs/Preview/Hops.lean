import AppMend.Preview.Service
import Mathlib.Logic.Relation

/-!
# The hops of a call

A step takes a call as far as it gets before it has to wait, which can be through several phases: what
takes no time is not waited for. A hop is the least that can happen on the way, from one phase to the next
one, whatever the time is. All hops are listed in `Hop`, and every step is a chain of them
(`hops_of_step?`). So what each hop keeps, each step keeps, and nothing has to be said again about how
long anything takes.
-/

namespace AppMend.Preview

/-- How many hops a call takes at most until it is done. -/
def Phase.stepsLeft : Phase → Nat
  | .asking => 9
  | .queued => 8
  | .launching .. => 7
  | .writing => 6
  | .opening _ => 5
  | .loading .. => 4
  | .settling .. => 3
  | .looking .. | .retiring _ => 2
  | .leaving .. | .closing .. => 1
  | .done _ => 0

/-- The call whose page or document it is about. -/
def Incident.call? : Incident → Option Nat
  | .documentMade n | .documentRemoved n | .pageOpened n | .pageClosed n => some n
  | .launchTried | .launched _ | .launchFailed | .browserClosed _ => none

namespace Service

open Relation (TransGen)

variable {c : PreviewConfig} {b : Browser} {now call : Nat} {job : Job} {bundle entry : String}
  {s : Service} {r₀ r r' : Phase × Service}

/-- What a call can do next, and the shared state then. -/
inductive Hop (c : PreviewConfig) (b : Browser) (call : Nat) (job : Job) :
    Phase × Service → Phase × Service → Prop where
  /-- It asks for the slot, which is free. -/
  | given {s : Service} : s.holder = none →
      Hop c b call job (.asking, s) (.queued, { s with holder := some call })
  | enqueued {s : Service} {n : Nat} : s.holder = some n →
      Hop c b call job (.asking, s) (.queued, { s with queue := s.queue ++ [call] })
  /-- There is a browser in the slot. -/
  | found {s : Service} : s.holder = some call → job ≠ .shutdown → s.running = true →
      Hop c b call job (.queued, s) (s.pass.withBrowser b call job)
  | missing {s : Service} : s.holder = some call → job ≠ .shutdown → s.running = false →
      b.launch = .missing →
      Hop c b call job (.queued, s) (.done (.error .noBrowser), s.pass)
  | tried {s : Service} {deadline : Nat} : s.holder = some call → job ≠ .shutdown →
      s.running = false → b.launch ≠ .missing →
      Hop c b call job (.queued, s) (.launching deadline (start c b).2, s.note [.launchTried])
  | started {s : Service} {deadline : Nat} :
      Hop c b call job (.launching deadline (.ok ()), s) (s.install.pass.withBrowser b call job)
  | unstarted {s : Service} {deadline : Nat} {e : PreviewFailure} :
      Hop c b call job (.launching deadline (.error e), s)
        (.done (.error e), (s.note [.launchFailed]).pass)
  /-- There is nothing to shut down. -/
  | idle {s : Service} : s.holder = some call → job = .shutdown → s.browser = none →
      Hop c b call job (.queued, s) (.done (.ok none), s.pass)
  | takenOut {s : Service} {n : Nat} : s.holder = some call → job = .shutdown →
      s.browser = some n →
      Hop c b call job (.queued, s) (.retiring n, { s with browser := none }.pass)
  | retired {s : Service} {n deadline : Nat} :
      Hop c b call job (.retiring n, s)
        (.closing deadline (closeOutcome b), s.note [.browserClosed n])
  | shut {s : Service} {deadline : Nat} {outcome : Outcome} :
      Hop c b call job (.closing deadline outcome, s) (.done outcome, s)
  | unwritten {s : Service} {bundle entry e : String} : job = .render bundle entry →
      b.writing = .failed e →
      Hop c b call job (.writing, s) (.done (.error (.harness e)), s.letGo call .empty)
  | written {s : Service} {bundle entry : String} {deadline : Nat} : job = .render bundle entry →
      (∀ e, b.writing ≠ .failed e) →
      Hop c b call job (.writing, s) (.opening deadline, s)
  | unopened {s : Service} {deadline : Nat} {e : String} : b.openError = some e →
      Hop c b call job (.opening deadline, s) (.done (.error (.page e)), s.letGo call .empty)
  | opened {s : Service} {bundle entry : String} {before deadline : Nat} :
      job = .render bundle entry → b.openError = none →
      Hop c b call job (.opening before, s)
        (.loading deadline (load c (b.page (harnessPage c bundle entry))).2
            (.holding (b.page (harnessPage c bundle entry))),
          { s with
            calledOff := s.calledOff || (b.page (harnessPage c bundle entry)).cancels }.note
              [.pageOpened call])
  | loaded {s : Service} {before deadline : Nat} {guard : PageGuard} :
      Hop c b call job (.loading before (.ok true) guard, s) (.settling deadline guard, s)
  | late {s : Service} {bundle entry : String} {before deadline : Nat} {p : PageBehaviour} :
      job = .render bundle entry →
      Hop c b call job (.loading before (.ok false) (.holding p), s)
        (.leaving deadline (.ok (some (inspect c entry false p))), s.note [.pageClosed call])
  | unloaded {s : Service} {before deadline : Nat} {e : PreviewFailure} {p : PageBehaviour} :
      Hop c b call job (.loading before (.error e) (.holding p), s)
        (.leaving deadline (.error e), s.note [.pageClosed call])
  | settled {s : Service} {bundle entry : String} {before deadline : Nat} {p : PageBehaviour} :
      job = .render bundle entry →
      Hop c b call job (.settling before (.holding p), s)
        (.looking deadline (.ok (some (inspect c entry true p))) (.holding p), s)
  | looked {s : Service} {before deadline : Nat} {outcome : Outcome} {p : PageBehaviour} :
      Hop c b call job (.looking before outcome (.holding p), s)
        (.leaving deadline outcome, s.note [.pageClosed call])
  | left {s : Service} {deadline : Nat} {outcome : Outcome} :
      Hop c b call job (.leaving deadline outcome, s) (.done outcome, s.letGo call .empty)
  /-- A page is needed that is not held. -/
  | pageless {s : Service} {phase : Phase}
      (needed : (∃ deadline, phase = .loading deadline (.ok false) .empty) ∨
        ∃ deadline, phase = .settling deadline .empty) :
      Hop c b call job (phase, s) (.done (.error .pageClosed), s.letGo call .empty)
  /-- A page is to be closed that is not held. -/
  | departed {s : Service} {phase : Phase} {outcome : Outcome}
      (toClose : (∃ deadline e, phase = .loading deadline (.error e) .empty ∧ outcome = .error e) ∨
        ∃ deadline, phase = .looking deadline outcome .empty) :
      Hop c b call job (phase, s) (.done outcome, s.letGo call .empty)

/-! ## What is done with a page -/

theorem leave_holding (now call : Nat) (outcome : Outcome) (p : PageBehaviour) (s : Service) :
    s.leave now call outcome (.holding p) =
      pause now p.closeMs (.leaving · outcome) (depart call outcome) (s.note [.pageClosed call]) :=
  rfl

theorem withPage_holding (call : Nat) (p : PageBehaviour)
    (next : PageBehaviour → Service → Phase × Service) (s : Service) :
    s.withPage call (.holding p) next = next p s := rfl

theorem look_holding (c : PreviewConfig) (now call : Nat) (entry : String) (p : PageBehaviour)
    (s : Service) :
    s.look c now call entry (.holding p) =
      pause now p.lookMs (.looking · (.ok (some (inspect c entry true p))) (.holding p))
        (leave now call (.ok (some (inspect c entry true p))) (.holding p)) s := rfl

/-! ## Steps are chains of hops -/

/-- What takes no time is two hops in one. -/
theorem hops_pause {ms : Nat} (phase : Nat → Phase) {next : Service → Phase × Service}
    (hfirst : Hop c b call job r₀ (phase (now + ms), s))
    (hnext : TransGen (Hop c b call job) (phase (now + ms), s) (next s)) :
    TransGen (Hop c b call job) r₀ (pause now ms phase next s) := by
  unfold pause
  split
  · exact .head hfirst hnext
  · exact .single hfirst

theorem hops_leave {p : PageBehaviour} {outcome : Outcome}
    (hfirst : ∀ deadline, Hop c b call job r₀ (.leaving deadline outcome, s.note [.pageClosed call])) :
    TransGen (Hop c b call job) r₀ (s.leave now call outcome (.holding p)) := by
  rw [leave_holding]
  exact hops_pause _ (hfirst _) (.single .left)

theorem hops_leave_of_looking {deadline : Nat} {outcome : Outcome} (guard : PageGuard) :
    TransGen (Hop c b call job) (.looking deadline outcome guard, s)
      (s.leave now call outcome guard) := by
  obtain ⟨_ | p⟩ := guard
  · exact .single (.departed (.inr ⟨_, rfl⟩))
  · exact hops_leave fun _ => .looked

theorem hops_look {deadline : Nat} (guard : PageGuard) :
    TransGen (Hop c b call (.render bundle entry)) (.settling deadline guard, s)
      (s.look c now call entry guard) := by
  obtain ⟨_ | p⟩ := guard
  · exact .single (.pageless (.inr ⟨_, rfl⟩))
  · show TransGen _ _ (s.look c now call entry (.holding p))
    rw [look_holding]
    exact hops_pause _ (.settled rfl) (hops_leave_of_looking _)

theorem hops_afterLoading {deadline : Nat} (loaded : Except PreviewFailure Bool)
    (guard : PageGuard) :
    TransGen (Hop c b call (.render bundle entry)) (.loading deadline loaded guard, s)
      (s.afterLoading c now call entry loaded guard) := by
  match loaded, guard with
  | .ok true, guard => exact hops_pause (.settling · guard) .loaded (hops_look guard)
  | .ok false, ⟨none⟩ => exact .single (.pageless (.inl ⟨_, rfl⟩))
  | .ok false, ⟨some p⟩ => exact hops_leave fun _ => .late rfl
  | .error e, ⟨none⟩ => exact .single (.departed (.inl ⟨_, e, rfl, rfl⟩))
  | .error e, ⟨some p⟩ => exact hops_leave fun _ => .unloaded

theorem hops_afterOpening {deadline : Nat} :
    TransGen (Hop c b call (.render bundle entry)) (.opening deadline, s)
      (s.afterOpening c b now call bundle entry) := by
  unfold afterOpening
  cases ho : b.openError with
  | some e => exact .single (.unopened ho)
  | none =>
      dsimp only
      rw [withPage_holding]
      exact hops_pause _ (.opened rfl ho) (hops_afterLoading _ _)

theorem hops_afterWriting :
    TransGen (Hop c b call (.render bundle entry)) (.writing, s)
      (s.afterWriting c b now call bundle entry) := by
  unfold afterWriting
  cases hw : b.writing with
  | failed e => exact .single (.unwritten rfl hw)
  | done => exact hops_pause _ (.written rfl (by simp [hw])) hops_afterOpening
  | refused e => exact hops_pause _ (.written rfl (by simp [hw])) hops_afterOpening

theorem hops_afterStart {deadline : Nat} (started : Except PreviewFailure Unit) :
    TransGen (Hop c b call job) (.launching deadline started, s) (s.afterStart b call job started) := by
  cases started with
  | ok => exact .single .started
  | error e => exact .single .unstarted

theorem hops_acquire (hc : s.holder = some call) (hj : job ≠ .shutdown) :
    TransGen (Hop c b call job) (.queued, s) (s.acquire c b now call job) := by
  unfold acquire
  cases hr : s.running with
  | true => exact .single (.found hc hj hr)
  | false =>
      rw [if_neg Bool.false_ne_true]
      split
      · rename_i hm
        exact .single (.missing hc hj hr hm)
      · rename_i hm
        exact hops_pause _ (.tried hc hj hr hm) (hops_afterStart _)

theorem hops_takeOut (hc : s.holder = some call) (hj : job = .shutdown) :
    TransGen (Hop c b call job) (.queued, s) s.takeOut := by
  unfold takeOut
  cases hb : s.browser with
  | none => exact .single (.idle hc hj hb)
  | some n => exact .single (.takenOut hc hj hb)

theorem hops_useSlot (hc : s.holder = some call) :
    TransGen (Hop c b call job) (.queued, s) (s.useSlot c b now call job) := by
  unfold useSlot
  cases job with
  | shutdown => exact hops_takeOut hc rfl
  | launch => exact hops_acquire hc (by simp)
  | render bundle entry => exact hops_acquire hc (by simp)

theorem hops_of_due {deadline : Nat} {phase : Phase}
    (hr : TransGen (Hop c b call job) (phase, s) r) (hs : due now deadline r = some r') :
    TransGen (Hop c b call job) (phase, s) r' := by
  unfold due at hs
  split at hs
  · exact Option.some.inj hs ▸ hr
  · cases hs

theorem hops_of_renderStep? {phase : Phase}
    (hs : s.renderStep? c b now call bundle entry phase = some r) :
    TransGen (Hop c b call (.render bundle entry)) (phase, s) r := by
  cases phase with
  | writing => exact Option.some.inj hs ▸ hops_afterWriting
  | opening => exact hops_of_due hops_afterOpening hs
  | loading => exact hops_of_due (hops_afterLoading _ _) hs
  | settling => exact hops_of_due (hops_look _) hs
  | looking => exact hops_of_due (hops_leave_of_looking _) hs
  | leaving => exact hops_of_due (.single .left) hs
  | asking | queued | launching | retiring | closing | done => cases hs

/-- **Every step that a call takes is a chain of hops.** -/
theorem hops_of_step? {phase : Phase} (hs : s.step? c b now call job phase = some r) :
    TransGen (Hop c b call job) (phase, s) r := by
  cases phase with
  | asking =>
      unfold step? at hs
      dsimp only at hs
      split at hs
      · rename_i hh
        exact Option.some.inj hs ▸ .head (.given hh) (hops_useSlot rfl)
      · rename_i hh
        exact Option.some.inj hs ▸ .single (.enqueued hh)
  | queued =>
      unfold step? at hs
      dsimp only at hs
      split at hs
      · rename_i hc
        exact Option.some.inj hs ▸ hops_useSlot hc
      · cases hs
  | launching => exact hops_of_due (hops_afterStart _) hs
  | retiring => exact Option.some.inj hs ▸ hops_pause _ .retired (.single .shut)
  | closing => exact hops_of_due (.single .shut) hs
  | writing | opening | loading | settling | looking | leaving =>
      cases job with
      | render bundle entry => exact hops_of_renderStep? hs
      | launch | shutdown => cases hs
  | done => cases job <;> cases hs

/-- What each hop keeps, each step keeps. -/
theorem step_induction {P : Phase → Service → Prop}
    (hop : ∀ phase s phase' s', P phase s → Hop c b call job (phase, s) (phase', s') → P phase' s')
    {phase : Phase} (h0 : P phase s) (hs : s.step? c b now call job phase = some r) :
    P r.1 r.2 := by
  have hops := hops_of_step? hs
  clear hs
  induction hops with
  | single h => exact hop _ _ _ _ h0 h
  | tail _ h ih => exact hop _ _ _ _ ih h

/-! ## How a call comes to its end -/

theorem stepsLeft_withBrowser (b : Browser) (call : Nat) (job : Job) (s : Service) :
    (s.withBrowser b call job).1.stepsLeft ≤ Phase.writing.stepsLeft := by
  unfold withBrowser
  cases job with
  | render => cases b.writing <;> simp [Phase.stepsLeft]
  | launch | shutdown => simp [Phase.stepsLeft]

/-- **Every hop brings a call nearer to its end.** -/
theorem stepsLeft_hop (h : Hop c b call job r r') : r'.1.stepsLeft < r.1.stepsLeft := by
  cases h with
  | found | started =>
      have := stepsLeft_withBrowser b call job
      exact Nat.lt_of_le_of_lt (this _) (by simp [Phase.stepsLeft])
  | pageless hn => obtain ⟨_, rfl⟩ | ⟨_, rfl⟩ := hn <;> simp [Phase.stepsLeft]
  | departed hc => obtain ⟨_, _, rfl, _⟩ | ⟨_, rfl⟩ := hc <;> simp [Phase.stepsLeft]
  | _ => simp [Phase.stepsLeft]

theorem stepsLeft_step {phase : Phase} (hs : s.step? c b now call job phase = some r) :
    r.1.stepsLeft < phase.stepsLeft := by
  have hops := hops_of_step? hs
  clear hs
  induction hops with
  | single h => exact stepsLeft_hop h
  | tail _ h ih => exact Nat.lt_trans (stepsLeft_hop h) ih

theorem stepsLeft_lt_maxSteps (phase : Phase) : phase.stepsLeft < maxSteps := by
  cases phase <;> simp [Phase.stepsLeft, maxSteps]

end Service

end AppMend.Preview
