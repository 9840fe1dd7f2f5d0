import AppMend.Proofs.Preview.Hops

/-!
# Who waits for the browser

The slot of the browser is held by one call, and the others that want it stand in a queue. A call that
waits in the queue has no deadline of its own: it goes on when the slot comes to it. So nothing may be
lost here. `Service.Orderly` says that the slot is not idle while calls wait and that no call waits
twice; `Service.Placed` says where a call stands by its phase. A hop of a call keeps both, and so does a
step (`settled_step`), and it changes nothing about the place of any other call.
-/

namespace AppMend.Preview

/-- Whether a call has the slot or waits for it. -/
def Phase.waits : Phase → Bool
  | .queued | .launching .. => true
  | .asking | .writing | .opening _ | .loading .. | .settling .. | .looking .. | .leaving ..
  | .retiring _ | .closing .. | .done _ => false

def Phase.isDone : Phase → Bool
  | .done _ => true
  | .asking | .queued | .launching .. | .writing | .opening _ | .loading .. | .settling ..
  | .looking .. | .leaving .. | .retiring _ | .closing .. => false

namespace Service

open Relation (TransGen)

variable {c : PreviewConfig} {b : Browser} {now : Nat} {job : Job} {s s' : Service}
  {call other : Nat} {phase phase' : Phase} {r r' : Phase × Service}

/-- The call that has the slot and those that wait for it, in their order. -/
def waiting (s : Service) : List Nat := s.holder.toList ++ s.queue

structure Orderly (s : Service) : Prop where
  distinct : s.waiting.Nodup
  /-- The slot is not idle while a call waits. -/
  given : s.holder = none → s.queue = []

/-- Where a call in a phase stands. -/
def Placed (s : Service) (call : Nat) : Phase → Prop
  | .queued => call ∈ s.waiting
  | .launching .. => s.holder = some call
  | .asking | .writing | .opening _ | .loading .. | .settling .. | .looking .. | .leaving ..
  | .retiring _ | .closing .. | .done _ => call ∉ s.waiting

/-- What a step of a call leaves as it is: the places of the other calls, and which calls there were. -/
structure Spares (s s' : Service) (call : Nat) : Prop where
  waiting : ∀ n, n ≠ call → (n ∈ s'.waiting ↔ n ∈ s.waiting)
  holder : ∀ n, n ≠ call → s.holder = some n → s'.holder = some n
  calls : s'.calls = s.calls

theorem mem_waiting : call ∈ s.waiting ↔ s.holder = some call ∨ call ∈ s.queue := by
  simp [waiting]

/-- Who does not have the slot nor waits for it has no place there. -/
theorem placed_of_not_mem (hw : phase.waits = false) (hm : call ∉ s.waiting) :
    Placed s call phase := by
  cases phase with
  | queued | launching => cases hw
  | _ => exact hm

theorem Placed.not_mem (hp : Placed s call phase) (hw : phase.waits = false) : call ∉ s.waiting := by
  cases phase with
  | queued | launching => cases hw
  | _ => exact hp

/-- Where a call stands does not depend on what another one does. -/
theorem Spares.placed (h : Spares s s' call) (hn : other ≠ call) (hp : Placed s other phase) :
    Placed s' other phase := by
  cases hw : phase.waits with
  | false => exact placed_of_not_mem hw fun hm => hp.not_mem hw ((h.waiting other hn).mp hm)
  | true =>
      cases phase with
      | queued => exact (h.waiting other hn).mpr hp
      | launching => exact h.holder other hn hp
      | _ => cases hw

/-- A call that waits is in the queue or has the slot. -/
theorem Placed.waits (hp : Placed s call phase) (hm : call ∈ s.waiting) : phase.waits = true := by
  cases hw : phase.waits with
  | true => rfl
  | false => exact absurd hm (hp.not_mem hw)

/-! ## The slot goes on -/

/-- The slot goes to the first one in the queue, and nothing else changes. -/
theorem pass_eq (s : Service) : s.pass = { s with holder := s.queue.head?, queue := s.queue.tail } := by
  obtain ⟨browser, holder, queue, calls, calledOff, leftOpen, log⟩ := s
  cases queue <;> rfl

theorem pass_holder (s : Service) : s.pass.holder = s.queue.head? := by rw [pass_eq]

theorem pass_queue (s : Service) : s.pass.queue = s.queue.tail := by rw [pass_eq]

theorem pass_calls (s : Service) : s.pass.calls = s.calls := by rw [pass_eq]

theorem pass_calledOff (s : Service) : s.pass.calledOff = s.calledOff := by rw [pass_eq]

theorem pass_browser (s : Service) : s.pass.browser = s.browser := by rw [pass_eq]

theorem pass_leftOpen (s : Service) : s.pass.leftOpen = s.leftOpen := by rw [pass_eq]

theorem pass_log (s : Service) : s.pass.log = s.log := by rw [pass_eq]

theorem waiting_pass (s : Service) : s.pass.waiting = s.queue := by
  rw [waiting, pass_holder, pass_queue]
  cases s.queue <;> rfl

theorem Orderly.pass (h : Orderly s) : Orderly s.pass where
  distinct := by
    rw [waiting_pass]
    exact (List.nodup_append.mp h.distinct).2.1
  given := by
    intro hn
    rw [pass_holder, List.head?_eq_none_iff] at hn
    unfold Service.pass
    rw [hn]

/-- Who gave the slot on does not wait any more, and all others do as they did. -/
theorem spares_pass (hc : s.holder = some call) : Spares s s.pass call where
  waiting := by
    intro n hn
    rw [waiting_pass, mem_waiting, hc]
    simp [Ne.symm hn]
  holder := by
    intro n hn hh
    rw [hc] at hh
    exact absurd (Option.some.inj hh).symm hn
  calls := pass_calls s

theorem Orderly.not_mem_pass (h : Orderly s) (hc : s.holder = some call) :
    call ∉ s.pass.waiting := by
  rw [waiting_pass]
  have hd := h.distinct
  rw [waiting, hc] at hd
  exact (List.nodup_cons.mp hd).1

/-- A state that differs in other things than the slot has the same calls waiting. -/
theorem orderly_congr (h : Orderly s) (hh : s'.holder = s.holder) (hq : s'.queue = s.queue) :
    Orderly s' :=
  ⟨by rw [waiting, hh, hq]; exact h.distinct, by rw [hh, hq]; exact h.given⟩

theorem waiting_congr (hh : s'.holder = s.holder) (hq : s'.queue = s.queue) :
    s'.waiting = s.waiting := by
  rw [waiting, hh, hq, waiting]

theorem placed_congr (hp : Placed s call phase) (hh : s'.holder = s.holder)
    (hq : s'.queue = s.queue) : Placed s' call phase := by
  have hw : s'.waiting = s.waiting := waiting_congr hh hq
  cases phase with
  | queued => show call ∈ s'.waiting; rw [hw]; exact hp
  | launching => exact hh.trans hp
  | _ => show call ∉ s'.waiting; rw [hw]; exact hp

/-! ## Every hop of a call -/

/-- What a hop of a call leads to. -/
structure Settled (s s' : Service) (call : Nat) (phase' : Phase) : Prop where
  orderly : Orderly s'
  placed : Placed s' call phase'
  spares : Spares s s' call

theorem Settled.trans {t : Service} (h : Settled s t call phase) (h' : Settled t s' call phase') :
    Settled s s' call phase' where
  orderly := h'.orderly
  placed := h'.placed
  spares :=
    { waiting := fun n hn => (h'.spares.waiting n hn).trans (h.spares.waiting n hn)
      holder := fun n hn hh => h'.spares.holder n hn (h.spares.holder n hn hh)
      calls := h'.spares.calls.trans h.spares.calls }

/-- After a hop that gives the slot on, to a phase that does not need it. -/
theorem settled_pass (h : Orderly s) (hc : s.holder = some call) (hw : phase'.waits = false)
    (hh : s'.holder = s.pass.holder) (hq : s'.queue = s.pass.queue) (hn : s'.calls = s.calls) :
    Settled s s' call phase' := by
  have hm : s'.waiting = s.pass.waiting := waiting_congr hh hq
  refine ⟨orderly_congr h.pass hh hq, placed_of_not_mem hw fun hc' => ?_, ?_, ?_, hn⟩
  · exact h.not_mem_pass hc (hm ▸ hc')
  · intro n hne
    rw [hm]
    exact (spares_pass hc).waiting n hne
  · intro n hne hs
    rw [hh]
    exact (spares_pass hc).holder n hne hs

/-- The same when something else was done before the slot was given on. -/
theorem settled_pass_of_eq {t : Service} (h : Orderly s) (hc : s.holder = some call)
    (hw : phase'.waits = false) (hq : t.queue = s.queue) (hn : t.calls = s.calls) :
    Settled s t.pass call phase' := by
  refine settled_pass h hc hw ?_ ?_ ?_
  · rw [pass_holder, pass_holder, hq]
  · rw [pass_queue, pass_queue, hq]
  · rw [pass_calls, hn]

/-- After a hop that has nothing to do with the slot. -/
theorem settled_aside (h : Orderly s) (hm : call ∉ s.waiting) (hw : phase'.waits = false)
    (hh : s'.holder = s.holder) (hq : s'.queue = s.queue) (hn : s'.calls = s.calls) :
    Settled s s' call phase' := by
  have hm' : s'.waiting = s.waiting := waiting_congr hh hq
  refine ⟨orderly_congr h hh hq, placed_of_not_mem hw fun hc => hm (hm' ▸ hc), ?_, ?_, hn⟩
  · intro n _
    rw [hm']
  · intro n _ hs
    rw [hh, hs]

/-- With a browser a call goes on, and the slot has gone on already. -/
theorem settled_withBrowser {t : Service} (h : Orderly s) (hc : s.holder = some call) (b : Browser)
    (job : Job) (hq : t.queue = s.queue) (hn : t.calls = s.calls) :
    Settled s (t.pass.withBrowser b call job).2 call (t.pass.withBrowser b call job).1 := by
  have given (phase : Phase) (hw : phase.waits = false) (is : List Incident) :
      Settled s (t.pass.note is) call phase :=
    (settled_pass_of_eq h hc hw hq hn).trans
      (settled_aside (orderly_congr h.pass (by rw [pass_holder, pass_holder, hq])
          (by rw [pass_queue, pass_queue, hq]))
        (by
          rw [waiting_pass, hq, ← waiting_pass]
          exact h.not_mem_pass hc) hw rfl rfl rfl)
  unfold withBrowser
  cases job with
  | render =>
      dsimp only
      split
      · exact settled_pass_of_eq h hc rfl hq hn
      · exact given .writing rfl _
      · exact given .writing rfl _
  | launch | shutdown => exact settled_pass_of_eq h hc rfl hq hn

/-- A call that asks for the slot has it when it is free. -/
theorem settled_given (h : Orderly s) (hfree : s.holder = none) :
    Settled s { s with holder := some call } call .queued := by
  have hq : s.queue = [] := h.given hfree
  have hw : s.waiting = [] := by rw [waiting, hfree, hq]; rfl
  have hw' : waiting { s with holder := some call } = [call] := by simp [waiting, hq]
  refine ⟨⟨by rw [hw']; simp, fun hn => by cases hn⟩, ?_, ?_, ?_, rfl⟩
  · show call ∈ waiting _
    rw [hw']
    exact List.mem_singleton_self call
  · -- nobody waited before, so whoever waits now is this call
    intro n hne
    rw [hw, hw']
    simp [hne]
  · intro n _ hn
    rw [hfree] at hn
    cases hn

/-- A call that asks for the slot while it is held takes the last place in the queue. -/
theorem settled_enqueue (h : Orderly s) (hm : call ∉ s.waiting) {n : Nat} (hheld : s.holder = some n) :
    Settled s { s with queue := s.queue ++ [call] } call .queued := by
  have hw : waiting { s with queue := s.queue ++ [call] } = s.waiting ++ [call] := by
    simp [waiting]
  refine ⟨⟨?_, ?_⟩, ?_, ?_, fun _ _ hs => hs, rfl⟩
  · rw [hw]
    refine List.nodup_append.mpr ⟨h.distinct, by simp, ?_⟩
    intro a ha b hb hab
    rw [hab, List.mem_singleton.mp hb] at ha
    exact hm ha
  · intro hn
    rw [hheld] at hn
    cases hn
  · show call ∈ waiting _
    rw [hw]
    simp
  · intro m hne
    rw [hw]
    simp [hne]

/-- **A hop of a call keeps the order of the slot, and the places of all other calls.** -/
theorem settled_hop (h : Orderly r.2) (hp : Placed r.2 call r.1) (hop : Hop c b call job r r') :
    Settled r.2 r'.2 call r'.1 := by
  cases hop with
  | given hfree => exact settled_given h hfree
  | enqueued hheld => exact settled_enqueue h hp hheld
  | found hc => exact settled_withBrowser h hc b job rfl rfl
  | missing hc => exact settled_pass_of_eq h hc rfl rfl rfl
  | @tried s deadline hc =>
      exact ⟨orderly_congr h rfl rfl, hc, fun _ _ => Iff.rfl, fun _ _ hs => hs, rfl⟩
  | started => exact settled_withBrowser h hp b job rfl rfl
  | @unstarted s => exact settled_pass_of_eq (t := s.note [.launchFailed]) h hp rfl rfl rfl
  | idle hc => exact settled_pass_of_eq h hc rfl rfl rfl
  | @takenOut s n hc => exact settled_pass_of_eq (t := { s with browser := none }) h hc rfl rfl rfl
  | pageless hn => obtain ⟨_, rfl⟩ | ⟨_, rfl⟩ := hn <;> exact settled_aside h hp rfl rfl rfl rfl
  | departed hc => obtain ⟨_, _, rfl, _⟩ | ⟨_, rfl⟩ := hc <;> exact settled_aside h hp rfl rfl rfl rfl
  | _ => exact settled_aside h hp rfl rfl rfl rfl

/-- **So does a step.** -/
theorem settled_step (h : Orderly s) (hp : Placed s call phase)
    (hs : s.step? c b now call job phase = some r) : Settled s r.2 call r.1 := by
  have hops := hops_of_step? hs
  clear hs
  induction hops with
  | single hop => exact settled_hop h hp hop
  | tail _ hop ih => exact ih.trans (settled_hop ih.orderly ih.placed hop)

theorem withdraw_log (s : Service) (call : Nat) : (s.withdraw call).log = s.log := by
  unfold withdraw
  split
  · exact pass_log s
  · rfl

theorem withdraw_browser (s : Service) (call : Nat) : (s.withdraw call).browser = s.browser := by
  unfold withdraw
  split
  · exact pass_browser s
  · rfl

theorem withdraw_leftOpen (s : Service) (call : Nat) : (s.withdraw call).leftOpen = s.leftOpen := by
  unfold withdraw
  split
  · exact pass_leftOpen s
  · rfl

/-- A call that is given up has no place any more. -/
theorem settled_withdraw (h : Orderly s) (hw : phase'.waits = false) :
    Settled s (s.withdraw call) call phase' := by
  unfold withdraw
  split
  · rename_i hc
    exact settled_pass h hc hw rfl rfl (pass_calls s)
  · rename_i hc
    -- it is not the holder, so leaving the queue is leaving all that wait
    have hwaiting : waiting { s with queue := s.queue.filter (· != call) }
        = s.waiting.filter (· != call) := by
      have hh : s.holder.toList.filter (· != call) = s.holder.toList := by
        cases hh : s.holder with
        | none => rfl
        | some n =>
            have : n ≠ call := fun he => hc (by rw [hh, he])
            simp [this]
      rw [waiting, waiting, List.filter_append, hh]
    refine ⟨⟨?_, ?_⟩, placed_of_not_mem hw ?_, ?_, fun _ _ hs => hs, rfl⟩
    · rw [hwaiting]
      exact h.distinct.filter _
    · intro hn
      show s.queue.filter _ = []
      rw [h.given hn]
      rfl
    · rw [hwaiting]
      simp
    · intro n hne
      rw [hwaiting]
      simp [hne]

theorem settled_abandon (h : Orderly s) (hp : Placed s call phase) (r : Outcome) :
    Settled s (s.abandon call phase) call (.done r) := by
  cases phase with
  | queued => exact settled_withdraw h rfl
  | launching =>
      have hnoted : Orderly (s.note [.launchFailed]) := orderly_congr h rfl rfl
      have hset : Settled (s.note [.launchFailed]) _ call (.done r) := settled_withdraw hnoted rfl
      exact ⟨hset.orderly, hset.placed, hset.spares.waiting, hset.spares.holder, hset.spares.calls⟩
  | _ => exact settled_aside h hp rfl rfl rfl rfl

theorem closeLeft_holder (call : Nat) (s : Service) : (s.closeLeft call).holder = s.holder := by
  unfold closeLeft
  split <;> rfl

theorem closeLeft_queue (call : Nat) (s : Service) : (s.closeLeft call).queue = s.queue := by
  unfold closeLeft
  split <;> rfl

theorem closeLeft_calls (call : Nat) (s : Service) : (s.closeLeft call).calls = s.calls := by
  unfold closeLeft
  split <;> rfl

/-- **A call that is given up keeps no place.** -/
theorem settled_drop (h : Orderly s) (hp : Placed s call phase) (r : Outcome) :
    Settled s (s.drop call phase) call (.done r) := by
  have hset := settled_abandon h hp r
  refine hset.trans ?_
  exact settled_aside hset.orderly hset.placed rfl (closeLeft_holder ..) (closeLeft_queue ..)
    (closeLeft_calls ..)

/-! ## When a call can go on -/

/-- A call that knows when it goes on does so at that time or later. -/
theorem step?_of_wakeTime? {c : PreviewConfig} {b : Browser} {now later t : Nat}
    {bundle entry : String} (ht : s.wakeTime? now call phase = some t) (hl : t ≤ later) :
    ∃ phase' s', s.step? c b later call (.render bundle entry) phase = some (phase', s') := by
  -- in most phases it is a deadline that is waited for
  have hdue (r : Phase × Service) : due later t r = some r := if_pos hl
  cases phase with
  | asking =>
      unfold step?
      dsimp only
      split <;> exact ⟨_, _, rfl⟩
  | writing | retiring => exact ⟨_, _, rfl⟩
  | queued =>
      unfold wakeTime? at ht
      dsimp only at ht
      split at ht
      · rename_i hh
        unfold step?
        dsimp only
        rw [if_pos hh]
        exact ⟨_, _, rfl⟩
      · cases ht
  | done => cases ht
  | _ => cases ht; exact ⟨_, _, hdue _⟩

/-- Some call that waits can go on, if any waits: that one that has the slot. -/
theorem Orderly.holder_of_waiting (h : Orderly s) (hm : call ∈ s.waiting) :
    ∃ n ∈ s.waiting, s.holder = some n := by
  cases hh : s.holder with
  | some n => exact ⟨n, mem_waiting.mpr (.inl hh), rfl⟩
  | none =>
      rw [waiting, hh, h.given hh] at hm
      cases hm

end Service

end AppMend.Preview
