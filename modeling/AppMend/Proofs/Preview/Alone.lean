import AppMend.Preview.Schedule
import AppMend.Proofs.Preview.Slot

/-!
# A rendering that runs alone

When nobody has the slot or waits for it, a rendering waits for nobody. Every step brings it nearer to its
end, and the clock goes on to the time at which it can take the next one. So it comes to its end within
the rounds that it has, unless it is called off, and then either it was called off before or its own page
does it; and nobody has the slot or waits for it in the end (`runCalls_alone`).
-/

namespace AppMend.Preview

namespace Service

variable {c : PreviewConfig} {b : Browser} {bundle entry : String} {now call fuel : Nat}
  {phase phase' : Phase} {s s' : Service} {Q : Prop}

/-- What stays true of a rendering that runs alone: no other call has the slot or waits for it, and if the
run is called off, there is a cause. -/
structure Alone (Q : Prop) (s : Service) (call : Nat) (phase : Phase) : Prop where
  orderly : Orderly s
  placed : Placed s call phase
  others : ∀ n ∈ s.waiting, n = call
  cause : s.calledOff = true → Q

/-- Nobody waits once a call that ran alone has no place any more. -/
theorem waiting_of_placed {outcome : Outcome} (hp : Placed s call (.done outcome))
    (ho : ∀ n ∈ s.waiting, n = call) : s.waiting = [] :=
  List.eq_nil_iff_forall_not_mem.mpr fun n hn => hp (ho n hn ▸ hn)

/-! ## Steps -/

theorem withBrowser_calledOff (b : Browser) (call : Nat) (job : Job) (s : Service) :
    (s.withBrowser b call job).2.calledOff = s.calledOff := by
  unfold withBrowser
  cases job with
  | render => cases b.writing <;> rfl
  | launch | shutdown => rfl

/-- Only its own page calls a rendering off, when it is opened. -/
theorem calledOff_of_hop {r r' : Phase × Service} (hop : Hop c b call (.render bundle entry) r r')
    (hoff : r'.2.calledOff = true) :
    r.2.calledOff = true ∨ (∃ deadline, r.1 = .opening deadline) ∧ b.openError = none ∧
      (b.page (harnessPage c bundle entry)).cancels = true := by
  cases hop with
  | opened hjob ho =>
      cases hjob
      exact (Bool.or_eq_true_iff.mp hoff).imp_right fun hcancels => ⟨⟨_, rfl⟩, ho, hcancels⟩
  | found | started =>
      rw [withBrowser_calledOff, pass_calledOff] at hoff
      exact .inl hoff
  | missing | unstarted | idle | takenOut =>
      rw [pass_calledOff] at hoff
      exact .inl hoff
  | _ => exact .inl hoff

/-- **A step leaves a rendering alone.** -/
theorem alone_step (hQ : (b.page (harnessPage c bundle entry)).cancels = true → Q)
    (h : Alone Q s call phase)
    (hs : s.step? c b now call (.render bundle entry) phase = some (phase', s')) :
    Alone Q s' call phase' := by
  have hcause : s'.calledOff = true → Q :=
    step_induction (P := fun _ s => s.calledOff = true → Q)
      (fun _ _ _ _ hcause hop hoff => (calledOff_of_hop hop hoff).elim hcause fun h => hQ h.2.2) h.cause hs
  have hsettled : Settled s s' call phase' := settled_step h.orderly h.placed hs
  refine ⟨hsettled.orderly, hsettled.placed, fun n hn => ?_, hcause⟩
  by_cases he : n = call
  · exact he
  · exact h.others n ((hsettled.spares.waiting n he).mp hn)

/-! ## Turns -/

theorem abandon_calledOff (call : Nat) (s : Service) (phase : Phase) :
    (s.abandon call phase).calledOff = s.calledOff := by
  have hwithdraw (t : Service) : (t.withdraw call).calledOff = t.calledOff := by
    unfold withdraw
    split
    · exact pass_calledOff t
    · rfl
  cases phase with
  | queued => exact hwithdraw s
  | launching => exact hwithdraw _
  | _ => rfl

theorem closeLeft_calledOff (call : Nat) (s : Service) : (s.closeLeft call).calledOff = s.calledOff := by
  unfold closeLeft
  split <;> rfl

theorem drop_calledOff (call : Nat) (s : Service) (phase : Phase) :
    (s.drop call phase).calledOff = s.calledOff :=
  (closeLeft_calledOff call _).trans (abandon_calledOff call s phase)

theorem alone_poll (hQ : (b.page (harnessPage c bundle entry)).cancels = true → Q)
    (h : Alone Q s call phase) :
    Alone Q (s.poll c b now call (.render bundle entry) fuel phase).2 call
        (s.poll c b now call (.render bundle entry) fuel phase).1 ∧
      (s.poll c b now call (.render bundle entry) fuel phase).1.stepsLeft ≤ phase.stepsLeft := by
  induction fuel generalizing s phase with
  | zero => exact ⟨h, Nat.le_refl _⟩
  | succ fuel ih =>
      unfold poll
      split
      · exact ⟨h, Nat.le_refl _⟩
      · rename_i hs
        exact ⟨alone_step hQ h hs, Nat.le_of_lt (stepsLeft_step hs)⟩
      · rename_i hs
        obtain ⟨ha, hl⟩ := ih (alone_step hQ h hs)
        exact ⟨ha, Nat.le_trans hl (Nat.le_of_lt (stepsLeft_step hs))⟩

/-- A call that can take a step is nearer to its end after its turn. -/
theorem stepsLeft_poll (hQ : (b.page (harnessPage c bundle entry)).cancels = true → Q)
    (h : Alone Q s call phase)
    (hs : s.step? c b now call (.render bundle entry) phase = some (phase', s')) :
    (s.poll c b now call (.render bundle entry) (fuel + 1) phase).1.stepsLeft < phase.stepsLeft := by
  unfold poll
  rw [hs]
  split
  · rename_i heq
    cases heq
  · rename_i heq
    cases heq
    exact stepsLeft_step hs
  · rename_i heq
    cases heq
    exact Nat.lt_of_le_of_lt (alone_poll hQ (alone_step hQ h hs)).2 (stepsLeft_step hs)

/-- Who runs alone knows when to go on: a call that waits for the slot has it. -/
theorem Alone.exists_wakeTime (h : Alone Q s call phase) (hd : phase.isDone = false) (now : Nat) :
    ∃ t, s.wakeTime? now call phase = some t := by
  cases phase with
  | queued =>
      obtain ⟨n, hn, hh⟩ := h.orderly.holder_of_waiting h.placed
      rw [h.others n hn] at hh
      exact ⟨now, if_pos hh⟩
  | done => cases hd
  | _ => exact ⟨_, rfl⟩

/-- What a turn of a rendering comes to. -/
inductive AfterTurn (Q : Prop) (left : Nat) (k : Call) : Call × Service → Prop where
  | ended {outcome : Outcome} {s : Service} : s.waiting = [] →
      AfterTurn Q left k ({ k with standing := .ended outcome }, s)
  | givenUp {s : Service} : s.waiting = [] → k.heedsCallOff = true → s.calledOff = true → Q →
      AfterTurn Q left k ({ k with standing := .givenUp }, s)
  | live {phase : Phase} {s : Service} : Alone Q s k.number phase → phase.isDone = false →
      phase.stepsLeft < left → AfterTurn Q left k ({ k with standing := .live phase }, s)

/-- **A turn of a rendering that can go on ends it or brings it nearer to its end**, unless it is called
off. -/
theorem afterTurn {k : Call} (hQ : (b.page (harnessPage c bundle entry)).cancels = true → Q)
    (hjob : k.job = .render bundle entry) (hlimit : k.limit = none) (hk : k.standing = .live phase)
    (h : Alone Q s k.number phase)
    (hs : s.step? c b now k.number (.render bundle entry) phase = some (phase', s')) :
    AfterTurn Q phase.stepsLeft k (k.turn c b now s) := by
  have ha : Alone Q (s.poll c b now k.number (.render bundle entry) maxSteps phase).2 k.number
      (s.poll c b now k.number (.render bundle entry) maxSteps phase).1 := (alone_poll hQ h).1
  have hl : (s.poll c b now k.number (.render bundle entry) maxSteps phase).1.stepsLeft <
      phase.stepsLeft := stepsLeft_poll hQ h hs
  obtain ⟨job, number, limit, heeds, standing⟩ := k
  cases hjob
  cases hlimit
  cases hk
  unfold Call.turn
  dsimp only
  split
  · rename_i outcome t hp
    simp only [hp] at ha
    exact .ended (waiting_of_placed ha.placed ha.others)
  · rename_i phase' t hnot hp
    simp only [hp] at ha hl
    have hd : phase'.isDone = false := by
      cases phase' with
      | done outcome => exact absurd rfl (hnot outcome)
      | _ => rfl
    split
    · rename_i hoff
      simp only [Option.any_none, Bool.false_or, Bool.and_eq_true] at hoff
      -- whoever is given up keeps no place
      have hdropped := settled_drop ha.orderly ha.placed (.ok none)
      have hwaiting : (t.drop number phase').waiting = [] := by
        refine waiting_of_placed hdropped.placed fun n hn => ?_
        by_cases he : n = number
        · exact he
        · exact ha.others n ((hdropped.spares.waiting n he).mp hn)
      exact .givenUp hwaiting hoff.1 ((drop_calledOff number t phase').trans hoff.2) (ha.cause hoff.2)
    · exact .live ha hd hl

/-! ## Rounds -/

/-- **A rendering that runs alone ends, or is called off for a cause.** -/
theorem run_alone {k : Call} (hQ : (b.page (harnessPage c bundle entry)).cancels = true → Q)
    (hjob : k.job = .render bundle entry) (hlimit : k.limit = none) (hk : k.standing = .live phase)
    (h : Alone Q s k.number phase) {before t : Nat} (ht : s.wakeTime? before k.number phase = some t)
    (hnow : t ≤ now) (hfuel : phase.stepsLeft < fuel) :
    ∃ k' s', s.run c b fuel now [k] = ([k'], s') ∧ s'.waiting = [] ∧
      ((∃ outcome, k'.standing = .ended outcome) ∨
        k'.standing = .givenUp ∧ k.heedsCallOff = true ∧ s'.calledOff = true ∧ Q) := by
  induction fuel generalizing now s phase k before t with
  | zero => exact absurd hfuel (Nat.not_lt_zero _)
  | succ fuel ih =>
      obtain ⟨phase', s', hs⟩ : ∃ phase' s',
          s.step? c b now k.number (.render bundle entry) phase = some (phase', s') :=
        step?_of_wakeTime? ht hnow
      have hturn := afterTurn hQ hjob hlimit hk h hs
      have hround : s.round c b now [k] = ([(k.turn c b now s).1], (k.turn c b now s).2) := rfl
      unfold run
      rw [hround]
      generalize hr : k.turn c b now s = r at hturn
      cases hturn with
      | ended hidle => exact ⟨_, _, rfl, hidle, .inl ⟨_, rfl⟩⟩
      | givenUp hidle hheeds hoff hq => exact ⟨_, _, rfl, hidle, .inr ⟨rfl, hheeds, hoff, hq⟩⟩
      | @live next s'' hnext hd hl =>
          -- the clock goes on to the time of its next step
          obtain ⟨wake, hwake⟩ : ∃ wake, s''.wakeTime? now k.number next = some wake :=
            hnext.exists_wakeTime hd now
          have hcall : Call.wakeTime? now s'' { k with standing := .live next } = some wake := by
            unfold Call.wakeTime?
            simp only [hwake, hlimit]
          simp only [List.filterMap_cons, List.filterMap_nil, hcall, List.min?_singleton]
          exact ih hjob hlimit rfl hnext hwake (Nat.le_max_right now wake)
            (Nat.lt_of_lt_of_le hl (Nat.le_of_lt_succ hfuel))

/-- The call for a rendering that a service starts with. -/
def rendering (s : Service) (bundle entry : String) (heeds : Bool) : Call :=
  { job := .render bundle entry, number := s.calls, heedsCallOff := heeds }

/-- The run of a rendering that is the only call. -/
def runRendering (c : PreviewConfig) (b : Browser) (bundle entry : String) (heeds : Bool) (s : Service) :
    List Call × Service :=
  run c b (maxSteps * 2) 0 [s.rendering bundle entry heeds] { s with calls := s.calls + 1 }

theorem runCalls_eq (c : PreviewConfig) (b : Browser) (bundle entry : String) (heeds : Bool) (s : Service) :
    s.runCalls c b [{ job := .render bundle entry, heedsCallOff := heeds }] =
      ((s.runRendering c b bundle entry heeds).1.map (·.standing),
        (s.runRendering c b bundle entry heeds).2) := rfl

/-- **When nobody has the slot or waits for it, a rendering comes to its end**, unless it heeds that the run
is called off, as it was before or as the page of the rendering does; and nobody has the slot or waits for
it then. -/
theorem runRendering_alone (c : PreviewConfig) (b : Browser) (bundle entry : String) (heeds : Bool)
    (hidle : s.waiting = []) : ∃ k s',
      s.runRendering c b bundle entry heeds = ([k], s') ∧ s'.waiting = [] ∧
      ((∃ outcome, k.standing = .ended outcome) ∨
        k.standing = .givenUp ∧ heeds = true ∧ s'.calledOff = true ∧
          (s.calledOff = true ∨ (b.page (harnessPage c bundle entry)).cancels = true)) := by
  have hqueue : s.queue = [] := (List.append_eq_nil_iff.mp hidle).2
  have hstart : waiting { s with calls := s.calls + 1 } = [] := hidle
  have h : Alone (s.calledOff = true ∨ (b.page (harnessPage c bundle entry)).cancels = true)
      { s with calls := s.calls + 1 } s.calls .asking :=
    { orderly := ⟨by rw [hstart]; exact .nil, fun _ => hqueue⟩
      placed := by show s.calls ∉ waiting _; rw [hstart]; exact List.not_mem_nil
      others := by rw [hstart]; exact fun n hn => absurd hn List.not_mem_nil
      cause := .inl }
  have hwake : wakeTime? 0 s.calls { s with calls := s.calls + 1 } .asking = some 0 := rfl
  have hfuel : Phase.asking.stepsLeft < maxSteps * 2 := by decide
  exact run_alone (k := s.rendering bundle entry heeds) .inr rfl rfl rfl h hwake (Nat.le_refl 0) hfuel

/-- A run of a pass is given up in its preview only for a cause. -/
theorem runCalls_alone (c : PreviewConfig) (b : Browser) (bundle entry : String)
    (hidle : s.waiting = []) : ∃ standing s',
      s.runCalls c b [{ job := .render bundle entry, heedsCallOff := true }] = ([standing], s') ∧
      s'.waiting = [] ∧
      ((∃ outcome, standing = .ended outcome) ∨
        standing = .givenUp ∧
          (s.calledOff = true ∨ (b.page (harnessPage c bundle entry)).cancels = true)) := by
  obtain ⟨k, s', hrun, hidle', hend⟩ := runRendering_alone c b bundle entry true hidle
  refine ⟨k.standing, s', ?_, hidle', hend.imp_right fun ⟨hup, _, _, hcause⟩ => ⟨hup, hcause⟩⟩
  rw [runCalls_eq, hrun]
  rfl

end Service

end AppMend.Preview
