import AppMend.Proofs.Preview.Alone
import AppMend.Proofs.Preview.Interleaving

/-!
# What a rendering comes to

When the browser starts, a rendering comes to what its own document and its own page say (`rendered`),
whatever other calls there are, whenever it has the slot and however long anything takes. A phase of it
promises as much (`Promised`), and every hop keeps the promise. So whenever such a rendering ends, that is its
outcome (`outcome_of_interleaving`).

A rendering that runs alone has one outcome: this one if a browser runs or starts, and the failure of the start
if none does (`outcomeOf`). Its phases lead there (`Foretold`). It is given up only if it heeds that the run is
called off, and then it was called off before, or its page was opened and called it off (`runCalls_outcome`).
-/

namespace AppMend.Preview

/-- What the rendering of an app comes to when the browser starts. -/
def rendered (c : PreviewConfig) (b : Browser) (bundle entry : String) : Outcome :=
  match b.writing with
  | .refused e | .failed e => .error (.harness e)
  | .done =>
    match b.openError with
    | some e => .error (.page e)
    | none =>
      let page := b.page (harnessPage c bundle entry)
      (Service.load c page).2.map fun inTime => some (inspect c entry inTime page)

/-- A phase of a rendering leads to what the rendering comes to. -/
def Promised (c : PreviewConfig) (b : Browser) (bundle entry : String) : Phase → Prop
  | .asking | .queued => True
  | .launching _ started => started = .ok ()
  | .writing => ∀ e, b.writing ≠ .refused e
  | .opening _ => b.writing = .done
  | .loading _ loaded guard =>
    let page := b.page (harnessPage c bundle entry)
    b.writing = .done ∧ b.openError = none ∧ loaded = (Service.load c page).2 ∧ guard = .holding page
  | .settling _ guard =>
    let page := b.page (harnessPage c bundle entry)
    b.writing = .done ∧ b.openError = none ∧ (Service.load c page).2 = .ok true ∧ guard = .holding page
  | .looking _ outcome guard =>
    outcome = rendered c b bundle entry ∧ guard = .holding (b.page (harnessPage c bundle entry))
  | .leaving _ outcome | .done outcome => outcome = rendered c b bundle entry
  | .retiring _ | .closing .. => False

variable {c : PreviewConfig} {b : Browser} {bundle entry : String}

/-- What a rendering comes to whose page was opened. -/
theorem rendered_of_page (hw : b.writing = .done) (ho : b.openError = none) :
    rendered c b bundle entry =
      (Service.load c (b.page (harnessPage c bundle entry))).2.map fun inTime =>
        some (inspect c entry inTime (b.page (harnessPage c bundle entry))) := by
  unfold rendered
  rw [hw, ho]

namespace Service

variable {now call : Nat} {s : Service} {phase : Phase} {r r' : Phase × Service}

/-- A browser that starts is there to be started. -/
theorem launch_of_start (hb : (start c b).2 = .ok ()) : b.launch ≠ .missing := by
  intro hm
  unfold start at hb
  rw [hm] at hb
  cases hb

/-- With a browser a rendering goes on to its document. -/
theorem promised_withBrowser (c : PreviewConfig) (b : Browser) (call : Nat) (bundle entry : String)
    (s : Service) :
    Promised c b bundle entry (s.withBrowser b call (.render bundle entry)).1 := by
  unfold withBrowser
  cases hw : b.writing with
  | refused e =>
      show Except.error _ = rendered c b bundle entry
      unfold rendered
      rw [hw]
  | done | failed e =>
      show ∀ e, b.writing ≠ .refused e
      simp [hw]

/-- **Every hop keeps the promise**, with a browser that runs or that starts. -/
theorem promised_hop (hb : r.2.running = false → (start c b).2 = .ok ())
    (h : Promised c b bundle entry r.1)
    (hop : Hop c b call (.render bundle entry) r r') : Promised c b bundle entry r'.1 := by
  cases hop with
  | given | enqueued => trivial
  | found | started => exact promised_withBrowser c b call bundle entry _
  | missing _ _ hrun hm => exact absurd hm (launch_of_start (hb hrun))
  | tried _ _ hrun => exact hb hrun
  | unstarted => cases h
  | idle _ hj | takenOut _ hj => cases hj
  | retired | shut => exact h.elim
  | unwritten _ hw =>
      show Except.error _ = rendered c b bundle entry
      unfold rendered
      rw [hw]
  | written _ hnot =>
      show b.writing = .done
      cases hw : b.writing with
      | done => rfl
      | refused e => exact absurd hw (h e)
      | failed e => exact absurd hw (hnot e)
  | unopened ho =>
      show Except.error _ = rendered c b bundle entry
      unfold rendered
      rw [show b.writing = .done from h, ho]
  | opened hjob ho =>
      cases hjob
      exact ⟨h, ho, rfl, rfl⟩
  | loaded =>
      obtain ⟨hw, ho, hl, hg⟩ := h
      exact ⟨hw, ho, hl.symm, hg⟩
  | late hjob =>
      cases hjob
      obtain ⟨hw, ho, hl, hg⟩ := h
      cases hg
      show _ = rendered c b bundle entry
      rw [rendered_of_page hw ho, ← hl]
      rfl
  | unloaded =>
      obtain ⟨hw, ho, hl, _⟩ := h
      show _ = rendered c b bundle entry
      rw [rendered_of_page hw ho, ← hl]
      rfl
  | settled hjob =>
      cases hjob
      obtain ⟨hw, ho, hl, hg⟩ := h
      cases hg
      refine ⟨?_, rfl⟩
      rw [rendered_of_page hw ho, hl]
      rfl
  | looked => exact h.1
  | left => exact h
  | pageless hneeded =>
      -- a page that is promised is held
      obtain ⟨_, rfl⟩ | ⟨_, rfl⟩ := hneeded
      · cases h.2.2.2
      · cases h.2.2.2
  | departed hclose =>
      obtain ⟨_, _, rfl, _⟩ | ⟨_, rfl⟩ := hclose
      · cases h.2.2.2
      · cases h.2

/-- **So does every step**, and in the end the rendering has come to what was promised. -/
theorem promised_step (hb : (start c b).2 = .ok ()) (h : Promised c b bundle entry phase)
    (hs : s.step? c b now call (.render bundle entry) phase = some r) :
    Promised c b bundle entry r.1 :=
  step_induction (P := fun phase _ => Promised c b bundle entry phase)
    (fun _ _ _ _ h hop => promised_hop (fun _ => hb) h hop) h hs

/-- Nobody is called off by a rendering whose page does not do it. -/
theorem calledOff_step (hpage : (b.page (harnessPage c bundle entry)).cancels = false)
    (h : s.calledOff = false) (hs : s.step? c b now call (.render bundle entry) phase = some r) :
    r.2.calledOff = false := by
  refine step_induction (P := fun _ s => s.calledOff = false) ?_ h hs
  intro phase s phase' s' h hop
  rw [Bool.eq_false_iff] at h hpage ⊢
  intro hoff
  exact (calledOff_of_hop hop hoff).elim h fun ho => hpage ho.2.2

end Service

variable {call : Nat} {running off : Bool} {s s' : Service} {r r' : Phase × Service}

/-! ## Among other calls -/

/-- A rendering that is not given up keeps its promise. -/
theorem promised_change {x y : Scene} (hb : (Service.start c b).2 = .ok ())
    (h : ∀ k ∈ x.1, ∀ bundle entry, k.job = .render bundle entry →
      k.standing = .givenUp ∨ Promised c b bundle entry k.standing.phase)
    (hc : Change c (· = b) x y) :
    ∀ k ∈ y.1, ∀ bundle entry, k.job = .render bundle entry →
      k.standing = .givenUp ∨ Promised c b bundle entry k.standing.phase := by
  intro g hg bundle entry hjob
  cases hc with
  | @hop before after k phase phase' s s' b' hb' hlive hop =>
      cases hb'
      rcases mem_focus.mp hg with rfl | hg
      · have hphase := h k (mem_focus.mpr (.inl rfl)) bundle entry hjob
        rw [hlive] at hphase
        rw [show k.job = .render bundle entry from hjob] at hop
        refine .inr ?_
        rw [Standing.phase_ofPhase]
        exact Service.promised_hop (fun _ => hb) (hphase.resolve_left (by simp)) hop
      · exact h g (mem_focus.mpr (.inr hg)) bundle entry hjob
  | giveUp =>
      rcases mem_focus.mp hg with rfl | hg
      · exact .inl rfl
      · exact h g (mem_focus.mpr (.inr hg)) bundle entry hjob
  | close => exact h g hg bundle entry hjob

/-- **Whatever other calls there are, a rendering that ends has its outcome**, if browsers start. -/
theorem outcome_of_interleaving {jobs : List Call} {x : Scene} {k : Call} {outcome : Outcome}
    (hb : (Service.start c b).2 = .ok ()) (h : Interleaving c (· = b) (outset jobs) x)
    (hk : k ∈ x.1) (hjob : k.job = .render bundle entry) (hend : k.standing = .ended outcome) :
    outcome = rendered c b bundle entry := by
  have hpromised := interleaving_induction
    (P := fun x => ∀ k ∈ x.1, ∀ bundle entry, k.job = .render bundle entry →
      k.standing = .givenUp ∨ Promised c b bundle entry k.standing.phase)
    (fun _ _ h hc => promised_change hb h hc) h
    (fun k hk _ _ _ => .inr (by rw [standing_outset hk]; trivial)) k hk bundle entry hjob
  rw [hend] at hpromised
  exact hpromised.resolve_left (by simp)

/-! ## Alone -/

/-- What a rendering comes to, by whether a browser runs when it starts. -/
def outcomeOf (running : Bool) (c : PreviewConfig) (b : Browser) (bundle entry : String) : Outcome :=
  if running then rendered c b bundle entry
  else
    match (Service.start c b).2 with
    | .ok () => rendered c b bundle entry
    | .error e => .error e

/-- A phase of a rendering for which no browser starts. -/
def Unstarted (e : PreviewFailure) (s : Service) : Phase → Prop
  | .asking | .queued => s.running = false
  | .launching _ started => started = .error e
  | .done outcome => outcome = .error e
  | _ => False

/-- A browser runs or starts. -/
def Launches (c : PreviewConfig) (b : Browser) (running : Bool) : Prop :=
  running = true ∨ (Service.start c b).2 = .ok ()

/-- A phase of a rendering, with the state that it shares, leads to the outcome of the rendering. -/
inductive Foretold (c : PreviewConfig) (b : Browser) (bundle entry : String) (running : Bool)
    (s : Service) (phase : Phase) : Prop where
  | started : Launches c b running → (running = true → s.running = true) →
      Promised c b bundle entry phase → Foretold c b bundle entry running s phase
  | unstarted {e : PreviewFailure} : running = false → (Service.start c b).2 = .error e →
      Unstarted e s phase → Foretold c b bundle entry running s phase

theorem foretold_asking (c : PreviewConfig) (b : Browser) (bundle entry : String) (s : Service) :
    Foretold c b bundle entry s.running s .asking := by
  cases hrun : s.running with
  | true => exact .started (.inl rfl) (fun _ => hrun) trivial
  | false =>
      cases hstart : (Service.start c b).2 with
      | ok => exact .started (.inr hstart) (fun h => by cases h) trivial
      | error e => exact .unstarted rfl hstart hrun

theorem outcomeOf_of_launches (h : Launches c b running) :
    outcomeOf running c b bundle entry = rendered c b bundle entry := by
  unfold outcomeOf
  rcases h with rfl | h
  · rfl
  · rw [h]
    split <;> rfl

theorem Foretold.outcome_eq {outcome : Outcome}
    (h : Foretold c b bundle entry running s (.done outcome)) :
    outcome = outcomeOf running c b bundle entry := by
  cases h with
  | started hlaunch _ hp =>
      rw [outcomeOf_of_launches hlaunch]
      exact hp
  | unstarted hrun hstart hu =>
      rw [outcomeOf, hrun, hstart]
      exact hu

/-- Of the state that is shared, only whether a browser runs makes a difference. -/
theorem Foretold.congr {phase : Phase} (h : Foretold c b bundle entry running s phase)
    (hrun : s'.running = s.running) : Foretold c b bundle entry running s' phase := by
  cases h with
  | started hlaunch hkept hp => exact .started hlaunch (fun h => hrun.trans (hkept h)) hp
  | unstarted hidle hstart hu =>
      refine .unstarted hidle hstart ?_
      cases phase with
      | asking | queued => exact hrun.trans hu
      | _ => exact hu

/-! ## Hops -/

/-- A rendering leaves a browser where it is. -/
theorem running_hop (hop : Service.Hop c b call (.render bundle entry) r r')
    (h : r.2.running = true) : r'.2.running = true := by
  have hpass (t : Service) : t.pass.running = t.running := by
    unfold Service.running
    rw [Service.pass_browser]
  have hwith (t : Service) : (t.withBrowser b call (.render bundle entry)).2.running = t.running := by
    unfold Service.withBrowser
    cases b.writing <;> rfl
  cases hop with
  | found => rw [hwith, hpass]; exact h
  | started => rw [hwith, hpass]; rfl
  | missing | unstarted => exact (hpass _).trans h
  | idle _ hj | takenOut _ hj => cases hj
  | _ => exact h

/-- **Every hop leads to the same outcome.** -/
theorem foretold_hop (h : Foretold c b bundle entry running r.2 r.1)
    (hop : Service.Hop c b call (.render bundle entry) r r') :
    Foretold c b bundle entry running r'.2 r'.1 := by
  cases h with
  | started hlaunch hrun hp =>
      have hb (hidle : r.2.running = false) : (Service.start c b).2 = .ok () := by
        refine hlaunch.resolve_left fun h => ?_
        rw [hrun h] at hidle
        cases hidle
      exact .started hlaunch (fun h => running_hop hop (hrun h)) (Service.promised_hop hb hp hop)
  | @unstarted e hrun hstart hu =>
      cases hop with
      | given | enqueued => exact .unstarted hrun hstart hu
      | found _ _ hfound => cases hfound.symm.trans hu
      | missing _ _ _ hm =>
          have he : (Service.start c b).2 = .error .noBrowser := by
            unfold Service.start
            rw [hm]
          cases he.symm.trans hstart
          exact .unstarted hrun hstart rfl
      | tried => exact .unstarted hrun hstart hstart
      | started => cases hu
      | unstarted =>
          cases hu
          exact .unstarted hrun hstart rfl
      | idle _ hj | takenOut _ hj => cases hj
      | pageless hn => obtain ⟨_, rfl⟩ | ⟨_, rfl⟩ := hn <;> exact hu.elim
      | departed hc => obtain ⟨_, _, rfl, _⟩ | ⟨_, rfl⟩ := hc <;> exact hu.elim
      | _ => exact hu.elim

/-! ## Runs -/

/-- A rendering gets to a page that calls off its run. -/
def CallsOff (c : PreviewConfig) (b : Browser) (bundle entry : String) (running : Bool) : Prop :=
  Launches c b running ∧ b.writing = .done ∧ b.openError = none ∧
    (b.page (harnessPage c bundle entry)).cancels = true

/-- **Only a page that is opened calls a rendering off.** -/
theorem callsOff_of_hop (h : Foretold c b bundle entry running r.2 r.1)
    (hop : Service.Hop c b call (.render bundle entry) r r') (hoff : r'.2.calledOff = true) :
    r.2.calledOff = true ∨ CallsOff c b bundle entry running := by
  refine (Service.calledOff_of_hop hop hoff).imp_right fun ⟨⟨deadline, hphase⟩, ho, hcancels⟩ => ?_
  rw [hphase] at h
  cases h with
  | started hlaunch _ hw => exact ⟨hlaunch, hw, ho, hcancels⟩
  | unstarted _ _ hu => exact hu.elim

/-- What stays true when a rendering is the only call. -/
structure Lone (c : PreviewConfig) (b : Browser) (bundle entry : String) (running off : Bool)
    (x : Scene) : Prop where
  alone : ∃ k, x.1 = [k]
  job_eq : ∀ k ∈ x.1, k.job = .render bundle entry
  foretold : ∀ k ∈ x.1, k.standing = .givenUp ∨
    Foretold c b bundle entry running x.2 k.standing.phase
  cause : x.2.calledOff = true → off = true ∨ CallsOff c b bundle entry running

theorem lone_start (c : PreviewConfig) (b : Browser) (bundle entry : String) (heeds : Bool)
    (s : Service) : Lone c b bundle entry s.running s.calledOff
      ([s.rendering bundle entry heeds], { s with calls := s.calls + 1 }) where
  alone := ⟨_, rfl⟩
  job_eq := List.forall_mem_singleton.mpr rfl
  foretold := List.forall_mem_singleton.mpr (.inr ((foretold_asking c b bundle entry s).congr rfl))
  cause := .inl

/-- **Every change leads to the same outcome.** -/
theorem lone_change {x y : Scene} (h : Lone c b bundle entry running off x)
    (hc : Change c (· = b) x y) : Lone c b bundle entry running off y := by
  obtain ⟨⟨k, hk⟩, hjob, hforetold, hcause⟩ := h
  cases hc with
  | @hop before after k' phase phase' s s' b' hb hlive hop =>
      cases hb
      obtain ⟨rfl, rfl, rfl⟩ : before = [] ∧ k' = k ∧ after = [] := by
        simpa [List.append_eq_cons_iff] using hk
      have hjob : k'.job = .render bundle entry := hjob k' List.mem_cons_self
      have hphase : Foretold c b bundle entry running s phase := by
        have := hforetold k' List.mem_cons_self
        rw [hlive] at this
        exact this.resolve_left (by simp)
      rw [hjob] at hop
      refine ⟨⟨_, rfl⟩, List.forall_mem_singleton.mpr hjob, List.forall_mem_singleton.mpr (.inr ?_),
        fun hoff => (callsOff_of_hop hphase hop hoff).elim hcause .inr⟩
      rw [Standing.phase_ofPhase]
      exact foretold_hop hphase hop
  | @giveUp before after k' phase s hlive hsuspended =>
      obtain ⟨rfl, rfl, rfl⟩ : before = [] ∧ k' = k ∧ after = [] := by
        simpa [List.append_eq_cons_iff] using hk
      refine ⟨⟨_, rfl⟩, List.forall_mem_singleton.mpr (hjob k' List.mem_cons_self),
        List.forall_mem_singleton.mpr (.inl rfl), fun hoff => hcause ?_⟩
      rwa [Service.abandon_calledOff] at hoff
  | @close ks s n hn =>
      have hrun : (s.closeLeft n).running = s.running := by
        unfold Service.closeLeft
        split <;> rfl
      refine ⟨⟨k, hk⟩, hjob, fun g hg => (hforetold g hg).imp_right fun h => h.congr hrun,
        fun hoff => hcause ?_⟩
      rwa [Service.closeLeft_calledOff] at hoff

/-- **A rendering that runs alone comes to its outcome**, unless it heeds that the run is called off; then it
was called off before, or its page was opened and called it off. -/
theorem runCalls_outcome (c : PreviewConfig) (b : Browser) (bundle entry : String) (heeds : Bool)
    (hidle : s.waiting = []) : ∃ standing s',
      s.runCalls c b [{ job := .render bundle entry, heedsCallOff := heeds }] = ([standing], s') ∧
      (standing = .ended (outcomeOf s.running c b bundle entry) ∨
        standing = .givenUp ∧ heeds = true ∧
          (s.calledOff = true ∨ CallsOff c b bundle entry s.running)) := by
  obtain ⟨k, s', hrun, -, hend⟩ := Service.runRendering_alone c b bundle entry heeds hidle
  have hproper : ∀ k ∈ [s.rendering bundle entry heeds], k.Proper :=
    List.forall_mem_singleton.mpr (.inl ⟨.asking, rfl⟩)
  have hinterleaving : Interleaving c (· = b)
      ([s.rendering bundle entry heeds], { s with calls := s.calls + 1 }) ([k], s') := by
    rw [← hrun]
    exact interleaving_run rfl hproper
  have hlone : Lone c b bundle entry s.running s.calledOff ([k], s') :=
    interleaving_induction (fun _ _ => lone_change) hinterleaving (lone_start c b bundle entry heeds s)
  refine ⟨k.standing, s', by rw [Service.runCalls_eq, hrun]; rfl, ?_⟩
  rcases hend with ⟨outcome, hend⟩ | ⟨hup, hheeds, hoff, -⟩
  · have hforetold := hlone.foretold k List.mem_cons_self
    rw [hend] at hforetold ⊢
    have he : Foretold c b bundle entry s.running s' (.done outcome) := hforetold.resolve_left (by simp)
    exact .inl (by rw [he.outcome_eq])
  · exact .inr ⟨hup, hheeds, hlone.cause hoff⟩

end AppMend.Preview
