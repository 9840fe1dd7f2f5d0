import AppMend.Proofs.Heal.Turns

/-!
# What the heals of a batch come to

Batches are run one after another, each until its heals are ended. A session is turned away only if a
heal of it is under way (`Welcome`), which is not so when every session is asked for once. Every other
heal ends with an outcome of its session, so this is what each result of a batch is.
-/

namespace AppMend

namespace Heals

variable {w : HealWorld} {now : Nat} {x x' : HealShared} {h h' : Heal} {before after hs : List Heal}
  {qs : List RegenerationRequest}

/-! ## Who is turned away -/

/-- No other session becomes active by a step of a heal. -/
theorem mem_active_of_step {name other : String} {a a' : Activity}
    (hs : Heal.Step w now name x a a' x') (hne : other ≠ name) (hm : other ∈ x'.registry.active) :
    other ∈ x.registry.active := by
  have after (y : HealShared) (session : String) (r : SessionStep)
      (hm : other ∈ (Heal.after y session r).2.registry.active) : other ∈ y.registry.active := by
    cases r with
    | ok => exact hm
    | error => exact List.mem_of_mem_erase hm
  cases hs with
  | turnedAway | toRender | asked | previewed => exact hm
  | leased hl =>
      unfold Registry.lease at hl
      split at hl
      · cases hl
      · cases hl
        rcases List.mem_cons.mp hm with he | hm
        · exact absurd he hne
        · exact hm
  | finished => exact List.mem_of_mem_erase hm
  | passCalledOff | passed | rendered | answerCalledOff | answered => exact after x _ _ hm
  | askedCalledOff | previewCalledOff =>
      have := after _ _ _ hm
      exact this

/-- A heal that took a step has begun. -/
theorem ne_unstarted_of_step {name : String} {a a' : Activity} (hs : Heal.Step w now name x a a' x') :
    a' ≠ .unstarted := by
  have after (y : HealShared) (session : String) (r : SessionStep) :
      (Heal.after y session r).1 ≠ .unstarted := by
    cases r <;> simp [Heal.after]
  cases hs with
  | turnedAway | leased | finished | toRender | asked | previewed => simp
  | passCalledOff | passed | rendered | answerCalledOff | answered => exact after _ _ _
  | askedCalledOff | previewCalledOff => exact after _ _ _

/-- Only a heal of an active session is turned away. -/
theorem mem_active_of_busy {name : String} {a a' : Activity} {e : SessionBusy}
    (hs : Heal.Step w now name x a a' x') (ha : a' = .ended (.error (.busy e))) :
    a = .unstarted ∧ name ∈ x.registry.active := by
  have after (y : HealShared) (session : String) (r : SessionStep)
      (ha : (Heal.after y session r).1 = .ended (.error (.busy e))) : False := by
    cases r <;> cases ha
  cases hs with
  | turnedAway he =>
      refine ⟨rfl, ?_⟩
      unfold Registry.lease at he
      split at he
      · assumption
      · cases he
  | leased | finished | toRender | asked | previewed => cases ha
  | passCalledOff | passed | rendered | answerCalledOff | answered => exact (after x _ _ ha).elim
  | askedCalledOff | previewCalledOff => exact (after _ _ _ ha).elim

/-- The heals are of different sessions, none of which is active before its heal begins. -/
structure Welcome (x : HealShared) (hs : List Heal) : Prop where
  distinct : (hs.map (·.session)).Nodup
  free : ∀ h ∈ hs, h.activity = .unstarted → h.session ∉ x.registry.active
  unbusy : ∀ h ∈ hs, ∀ e, h.activity ≠ .ended (.error (.busy e))

theorem welcome_step (h0 : Welcome x (before ++ h :: after)) (hs : h.step? w now x = some (h', x')) :
    Welcome x' (before ++ h' :: after) := by
  obtain ⟨hn, hstep⟩ := Heal.step_of_step? hs
  have hmid : h ∈ before ++ h :: after := by simp
  have hdistinct := h0.distinct
  -- all but the heal that takes the step
  have others (g : Heal) (hg : g ∈ before ++ h' :: after) :
      g = h' ∨ g ∈ before ++ h :: after ∧ g.session ≠ h.session := by
    rw [List.map_append, List.map_cons, List.nodup_append] at hdistinct
    rcases List.mem_append.mp hg with hg | hg
    · refine .inr ⟨by simp [hg], ?_⟩
      exact hdistinct.2.2 _ (List.mem_map_of_mem hg) _ List.mem_cons_self
    · rcases List.mem_cons.mp hg with hg | hg
      · exact .inl hg
      · refine .inr ⟨by simp [hg], ?_⟩
        exact fun he => (List.nodup_cons.mp hdistinct.2.1).1 (he ▸ List.mem_map_of_mem hg)
  refine ⟨?_, ?_, ?_⟩
  · rw [List.map_append, List.map_cons] at hdistinct ⊢
    rw [hn]
    exact hdistinct
  · intro g hg hu
    rcases others g hg with rfl | ⟨hg, hne⟩
    · exact absurd hu (ne_unstarted_of_step hstep)
    · exact fun hm => h0.free g hg hu (mem_active_of_step hstep hne hm)
  · intro g hg e he
    rcases others g hg with rfl | ⟨hg, _⟩
    · obtain ⟨hu, hm⟩ := mem_active_of_busy hstep he
      exact h0.free h hmid hu hm
    · exact h0.unbusy g hg e he

/-! ## What heals come to -/

/-- What a heal has as a result. -/
def result? (h : Heal) : Option (Except HealFailure Session) :=
  match h.activity with
  | .ended r => some r
  | _ => none

theorem map_session (sessions : List String) :
    (sessions.map fun session => ({ session } : Heal)).map (·.session) = sessions := by
  rw [List.map_map]
  exact List.map_id' sessions

/-- A batch has turns enough for the steps of its heals. -/
theorem stepsLeft_start_le (w : HealWorld) (sessions : List String) :
    stepsLeft w (sessions.map fun session => { session }) ≤ maxSteps w * (sessions.length + 1) := by
  induction sessions with
  | nil => exact Nat.zero_le _
  | cons session sessions ih =>
      have hone : (Activity.unstarted).stepsLeft w ≤ maxSteps w := by
        show 11 * _ + 2 ≤ _
        unfold maxSteps
        omega
      rw [List.map_cons, stepsLeft, List.length_cons, Nat.mul_succ, Nat.add_comm]
      exact Nat.add_le_add ih hone

/-- The heals of a batch when it is over. -/
def lastOf (w : HealWorld) (x : HealShared) (sessions : List String) : List Heal × HealShared :=
  run w (maxSteps w * (sessions.length + 1)) 0 x (sessions.map fun session => { session })

theorem runBatch_eq (w : HealWorld) (x : HealShared) (sessions : List String) :
    runBatch w x sessions = ((lastOf w x sessions).1.map result?, (lastOf w x sessions).2) := rfl

/-- A heal is of the same session from its beginning to its end. -/
theorem map_session_lastOf (w : HealWorld) (x : HealShared) (sessions : List String) :
    (lastOf w x sessions).1.map (·.session) = sessions := by
  refine run_induction (P := fun _ hs => hs.map (·.session) = sessions) ?_ _ 0 (map_session sessions)
  intro now x before h after h' x' h0 hs
  rw [← h0, List.map_append, List.map_append, List.map_cons, List.map_cons,
    (Heal.step_of_step? hs).1]

theorem together_lastOf (w : HealWorld) (x : HealShared) (sessions : List String) :
    Together w x (lastOf w x sessions).2 (lastOf w x sessions).1 :=
  run_induction (fun _ _ _ _ _ _ _ => together_step) _ 0 ⟨[], followed_start w sessions, .refl _⟩

theorem attended_lastOf (w : HealWorld) {sessions : List String} (hw : x.service.waiting = []) :
    Attended (lastOf w x sessions).2.service (lastOf w x sessions).1 :=
  run_induction (P := fun x hs => Attended x.service hs) (fun _ _ _ _ _ _ _ => attended_step) _ 0
    (attended_start hw sessions)

/-- All heals of a batch are ended when it is over, also those that were turned away. -/
theorem ended_lastOf {sessions : List String} (hw : x.service.waiting = [])
    (hm : h ∈ (lastOf w x sessions).1) : ∃ r, h.activity = .ended r := by
  refine ended_run ⟨[], followed_start w sessions, .refl _⟩ (attended_start hw sessions) ?_
    (stepsLeft_start_le w sessions) h hm
  cases sessions with
  | nil => exact .inl rfl
  | cons session sessions =>
      refine .inr ⟨{ session }, List.mem_cons_self, ?_⟩
      have hwake : Heal.wakeTime? 0 x { session } = some 0 := rfl
      exact step?_of_wakeTime? hwake (Nat.le_refl 0)

/-- Nobody waits for the browser between two batches. -/
theorem waiting_runBatches (w : HealWorld) (batches : List (List String))
    (hw : x.service.waiting = []) : (runBatches w x batches).2.service.waiting = [] := by
  induction batches generalizing x with
  | nil => exact hw
  | cons sessions batches ih =>
      refine ih (x := (runBatch w x sessions).2) (List.eq_nil_iff_forall_not_mem.mpr fun n hn => ?_)
      -- who waits is a call of a heal, and heals that are ended have no call
      obtain ⟨h, hm, hc⟩ := (attended_lastOf w hw).heard n hn
      obtain ⟨r, hr⟩ := ended_lastOf hw hm
      rw [call?, hr] at hc
      cases hc

/-- **Every result of a heal is an outcome of its session**, unless the heal was turned away. -/
theorem outcome_of_mem_runBatches {batches : List (List String)} {r : Except HealFailure Session}
    (hr : some r ∈ (runBatches w x batches).1) :
    (∃ e, r = .error (.busy e)) ∨
      ∃ name es rs s, r = .ok s ∧ Session.Outcome w.config name w.prompt w.files es rs s := by
  induction batches generalizing x with
  | nil => cases hr
  | cons sessions batches ih =>
      have he : (runBatches w x (sessions :: batches)).1 =
          (runBatch w x sessions).1 ++ (runBatches w (runBatch w x sessions).2 batches).1 := rfl
      rw [he] at hr
      rcases List.mem_append.mp hr with hr | hr
      · rw [runBatch_eq] at hr
        obtain ⟨⟨name, a⟩, hm, hres⟩ := List.mem_map.mp hr
        obtain ⟨qs, hf, _⟩ := together_lastOf w x sessions
        obtain ⟨es, rs, hfollows⟩ := follows_of_followed hf hm
        unfold result? at hres
        cases hfollows with
        | unstarted | ready | rendering | awaiting => cases hres
        | turnedAway => exact .inl ⟨_, (Option.some.inj hres).symm⟩
        | ended ho => exact .inr ⟨name, es, rs, _, (Option.some.inj hres).symm, ho⟩
      · exact ih hr

/-- A heal that ended with a session, with the events it told and the requests it made. -/
structure Ended where
  name : String
  events : List HealEvent
  requests : List RegenerationRequest
  session : Session

theorem ended_of_followed (hf : Followed w hs qs)
    (he : ∀ h ∈ hs, ∃ s, h.activity = .ended (.ok s)) :
    ∃ ends : List Ended, ends.map (·.name) = hs.map (·.session) ∧
      hs.map result? = ends.map (fun e => some (.ok e.session)) ∧ ends.flatMap (·.requests) = qs ∧
      ∀ e ∈ ends, Session.Outcome w.config e.name w.prompt w.files e.events e.requests e.session := by
  induction hf with
  | nil => exact ⟨[], rfl, rfl, rfl, fun e hm => (by cases hm)⟩
  | @cons h hs es rs qs hf _ ih =>
      obtain ⟨ends, hnames, hresults, hreq, hout⟩ := ih fun g hg => he g (List.mem_cons_of_mem _ hg)
      obtain ⟨s, hs⟩ := he h List.mem_cons_self
      rw [hs] at hf
      cases hf with
      | ended ho =>
          refine ⟨⟨h.session, es, rs, s⟩ :: ends, ?_, ?_, ?_, ?_⟩
          · rw [List.map_cons, List.map_cons, hnames]
          · rw [List.map_cons, List.map_cons, hresults, result?, hs]
          · rw [List.flatMap_cons, hreq]
          · intro e hm
            rcases List.mem_cons.mp hm with rfl | hm
            · exact ho
            · exact hout e hm

/-- **Heals of different sessions, none of them active, all end with an outcome**, and the requests
that were made are theirs. -/
theorem ended_runBatch {sessions : List String} (hw : x.service.waiting = [])
    (hd : sessions.Nodup) (hfree : ∀ name ∈ sessions, x.registry.isActive name = false) :
    ∃ ends : List Ended, ends.map (·.name) = sessions ∧
      (runBatch w x sessions).1 = ends.map (fun e => some (.ok e.session)) ∧
      (runBatch w x sessions).2.requests.Perm (ends.flatMap (·.requests) ++ x.requests) ∧
      ∀ e ∈ ends, Session.Outcome w.config e.name w.prompt w.files e.events e.requests e.session := by
  have hstart : Welcome x (sessions.map fun session => { session }) := by
    refine ⟨by rw [map_session]; exact hd, ?_, ?_⟩
    · intro h hm _
      obtain ⟨name, hn, rfl⟩ := List.mem_map.mp hm
      have := hfree name hn
      simpa [Registry.isActive] using this
    · intro h hm e he
      obtain ⟨name, _, rfl⟩ := List.mem_map.mp hm
      cases he
  have hwelcome : Welcome (lastOf w x sessions).2 (lastOf w x sessions).1 :=
    run_induction (fun _ _ _ _ _ _ _ => welcome_step) _ 0 hstart
  obtain ⟨qs, hf, hperm⟩ := together_lastOf w x sessions
  -- all heals end, and none of them was turned away, for none was active
  have hok : ∀ h ∈ (lastOf w x sessions).1, ∃ s, h.activity = .ended (.ok s) := by
    intro h hm
    obtain ⟨r, hr⟩ := ended_lastOf hw hm
    obtain ⟨es, rs, hfollows⟩ := follows_of_followed hf hm
    rw [hr] at hfollows
    cases hfollows with
    | turnedAway => exact absurd hr (hwelcome.unbusy h hm _)
    | ended => exact ⟨_, hr⟩
  obtain ⟨ends, hends, hresults, hreq, hout⟩ := ended_of_followed hf hok
  refine ⟨ends, hends.trans (map_session_lastOf w x sessions), hresults, ?_, hout⟩
  rw [hreq]
  exact hperm

end Heals

end AppMend
