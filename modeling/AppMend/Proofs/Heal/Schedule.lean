import AppMend.Heal.Schedule
import AppMend.Proofs.Heal.Run
import AppMend.Proofs.Preview.Slot

/-!
# A heal follows its session

A heal shares a browser, a registry and a generator with others, and it is called off with them. All
that can happen in one step of it is listed in `Heal.Step`, with the time and the shared state as they
are at that moment; nothing is said there of how heals take turns.

`Heal.Follows` ties what a heal is doing to a run of its session, and every step of the heal keeps it
(`follows_step`): either the session takes a step, or the heal does something on the way to the next
one. In particular a heal is never ended by an illegal step of its session. A step uses up a part of
`Activity.stepsLeft`, so no heal goes on for ever.
-/

namespace AppMend

open Preview (Phase Service)

/-- How many steps a heal takes at most until it is ended. A step of its session takes up to eleven
of its own, ten of which belong to a preview. -/
def Activity.stepsLeft (w : HealWorld) : Activity → Nat
  | .unstarted => 11 * (2 * w.config.heal.maxAttempts + 1) + 2
  | .ready s => 11 * s.stepsLeft + 1
  | .rendering s _ _ _ _ phase => 11 * (s.stepsLeft - 1) + phase.stepsLeft + 2
  | .awaiting s .. => 11 * (s.stepsLeft - 1) + 2
  | .ended _ => 0

namespace Heal

variable {w : HealWorld} {now : Nat} {x x' : HealShared} {name : String} {a a' : Activity}

/-! ## What can happen in one step -/

/-- One step of a heal of a session: what it does after it, and what is shared then. -/
inductive Step (w : HealWorld) (now : Nat) (name : String) (x : HealShared) :
    Activity → Activity → HealShared → Prop where
  | turnedAway {e : SessionBusy} : x.registry.lease name = .error e →
      Step w now name x .unstarted (.ended (.error (.busy e))) x
  | leased {registry : Registry} : x.registry.lease name = .ok registry →
      Step w now name x .unstarted (.ready (Session.begin w.config name w.prompt w.files))
        { x with registry }
  | finished {s : Session} : s.phase = .over →
      Step w now name x (.ready s) (.ended (.ok s))
        { x with registry := x.registry.release s.name }
  | passCalledOff {s : Session} {stage : Stage} : s.phase = .checking →
      Pass.upToPreview w.config (fun _ => x.calledOff) s.state.attemptNumber s.working = .error stage →
      Step w now name x (.ready s) (after x s.name (s.onCalledOff stage.name)).1
        (after x s.name (s.onCalledOff stage.name)).2
  | passed {s : Session} {p : Pass} : s.phase = .checking →
      Pass.upToPreview w.config (fun _ => x.calledOff) s.state.attemptNumber s.working
        = .ok (.over p) →
      Step w now name x (.ready s) (after x s.name (s.onPass p)).1 (after x s.name (s.onPass p)).2
  | toRender {s : Session} {p : Pass} {code entry : String} : s.phase = .checking →
      Pass.upToPreview w.config (fun _ => x.calledOff) s.state.attemptNumber s.working
        = .ok (.toRender p code entry) →
      Step w now name x (.ready s) (.rendering s p code entry x.service.calls .asking)
        { x with service.calls := x.service.calls + 1 }
  | asked {s : Session} {d : Diagnosis} : s.phase = .regenerating d →
      Step w now name x (.ready s)
        (.awaiting s d (answerAt w now (w.reply x.requests.length (s.request d))).1
          (answerAt w now (w.reply x.requests.length (s.request d))).2)
        { x with requests := s.request d :: x.requests }
  /-- The generator calls everything off. -/
  | askedCalledOff {s : Session} {d : Diagnosis} : s.phase = .regenerating d →
      (w.reply x.requests.length (s.request d)).callsOff = true →
      Step w now name x (.ready s)
        (after { x with requests := s.request d :: x.requests, stopped := true } s.name
          (s.onCalledOff "regeneration")).1
        (after { x with requests := s.request d :: x.requests, stopped := true } s.name
          (s.onCalledOff "regeneration")).2
  | rendered {s : Session} {p : Pass} {code entry : String} {call : Nat}
      {outcome : Preview.Outcome} :
      Step w now name x (.rendering s p code entry call (.done outcome))
        (after x s.name (s.onPass (p.finish entry (Preview.verdict outcome)))).1
        (after x s.name (s.onPass (p.finish entry (Preview.verdict outcome)))).2
  | previewCalledOff {s : Session} {p : Pass} {code entry : String} {call : Nat} {phase : Phase} :
      x.calledOff = true →
      Step w now name x (.rendering s p code entry call phase)
        (after { x with service := x.service.drop call phase } s.name
          (s.onCalledOff Stage.preview.name)).1
        (after { x with service := x.service.drop call phase } s.name
          (s.onCalledOff Stage.preview.name)).2
  | previewed {s : Session} {p : Pass} {code entry : String} {call : Nat} {phase phase' : Phase}
      {service : Service} :
      x.service.step? w.config.preview w.browser now call (.render code entry) phase
        = some (phase', service) →
      Step w now name x (.rendering s p code entry call phase)
        (.rendering s p code entry call phase') { x with service }
  | answerCalledOff {s : Session} {d : Diagnosis} {deadline : Nat} {answer : Generated} :
      x.calledOff = true →
      Step w now name x (.awaiting s d deadline answer)
        (after x s.name (s.onCalledOff "regeneration")).1
        (after x s.name (s.onCalledOff "regeneration")).2
  | answered {s : Session} {d : Diagnosis} {deadline : Nat} {answer : Generated} :
      Step w now name x (.awaiting s d deadline answer) (after x s.name (s.onGenerated d answer)).1
        (after x s.name (s.onGenerated d answer)).2

/-- What a session says next is one of these. -/
theorem step_of_proceed (s : Session) :
    Step w now name x (.ready s) (proceed w now x s).1 (proceed w now x s).2 := by
  unfold proceed
  cases hp : s.phase with
  | «over» => exact .finished hp
  | checking =>
      dsimp only
      cases hu : Pass.upToPreview w.config (fun _ => x.calledOff) s.state.attemptNumber s.working with
      | error stage => exact .passCalledOff hp hu
      | ok r =>
          cases r with
          | «over» p => exact .passed hp hu
          | toRender p code entry => exact .toRender hp hu
  | regenerating d =>
      dsimp only
      split
      · rename_i hoff
        exact .askedCalledOff hp hoff
      · exact .asked hp

/-- A heal at its preview takes a step of its call, unless the call is done or all is called off. -/
theorem step?_rendering {s : Session} {p : Pass} {code entry : String} {call : Nat} {phase : Phase}
    (hd : phase.isDone = false) :
    step? w now x ⟨name, .rendering s p code entry call phase⟩ =
      if x.calledOff then
        some (⟨name, (after { x with service := x.service.drop call phase } s.name
            (s.onCalledOff Stage.preview.name)).1⟩,
          (after { x with service := x.service.drop call phase } s.name
            (s.onCalledOff Stage.preview.name)).2)
      else
        (x.service.step? w.config.preview w.browser now call (.render code entry) phase).map
          fun r => (⟨name, .rendering s p code entry call r.1⟩, { x with service := r.2 }) := by
  cases phase with
  | done => cases hd
  | _ =>
      unfold step?
      dsimp only
      rw [Option.map_eq_bind]
      rfl

/-- **Every step that a heal takes is one of these.** -/
theorem step_of_step? {h h' : Heal} (hs : h.step? w now x = some (h', x')) :
    h'.session = h.session ∧ Step w now h.session x h.activity h'.activity x' := by
  obtain ⟨name, a⟩ := h
  cases a with
  | unstarted =>
      unfold step? at hs
      dsimp only at hs
      split at hs
      · rename_i e he
        obtain ⟨rfl, rfl⟩ := Prod.mk.inj (Option.some.inj hs)
        exact ⟨rfl, .turnedAway he⟩
      · rename_i registry hr
        obtain ⟨rfl, rfl⟩ := Prod.mk.inj (Option.some.inj hs)
        exact ⟨rfl, .leased hr⟩
  | ready s =>
      obtain ⟨rfl, rfl⟩ := Prod.mk.inj (Option.some.inj hs)
      exact ⟨rfl, step_of_proceed s⟩
  -- the preview answered, or it goes on, or the session is called off while it does
  | rendering s p code entry call phase =>
      cases hd : phase.isDone with
      | true =>
          cases phase with
          | done outcome =>
              obtain ⟨rfl, rfl⟩ := Prod.mk.inj (Option.some.inj hs)
              exact ⟨rfl, .rendered⟩
          | _ => cases hd
      | false =>
          rw [step?_rendering hd] at hs
          split at hs
          · rename_i hoff
            obtain ⟨rfl, rfl⟩ := Prod.mk.inj (Option.some.inj hs)
            exact ⟨rfl, .previewCalledOff hoff⟩
          · obtain ⟨⟨phase', service⟩, hstep, hs⟩ := Option.map_eq_some_iff.mp hs
            obtain ⟨rfl, rfl⟩ := Prod.mk.inj hs
            exact ⟨rfl, .previewed hstep⟩
  | awaiting s d deadline answer =>
      unfold step? at hs
      dsimp only at hs
      split at hs
      · rename_i hoff
        obtain ⟨rfl, rfl⟩ := Prod.mk.inj (Option.some.inj hs)
        exact ⟨rfl, .answerCalledOff hoff⟩
      split at hs
      · obtain ⟨rfl, rfl⟩ := Prod.mk.inj (Option.some.inj hs)
        exact ⟨rfl, .answered⟩
      · cases hs
  | ended => cases hs

/-! ## A heal and the run of its session -/

/-- The session of a heal, as it begins. -/
def first (w : HealWorld) (name : String) : Session := .begin w.config name w.prompt w.files

/-- What a heal is doing, seen from the run of its session: the events told and the requests made are
those of the run. -/
inductive Follows (w : HealWorld) (name : String) (es : List HealEvent)
    (rs : List RegenerationRequest) : Activity → Prop where
  | unstarted : es = [] → rs = [] → Follows w name es rs .unstarted
  | turnedAway {e : SessionBusy} : es = [] → rs = [] →
      Follows w name es rs (.ended (.error (.busy e)))
  | ready {n : Nat} {s : Session} : Session.Run w.config (first w name) n es rs s →
      Follows w name es rs (.ready s)
  | rendering {n : Nat} {s : Session} {off : Stage → Bool} {p : Pass} {code entry : String}
      {call : Nat} {phase : Phase} : Session.Run w.config (first w name) n es rs s →
      s.phase = .checking →
      Pass.upToPreview w.config off s.state.attemptNumber s.working = .ok (.toRender p code entry) →
      Follows w name es rs (.rendering s p code entry call phase)
  /-- The session has not taken the step yet, but its request was made. -/
  | awaiting {n : Nat} {s : Session} {d : Diagnosis} {before : List RegenerationRequest}
      {deadline : Nat} {answer : Generated} : Session.Run w.config (first w name) n es before s →
      s.phase = .regenerating d → rs = before ++ [s.request d] →
      Follows w name es rs (.awaiting s d deadline answer)
  | ended {s : Session} : Session.Outcome w.config name w.prompt w.files es rs s →
      Follows w name es rs (.ended (.ok s))

section Follows

variable {es : List HealEvent} {rs : List RegenerationRequest} {n : Nat} {s : Session}

theorem told_publish (x : HealShared) (es : List HealEvent) :
    (x.publish es).bus.told = es.reverse ++ x.bus.told := by
  have told (es : List HealEvent) (b : EventBus) :
      (es.foldl EventBus.publish b).told = es.reverse ++ b.told := by
    induction es generalizing b with
    | nil => rfl
    | cons e es ih => simp [List.foldl_cons, ih, EventBus.publish]
  exact told es x.bus

/-- What comes of a step of a heal: it follows on, what it told and asked for is shared, and it has
less before it than it had. -/
def Proceeds (w : HealWorld) (name : String) (es : List HealEvent) (rs : List RegenerationRequest)
    (x x' : HealShared) (a' : Activity) (left : Nat) : Prop :=
  ∃ es' rs', Follows w name (es ++ es') (rs ++ rs') a' ∧
    x'.bus.told = es'.reverse ++ x.bus.told ∧ x'.requests = rs'.reverse ++ x.requests ∧
    a'.stepsLeft w < left

/-- A heal goes on in the same run of its session. -/
theorem proceeds_aside {left : Nat} (h : Follows w name es rs a') (hb : x'.bus = x.bus)
    (hr : x'.requests = x.requests) (hl : a'.stepsLeft w < left) :
    Proceeds w name es rs x x' a' left := by
  refine ⟨[], [], ?_, ?_, hr, hl⟩
  · rw [List.append_nil, List.append_nil]; exact h
  · rw [hb]; rfl

/-- A heal goes on after a step of its session. -/
theorem proceeds_after {es' : List HealEvent} {before rs' : List RegenerationRequest} {t : Session}
    {r : SessionStep} {left : Nat} (hrun : Session.Run w.config (first w name) n es before s)
    (hr : r = .ok (t, es')) (hstep : Session.Step w.config s es' rs' t)
    (ha : ∃ asked, before ++ rs' = rs ++ asked ∧ x'.requests = asked.reverse ++ x.requests)
    (hb : x'.bus = x.bus) (hl : t.stepsLeft < s.stepsLeft) (hw : 11 * (s.stepsLeft - 1) + 2 ≤ left) :
    Proceeds w name es rs x (after x' s.name r).2 (after x' s.name r).1 left := by
  obtain ⟨asked, hreq, hx⟩ := ha
  subst hr
  refine ⟨es', asked, ?_, ?_, hx, ?_⟩
  · rw [← hreq]
    exact .ready (hrun.step hstep)
  · show (x'.publish es').bus.told = _
    rw [told_publish, hb]
  · show 11 * t.stepsLeft + 1 < left
    omega

/-- A session stands well in every run of it. -/
theorem standing_of_run (h : Session.Run w.config (first w name) n es rs s) :
    Session.Standing w.config s rs.length := by
  have := (Session.standing_run (Session.standing_begin w.config name w.prompt w.files) h).1
  rwa [Nat.zero_add] at this

theorem stepsLeft_pos (h : s.phase ≠ .over) : 0 < s.stepsLeft := by
  unfold Session.stepsLeft
  cases hp : s.phase with
  | checking => exact Nat.succ_pos _
  | regenerating => exact Nat.succ_pos _
  | «over» => exact absurd hp h

/-- **A heal follows its session in every step**, and the step brings it nearer to its end. -/
theorem follows_step (h : Follows w name es rs a) (hs : Step w now name x a a' x') :
    Proceeds w name es rs x x' a' (a.stepsLeft w) := by
  cases hs with
  | turnedAway he =>
      obtain ⟨rfl, rfl⟩ : es = [] ∧ rs = [] := by cases h; exact ⟨‹_›, ‹_›⟩
      exact proceeds_aside (.turnedAway rfl rfl) rfl rfl (Nat.succ_pos _)
  | leased hl =>
      obtain ⟨rfl, rfl⟩ : es = [] ∧ rs = [] := by cases h; exact ⟨‹_›, ‹_›⟩
      exact proceeds_aside (.ready .refl) rfl rfl (Nat.lt_succ_self _)
  | finished hp =>
      cases h with
      | ready hrun => exact proceeds_aside (.ended ⟨⟨_, hrun⟩, hp⟩) rfl rfl (Nat.succ_pos _)
  | passCalledOff hp hu =>
      cases h with
      | ready hrun =>
          obtain ⟨t, es', ht, hlt, _⟩ := Session.standing_onCalledOff (standing_of_run hrun)
            (by rw [hp]; simp) _
          refine proceeds_after hrun ht (.passCalledOff hp (.calledOff hu) ht) ⟨[], rfl, rfl⟩ rfl hlt ?_
          show _ ≤ 11 * _ + 1
          omega
  | passed hp hu =>
      cases h with
      | ready hrun =>
          obtain ⟨t, es', ht, _, hlt⟩ := Session.standing_onPass (standing_of_run hrun) hp
            (.unrendered hu)
          refine proceeds_after hrun ht (.passed hp (.unrendered hu) ht) ⟨[], rfl, rfl⟩ rfl hlt ?_
          show _ ≤ 11 * _ + 1
          omega
  | toRender hp hu =>
      cases h with
      | ready hrun =>
          -- a step of the session counts eleven, and its preview takes no more
          refine proceeds_aside (.rendering hrun hp hu) rfl rfl ?_
          have := stepsLeft_pos (s := _) (by rw [hp]; simp)
          show 11 * (_ - 1) + 9 + 2 < 11 * _ + 1
          omega
  | asked hp =>
      cases h with
      | ready hrun =>
          -- the request counts already, the step of the session comes with the answer
          refine ⟨[], [_], ?_, rfl, rfl, ?_⟩
          · rw [List.append_nil]
            exact .awaiting hrun hp rfl
          · show 11 * (_ - 1) + 2 < 11 * _ + 1
            have := stepsLeft_pos (s := _) (by rw [hp]; simp)
            omega
  | askedCalledOff hp =>
      cases h with
      | ready hrun =>
          obtain ⟨t, es', ht, hlt, _⟩ := Session.standing_onCalledOff (standing_of_run hrun)
            (by rw [hp]; simp) _
          refine proceeds_after hrun ht (.requestCalledOff hp (.inr rfl) ht) ⟨[_], rfl, rfl⟩ rfl hlt ?_
          show _ ≤ 11 * _ + 1
          omega
  | rendered =>
      cases h with
      | rendering hrun hp hu =>
          obtain ⟨t, es', ht, _, hlt⟩ := Session.standing_onPass (standing_of_run hrun) hp
            (.rendered _ hu)
          refine proceeds_after hrun ht (.passed hp (.rendered _ hu) ht) ⟨[], rfl, rfl⟩ rfl hlt ?_
          show _ ≤ 11 * (_ - 1) + 0 + 2
          omega
  | previewCalledOff =>
      cases h with
      | rendering hrun hp hu =>
          obtain ⟨t, es', ht, hlt, _⟩ := Session.standing_onCalledOff (standing_of_run hrun)
            (by rw [hp]; simp) _
          refine proceeds_after hrun ht (.passCalledOff hp (.abandoned hu) ht) ⟨[], rfl, rfl⟩ rfl hlt ?_
          show _ ≤ 11 * (_ - 1) + _ + 2
          omega
  | previewed hstep =>
      cases h with
      | rendering hrun hp hu =>
          refine proceeds_aside (.rendering hrun hp hu) rfl rfl ?_
          have hlt : _ < _ := Service.stepsLeft_step hstep
          dsimp only at hlt
          show 11 * (_ - 1) + _ + 2 < 11 * (_ - 1) + _ + 2
          omega
  | answerCalledOff =>
      cases h with
      | awaiting hrun hp hreq =>
          obtain ⟨t, es', ht, hlt, _⟩ := Session.standing_onCalledOff (standing_of_run hrun)
            (by rw [hp]; simp) _
          exact proceeds_after hrun ht (.requestCalledOff hp (.inr rfl) ht)
            ⟨[], by rw [hreq, List.append_nil], rfl⟩ rfl hlt (Nat.le_refl _)
  | answered =>
      cases h with
      | awaiting hrun hp hreq =>
          obtain ⟨t, es', ht, _, hlt⟩ := Session.standing_onGenerated (standing_of_run hrun) hp _
          exact proceeds_after hrun ht (.answered _ hp ht)
            ⟨[], by rw [hreq, List.append_nil], rfl⟩ rfl hlt (Nat.le_refl _)

end Follows

end Heal

end AppMend
