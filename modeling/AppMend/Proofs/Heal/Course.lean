import AppMend.Proofs.Heal.Events
import AppMend.Proofs.Pass.Gates
import AppMend.Proofs.Preview.Promise
import Mathlib.Logic.Relation

/-!
# The course of a heal

When browsers start, nobody is called off and the generator answers each request in one way only
(`Calm`), nothing is left open of what a session meets: a pass has the result that its own files and its
own page give it, and a request the answer that the generator has for it. So a session has one way to go on
(`advance_unique`), and its course has one end (`course_end`).

A heal keeps to the course of its session in every step (`onCourse_step`). Nothing is said there of when it
takes the step or of what others have done meanwhile.
-/

namespace AppMend

open Preview (Phase Service Promised rendered)
open Relation (ReflTransGen)

namespace Heal

/-- Nothing that heals meet from outside depends on when they meet it. -/
structure Calm (w : HealWorld) : Prop where
  /-- What comes of a request is a function of the request, however long the answer takes. -/
  answers : ∀ n r, answerOf w (w.reply n r) = answerOf w (w.reply 0 r)
  /-- The browser starts, and in time. -/
  starts : w.browser.launch = .done
  inTime : w.browser.launchMs ≤ w.config.preview.launchTimeoutMs
  /-- Nobody is called off, neither by the generator nor by a page. -/
  patient : ∀ n r, (w.reply n r).callsOff = false
  tame : ∀ html, (w.browser.page html).cancels = false

variable {w : HealWorld} {now : Nat} {x x' : HealShared} {name : String} {a a' : Activity}
  {s t : Session} {p : Pass} {d : Diagnosis} {es es' : List HealEvent}

theorem Calm.start (hw : Calm w) : (Service.start w.config.preview w.browser).2 = .ok () := by
  unfold Service.start
  rw [hw.starts]
  dsimp only
  rw [if_pos hw.inTime]

/-! ## The course of a session -/

/-- The pass over the files of a session that is not called off. -/
def passOf (w : HealWorld) (s : Session) : Option Pass :=
  match Pass.upToPreview w.config (fun _ => false) s.state.attemptNumber s.working with
  | .ok (.over p) => some p
  | .ok (.toRender p code entry) =>
    some (p.finish entry (Preview.verdict (rendered w.config.preview w.browser code entry)))
  | .error _ => none

/-- A session goes on, and tells of it. -/
inductive Advance (w : HealWorld) : Session × List HealEvent → Session × List HealEvent → Prop where
  | passed {s t : Session} {es es' : List HealEvent} {p : Pass} : s.phase = .checking →
      passOf w s = some p → s.onPass p = .ok (t, es') → Advance w (s, es) (t, es ++ es')
  | answered {s t : Session} {es es' : List HealEvent} {d : Diagnosis} : s.phase = .regenerating d →
      s.onGenerated d (answerOf w (w.reply 0 (s.request d))) = .ok (t, es') →
      Advance w (s, es) (t, es ++ es')

/-- A session comes to another in its course, with the events told up to there. -/
def Course (w : HealWorld) (name : String) : Session × List HealEvent → Prop :=
  ReflTransGen (Advance w) (first w name, [])

/-- **There is one way for a session to go on.** -/
theorem advance_unique : Relator.RightUnique (Advance w) := by
  intro y z z' h h'
  cases h with
  | passed hp hpass ht =>
      cases h' with
      | passed _ hpass' ht' =>
          obtain rfl := Option.some.inj (hpass.symm.trans hpass')
          obtain ⟨rfl, rfl⟩ := Prod.mk.inj (Except.ok.inj (ht.symm.trans ht'))
          rfl
      | answered hp' => cases hp.symm.trans hp'
  | answered hp ht =>
      cases h' with
      | passed hp' => cases hp.symm.trans hp'
      | answered hp' ht' =>
          obtain rfl := SessionPhase.regenerating.inj (hp.symm.trans hp')
          obtain ⟨rfl, rfl⟩ := Prod.mk.inj (Except.ok.inj (ht.symm.trans ht'))
          rfl

theorem prefix_of_advances {y z : Session × List HealEvent} (h : ReflTransGen (Advance w) y z) :
    y.2 <+: z.2 := by
  induction h with
  | refl => exact List.prefix_refl _
  | tail _ h ih =>
      refine ih.trans ?_
      cases h with
      | passed | answered => exact List.prefix_append _ _

/-- A session that is over goes no further. -/
theorem eq_of_advances_over {z : Session × List HealEvent} (hp : s.phase = .over)
    (h : ReflTransGen (Advance w) (s, es) z) : z = (s, es) := by
  rcases h.cases_head with rfl | ⟨_, hstep, _⟩
  · rfl
  · cases hstep with
    | passed hp' => cases hp.symm.trans hp'
    | answered hp' => cases hp.symm.trans hp'

/-- **What a session tells up to anywhere in its course, it has told when it is over.** -/
theorem course_prefix (h : Course w name (s, es)) (h' : Course w name (t, es')) (hp : t.phase = .over) :
    es <+: es' := by
  rcases ReflTransGen.total_of_right_unique advance_unique h h' with hle | hle
  · exact prefix_of_advances hle
  · cases eq_of_advances_over hp hle
    exact List.prefix_refl _

/-- **A course has one end.** -/
theorem course_end (h : Course w name (s, es)) (hp : s.phase = .over) (h' : Course w name (t, es'))
    (hp' : t.phase = .over) : t = s ∧ es' = es := by
  rcases ReflTransGen.total_of_right_unique advance_unique h h' with hle | hle
  · exact Prod.mk.inj (eq_of_advances_over hp hle)
  · obtain ⟨rfl, rfl⟩ := Prod.mk.inj (eq_of_advances_over hp' hle)
    exact ⟨rfl, rfl⟩

/-! ## A course is a run -/

theorem passOf_over
    (hu : Pass.upToPreview w.config (fun _ => false) s.state.attemptNumber s.working = .ok (.over p)) :
    passOf w s = some p := by
  unfold passOf
  rw [hu]

theorem passOf_toRender {code entry : String}
    (hu : Pass.upToPreview w.config (fun _ => false) s.state.attemptNumber s.working =
      .ok (.toRender p code entry)) :
    passOf w s =
      some (p.finish entry (Preview.verdict (rendered w.config.preview w.browser code entry))) := by
  unfold passOf
  rw [hu]

/-- A pass that is not called off is a pass that a session can meet. -/
theorem result_of_passOf (h : passOf w s = some p) :
    Pass.Result w.config s.state.attemptNumber s.working (.ok p) := by
  unfold passOf at h
  split at h
  · rename_i hu
    cases h
    exact .unrendered hu
  · rename_i hu
    cases h
    exact .rendered _ hu
  · cases h

theorem run_of_course {y : Session × List HealEvent} (h : Course w name y) :
    ∃ n rs, Session.Run w.config (first w name) n y.2 rs y.1 := by
  induction h with
  | refl => exact ⟨0, [], .refl⟩
  | tail _ h ih =>
      obtain ⟨n, rs, hrun⟩ := ih
      cases h with
      | passed hp hpass ht => exact ⟨_, _, hrun.step (.passed hp (result_of_passOf hpass) ht)⟩
      | answered hp ht => exact ⟨_, _, hrun.step (.answered _ hp ht)⟩

/-- **A session tells only of itself.** -/
theorem told_of_course (h : Course w name (s, es)) : s.name = name ∧ ∀ e ∈ es, e.session = name := by
  obtain ⟨n, rs, hrun⟩ := run_of_course h
  obtain ⟨os, hd, hes, _⟩ := Session.diary_of_run hrun
  obtain ⟨hname, hlog⟩ := Session.events_of_diary hd
  rw [hes, List.reverse_reverse] at hlog
  refine ⟨hname, fun e he => ?_⟩
  rw [show es = _ from hlog] at he
  exact HealState.session_of_mem_eventsOfLog he

/-! ## A heal keeps to the course of its session -/

/-- What a heal is doing, seen from the course of its session, with the events told. -/
inductive OnCourse (w : HealWorld) (name : String) (es : List HealEvent) : Activity → Prop where
  | unstarted : es = [] → OnCourse w name es .unstarted
  | ready {s : Session} : Course w name (s, es) → OnCourse w name es (.ready s)
  | rendering {s : Session} {p : Pass} {code entry : String} {call : Nat} {phase : Phase} :
      Course w name (s, es) → s.phase = .checking →
      Pass.upToPreview w.config (fun _ => false) s.state.attemptNumber s.working =
        .ok (.toRender p code entry) →
      Promised w.config.preview w.browser code entry phase →
      OnCourse w name es (.rendering s p code entry call phase)
  | awaiting {s : Session} {d : Diagnosis} {deadline : Nat} : Course w name (s, es) →
      s.phase = .regenerating d →
      OnCourse w name es (.awaiting s d deadline (answerOf w (w.reply 0 (s.request d))))
  | ended {s : Session} : Course w name (s, es) → s.phase = .over → OnCourse w name es (.ended (.ok s))

/-- A heal on the course of its session follows it. -/
theorem OnCourse.follows (h : OnCourse w name es a) : ∃ rs, Follows w name es rs a := by
  cases h with
  | unstarted he => exact ⟨[], .unstarted he rfl⟩
  | ready hc =>
      obtain ⟨n, rs, hrun⟩ := run_of_course hc
      exact ⟨rs, .ready hrun⟩
  | rendering hc hp hu =>
      obtain ⟨n, rs, hrun⟩ := run_of_course hc
      exact ⟨rs, .rendering hrun hp hu⟩
  | awaiting hc hp =>
      obtain ⟨n, rs, hrun⟩ := run_of_course hc
      exact ⟨_, .awaiting hrun hp rfl⟩
  | ended hc hp =>
      obtain ⟨n, rs, hrun⟩ := run_of_course hc
      exact ⟨rs, .ended ⟨⟨n, hrun⟩, hp⟩⟩

/-- A heal is somewhere on its course with what it told. -/
theorem OnCourse.exists_course (h : OnCourse w name es a) : ∃ s, Course w name (s, es) := by
  cases h with
  | unstarted he =>
      subst he
      exact ⟨first w name, .refl⟩
  | ready hc | rendering hc | awaiting hc | ended hc => exact ⟨_, hc⟩

/-- What a heal tells on its course is of its own session. -/
theorem OnCourse.told (h : OnCourse w name es a) : ∀ e ∈ es, e.session = name := by
  obtain ⟨s, hc⟩ := h.exists_course
  exact (told_of_course hc).2

/-- What comes of a step of a heal on its course: it is further on it, with the events that it told. -/
def Continues (w : HealWorld) (name : String) (es : List HealEvent) (x x' : HealShared)
    (a' : Activity) : Prop :=
  ∃ es', OnCourse w name (es ++ es') a' ∧ x'.bus.told = es'.reverse ++ x.bus.told

/-- A heal goes on without an event. -/
theorem continues_aside (h : OnCourse w name es a') (hb : x'.bus = x.bus) :
    Continues w name es x x' a' := by
  refine ⟨[], ?_, ?_⟩
  · rw [List.append_nil]
    exact h
  · rw [hb]
    rfl

/-- A heal goes on after a step of its session. -/
theorem continues_after {session : String} {r : SessionStep} (hc : Course w name (s, es))
    (hr : r = .ok (t, es')) (hstep : Advance w (s, es) (t, es ++ es')) :
    Continues w name es x (after x session r).2 (after x session r).1 := by
  subst hr
  refine ⟨es', .ready (hc.tail hstep), ?_⟩
  show (x.publish es').bus.told = _
  rw [told_publish]

theorem standing_of_course (h : Course w name (s, es)) : ∃ n, Session.Standing w.config s n := by
  obtain ⟨n, rs, hrun⟩ := run_of_course h
  exact ⟨_, standing_of_run hrun⟩

/-- A session takes in its pass. -/
theorem continues_passed (hc : Course w name (s, es)) (hp : s.phase = .checking)
    (hpass : passOf w s = some p) :
    Continues w name es x (after x s.name (s.onPass p)).2 (after x s.name (s.onPass p)).1 := by
  obtain ⟨n, hstand⟩ := standing_of_course hc
  obtain ⟨t, es', ht, _⟩ := Session.standing_onPass hstand hp (result_of_passOf hpass)
  exact continues_after hc ht (.passed hp hpass ht)

/-- **A heal that is not turned away keeps to its course in every step**, when the world is calm. -/
theorem onCourse_step (hw : Calm w) (hx : x.calledOff = false)
    (hbusy : ∀ e, a' ≠ .ended (.error (.busy e))) (h : OnCourse w name es a)
    (hs : Step w now name x a a' x') : Continues w name es x x' a' := by
  cases hs with
  | turnedAway => exact absurd rfl (hbusy _)
  | leased =>
      obtain rfl : es = [] := by cases h; assumption
      exact continues_aside (.ready .refl) rfl
  | finished hp =>
      cases h with
      | ready hc => exact continues_aside (.ended hc hp) rfl
  | passCalledOff hp hu =>
      -- a pass that nobody calls off comes to its end
      have hoff : x.calledOff = true := Pass.calledOff_of_upToPreview hu
      cases hx.symm.trans hoff
  | passed hp hu =>
      rw [hx] at hu
      cases h with
      | ready hc => exact continues_passed hc hp (passOf_over hu)
  | toRender hp hu =>
      rw [hx] at hu
      cases h with
      | ready hc => exact continues_aside (.rendering hc hp hu trivial) rfl
  | asked hp =>
      rw [snd_answerAt, hw.answers]
      cases h with
      | ready hc => exact continues_aside (.awaiting hc hp) rfl
  | askedCalledOff _ hoff => cases (hw.patient _ _).symm.trans hoff
  | previewCalledOff hoff | answerCalledOff hoff => cases hx.symm.trans hoff
  | rendered =>
      cases h with
      | rendering hc hp hu hpromise =>
          rw [show _ = rendered _ _ _ _ from hpromise]
          exact continues_passed hc hp (passOf_toRender hu)
  | previewed hstep =>
      cases h with
      | rendering hc hp hu hpromise =>
          exact continues_aside (.rendering hc hp hu (Service.promised_step hw.start hpromise hstep)) rfl
  | answered =>
      cases h with
      | awaiting hc hp =>
          obtain ⟨n, hstand⟩ := standing_of_course hc
          obtain ⟨t, es', ht, _⟩ := Session.standing_onGenerated hstand hp _
          exact continues_after hc ht (.answered hp ht)

/-! ## Nobody is called off -/

theorem calledOff_after (x : HealShared) (session : String) (r : SessionStep) :
    (after x session r).2.calledOff = x.calledOff := by
  cases r <;> rfl

/-- No step calls anybody off when the world is calm. -/
theorem calledOff_step (hw : Calm w) (hx : x.calledOff = false) (hs : Step w now name x a a' x') :
    x'.calledOff = false := by
  cases hs with
  | turnedAway | leased | finished | toRender | asked => exact hx
  | passCalledOff | passed | rendered | answered =>
      rw [calledOff_after]
      exact hx
  | askedCalledOff _ hoff => cases (hw.patient _ _).symm.trans hoff
  | previewCalledOff hoff | answerCalledOff hoff => cases hx.symm.trans hoff
  | previewed hstep =>
      obtain ⟨hstopped, hoff⟩ := Bool.or_eq_false_iff.mp hx
      exact Bool.or_eq_false_iff.mpr ⟨hstopped, Service.calledOff_step (hw.tame _) hoff hstep⟩

end Heal

end AppMend
