import AppMend.Proofs.Focus
import AppMend.Proofs.Heal.Course
import AppMend.Proofs.Heal.Interleaving
import AppMend.Proofs.Heal.Verdict

/-!
# Heals of different sessions are independent

Calls of heals share the browser, the registry, the bus and the generator. In a calm world each of them
keeps to the course of its own session, whatever steps the others take in between (`apace_step`). A batch
that the scheduler runs is one of the orders in which calls can take their steps (`interleaving_run`), so a
heal that runs alone keeps to its course as well (`exists_alone`).

A course has one end. So each call comes to what it comes to alone, and tells the same (`independence`).
Nothing keeps it from that: as long as a call has not ended some call can take a step, and the steps come
to an end.
-/

namespace AppMend

namespace HealCall

open Heal (Calm Course OnCourse)
open Heals (Attended Welcome Rests run runBatch lastOf styleless)

variable {w : HealWorld} {now i j : Nat} {x x' x₀ : HealShared} {z : Scene} {k k' g : HealCall}
  {before after calls ks : List HealCall} {ts : List Turn} {name other : String}
  {new es : List HealEvent} {a a' : Activity}

/-! ## The events of one session -/

/-- The events of a session among those that were told, the first one first. -/
def own (name : String) (new : List HealEvent) : List HealEvent :=
  (new.filter (·.session == name)).reverse

theorem own_append (hes : ∀ e ∈ es, e.session = name) (new : List HealEvent) :
    own name (es.reverse ++ new) = own name new ++ es := by
  have hall : ∀ e ∈ es.reverse, (e.session == name) = true :=
    fun e he => beq_iff_eq.mpr (hes e (List.mem_reverse.mp he))
  rw [own, List.filter_append, List.filter_eq_self.mpr hall, List.reverse_append, List.reverse_reverse]
  rfl

/-- What is told of another session is not told of this one. -/
theorem own_append_other (hes : ∀ e ∈ es, e.session = other) (hne : other ≠ name)
    (new : List HealEvent) : own name (es.reverse ++ new) = own name new := by
  have hnone : ∀ e ∈ es.reverse, ¬ (e.session == name) = true := by
    intro e he heq
    exact hne ((hes e (List.mem_reverse.mp he)).symm.trans (beq_iff_eq.mp heq))
  rw [own, List.filter_append, List.filter_eq_nil_iff.mpr hnone, List.nil_append]
  rfl

/-! ## A step of a call when nobody is called off -/

/-- A call as it was made, when its heal has come to an activity. -/
def doing (k : HealCall) (a : Activity) : HealCall := { k with heal := ⟨k.heal.session, a⟩ }

theorem eq_doing (k : HealCall) : k = k.doing k.heal.activity := rfl

/-- A call that is not called off sees what is shared as it is. -/
theorem view_eq (hk : k.cancelled = false) (hx : x.calledOff = false) : k.view x = x := by
  obtain ⟨hstopped, hoff⟩ := Bool.or_eq_false_iff.mp hx
  obtain ⟨service, registry, bus, requests, stopped⟩ := x
  cases hstopped
  unfold view
  rw [hk, ← hoff]

theorem share_eq (hx : x.calledOff = false) (hx' : x'.calledOff = false) : share x x' = x' := by
  obtain ⟨hstopped, hoff⟩ := Bool.or_eq_false_iff.mp hx
  obtain ⟨hstopped', hoff'⟩ := Bool.or_eq_false_iff.mp hx'
  obtain ⟨service, registry, bus, requests, stopped⟩ := x'
  cases hstopped'
  unfold share
  rw [hstopped, hoff, ← hoff']

/-- A step of a call that is not called off is the step of its heal. -/
theorem heal_step? (hk : k.cancelled = false) (hx : x.calledOff = false)
    (hs : k.step? w now x = some (k', x')) :
    ∃ h y, k.heal.step? (k.world w) now x = some (h, y) ∧
      k' = { k with heal := h, cancelled := y.calledOff } ∧ x' = share x y := by
  unfold step? at hs
  split at hs
  · cases hs
  · rw [view_eq hk hx] at hs
    obtain ⟨⟨h, y⟩, hstep, he⟩ := Option.map_eq_some_iff.mp hs
    obtain ⟨rfl, rfl⟩ := Prod.mk.inj he
    exact ⟨h, y, hstep, rfl, rfl⟩

theorem step?_of_heal (hk : k.cancelled = false) (hd : k.dropped = false) (hx : x.calledOff = false)
    {h : Heal} {y : HealShared} (hs : k.heal.step? (k.world w) now x = some (h, y)) :
    k.step? w now x = some ({ k with heal := h, cancelled := y.calledOff }, share x y) := by
  unfold step?
  rw [hd, view_eq hk hx, hs]
  rfl

theorem calm_world (hw : Calm w) (k : HealCall) : Calm (k.world w) :=
  ⟨hw.answers, hw.starts, hw.inTime, hw.patient, hw.tame⟩

/-- **What a heal on its course has told** of its own session is told further by a step of it, and nothing is
told of other sessions. -/
theorem onCourse_told (hw : Calm w) (hx : x.calledOff = false)
    (hbusy : ∀ e, a' ≠ .ended (.error (.busy e))) (htold : x.bus.told = new ++ x₀.bus.told)
    (h : OnCourse w name (own name new) a) (hs : Heal.Step w now name x a a' x') :
    ∃ new', x'.bus.told = new' ++ x₀.bus.told ∧ OnCourse w name (own name new') a' ∧
      ∀ other, name ≠ other → own other new' = own other new := by
  obtain ⟨es, hcourse, htold'⟩ := Heal.onCourse_step hw hx hbusy h hs
  have hown : ∀ e ∈ es, e.session = name :=
    fun e he => hcourse.told e (List.mem_append_right _ he)
  refine ⟨es.reverse ++ new, ?_, ?_, fun other hne => own_append_other hown hne new⟩
  · rw [htold', htold, List.append_assoc]
  · rw [own_append hown]
    exact hcourse

/-! ## Calls beside each other -/

/-- Nobody is called off, and nobody uses the preview. -/
structure Quiet (x : HealShared) : Prop where
  calledOff : x.calledOff = false
  waiting : x.service.waiting = []

/-- Calls that have not begun, of different sessions none of which is active. -/
structure Fresh (calls : List HealCall) (x : HealShared) : Prop where
  unstarted : ∀ k ∈ calls, k.heal.activity = .unstarted
  wanted : ∀ k ∈ calls, k.cancelled = false ∧ k.dropped = false
  distinct : (calls.map (·.heal.session)).Nodup
  free : ∀ k ∈ calls, x.registry.isActive k.heal.session = false

/-- Calls that go on beside each other: each is on the course of its own session. -/
structure Apace (w : HealWorld) (x₀ : HealShared) (calls : List HealCall) (z : Scene) : Prop where
  uncalled : z.2.calledOff = false
  attended : Attended z.2.service (z.1.map (·.heal))
  welcome : Welcome z.2 (z.1.map (·.heal))
  length : z.1.length = calls.length
  course : ∃ new, z.2.bus.told = new ++ x₀.bus.told ∧ ∀ (i : Nat) (k : HealCall), z.1[i]? = some k →
    ∃ (start : HealCall) (a : Activity), calls[i]? = some start ∧ k = start.doing a ∧
      OnCourse (start.world w) start.heal.session (own start.heal.session new) a

theorem Fresh.heals (hf : Fresh calls x) :
    calls.map (·.heal) = (calls.map (·.heal.session)).map fun session => { session } := by
  rw [List.map_map]
  refine List.map_congr_left fun k hm => ?_
  have hk := hf.unstarted k hm
  show k.heal = { session := k.heal.session }
  rw [← hk]

theorem apace_start (hq : Quiet x₀) (hf : Fresh calls x₀) : Apace w x₀ calls (calls, x₀) where
  uncalled := hq.calledOff
  attended := by
    show Attended x₀.service (calls.map (·.heal))
    rw [hf.heals]
    exact Heals.attended_start hq.waiting _
  welcome := by
    refine ⟨?_, ?_, ?_⟩
    · rw [List.map_map]
      exact hf.distinct
    · intro h hm _ hactive
      obtain ⟨k, hk, rfl⟩ := List.mem_map.mp hm
      have hfree := hf.free k hk
      rw [Registry.isActive, List.contains_iff_mem.mpr hactive] at hfree
      cases hfree
    · intro h hm e he
      obtain ⟨k, hk, rfl⟩ := List.mem_map.mp hm
      rw [hf.unstarted k hk] at he
      cases he
  length := rfl
  course := by
    refine ⟨[], rfl, fun i k hi => ⟨k, .unstarted, hi, ?_, .unstarted rfl⟩⟩
    rw [← hf.unstarted k (List.mem_of_getElem? hi)]
    exact k.eq_doing

/-- Calls at different places are of different sessions. -/
theorem session_ne (hd : (calls.map (·.heal.session)).Nodup) (hi : calls[i]? = some k)
    (hj : calls[j]? = some g) (hij : i ≠ j) : k.heal.session ≠ g.heal.session := by
  intro he
  obtain ⟨hlt, _⟩ := List.getElem?_eq_some_iff.mp hi
  refine hij ((List.getElem?_inj (by rwa [List.length_map]) hd).mp ?_)
  rw [List.getElem?_map, List.getElem?_map, hi, hj]
  exact congrArg some he

theorem stepsLeft_world (w : HealWorld) (k : HealCall) (a : Activity) :
    a.stepsLeft (k.world w) = a.stepsLeft w := by
  cases a <;> rfl

/-- **A step of one call leaves all calls on their courses**, and brings the call nearer to its end. -/
theorem apace_step (hw : Calm w) (hf : Fresh calls x₀)
    (h0 : Apace w x₀ calls (before ++ k :: after, x)) (hs : Step w k x k' x') :
    Apace w x₀ calls (before ++ k' :: after, x') ∧
      k'.heal.activity.stepsLeft w < k.heal.activity.stepsLeft w := by
  obtain ⟨hs⟩ := hs
  obtain ⟨new, htold, heach⟩ := h0.course
  obtain ⟨start, a, hstart, rfl, hcourse⟩ := heach before.length k getElem?_focus
  obtain ⟨hcancelled, hdropped⟩ := hf.wanted start (List.mem_of_getElem? hstart)
  -- the step of the call is a step of its heal, which is the same heal after it
  obtain ⟨⟨session, a'⟩, y, hheal, rfl, rfl⟩ :=
    heal_step? (k := start.doing a) (x := x) hcancelled h0.uncalled hs
  obtain ⟨hsession, hstep⟩ := Heal.step_of_step? hheal
  obtain rfl : session = start.heal.session := hsession
  have huncalled : y.calledOff = false :=
    Heal.calledOff_step (calm_world hw start) h0.uncalled hstep
  have hk' : { start.doing a with heal := ⟨start.heal.session, a'⟩, cancelled := y.calledOff } =
      start.doing a' := by
    rw [huncalled, ← hcancelled]
    rfl
  rw [share_eq h0.uncalled huncalled, hk']
  have hattended := h0.attended
  have hwelcome := h0.welcome
  rw [List.map_append, List.map_cons] at hattended hwelcome
  have hattended' := Heals.attended_step hattended hheal
  have hwelcome' := Heals.welcome_step hwelcome hheal
  have hbusy : ∀ e, a' ≠ .ended (.error (.busy e)) :=
    hwelcome'.unbusy _ (List.mem_append_right _ List.mem_cons_self)
  obtain ⟨new', htold', hcourse', hothers⟩ :=
    onCourse_told (calm_world hw start) h0.uncalled hbusy htold hcourse hstep
  refine ⟨⟨huncalled, ?_, ?_, ?_, new', htold', ?_⟩, ?_⟩
  · rw [List.map_append, List.map_cons]
    exact hattended'
  · rw [List.map_append, List.map_cons]
    exact hwelcome'
  · have hlength := h0.length
    simpa using hlength
  · intro i g hi
    by_cases he : i = before.length
    · subst he
      rw [getElem?_focus] at hi
      obtain rfl := Option.some.inj hi
      exact ⟨start, a', hstart, rfl, hcourse'⟩
    · -- the others have told nothing meanwhile
      rw [getElem?_other he] at hi
      obtain ⟨start', b, hstart', rfl, hother⟩ := heach i g hi
      refine ⟨start', b, hstart', rfl, ?_⟩
      rw [hothers _ (session_ne hf.distinct hstart hstart' (Ne.symm he))]
      exact hother
  · obtain ⟨rs, hfollows⟩ := hcourse.follows
    obtain ⟨_, _, _, _, _, hlt⟩ := Heal.follows_step hfollows hstep
    rwa [stepsLeft_world, stepsLeft_world] at hlt

/-- How many steps calls take at most until all have ended. -/
def left (w : HealWorld) (ks : List HealCall) : Nat := total (·.heal.activity.stepsLeft w) ks

/-- **So it is after any steps of the calls**, and these are not more than they may be. -/
theorem apace_interleaving (hw : Calm w) (hq : Quiet x₀) (hf : Fresh calls x₀)
    (h : Interleaving (Step w) (calls, x₀) ts z) :
    Apace w x₀ calls z ∧ ts.length + left w z.1 ≤ calls.length * Activity.stepsLeft w .unstarted := by
  induction h with
  | refl =>
      have hleft : left w calls = calls.length * Activity.stepsLeft w .unstarted :=
        total_of_forall fun k hk => by rw [hf.unstarted k hk]
      refine ⟨apace_start hq hf, ?_⟩
      rw [List.length_nil, Nat.zero_add]
      exact Nat.le_of_eq hleft
  | move _ hs ih =>
      obtain ⟨hapace, hle⟩ := ih
      obtain ⟨hapace', hlt⟩ := apace_step hw hf hapace hs
      refine ⟨hapace', ?_⟩
      simp only [left, total_focus, List.length_cons] at hle ⊢
      omega

/-- **As long as a call has not ended, some call can take a step.** -/
theorem Apace.exists_step (h0 : Apace w x₀ calls (ks, x)) (hf : Fresh calls x₀) (hm : k ∈ ks)
    (hne : ∀ r, k.heal.activity ≠ .ended r) : ∃ g ∈ ks, ∃ g' x', Step w g x g' x' := by
  -- whoever can take a step as a heal can take it as a call
  have can (g : HealCall) (now : Nat) (hg : g ∈ ks) (hs : g.heal.step? (g.world w) now x ≠ none) :
      ∃ g ∈ ks, ∃ g' x', Step w g x g' x' := by
    obtain ⟨new, _, heach⟩ := h0.course
    obtain ⟨i, hi⟩ := List.getElem?_of_mem hg
    obtain ⟨start, a, hstart, rfl, _⟩ := heach i g hi
    obtain ⟨hcancelled, hdropped⟩ := hf.wanted start (List.mem_of_getElem? hstart)
    obtain ⟨⟨h, y⟩, hstep⟩ := Option.ne_none_iff_exists'.mp hs
    have hcall := step?_of_heal (k := start.doing a) (x := x) hcancelled hdropped h0.uncalled hstep
    exact ⟨_, hg, _, _, ⟨hcall⟩⟩
  by_cases hrest : ∀ g ∈ ks, Rests g.heal
  · have hrest' : ∀ h ∈ ks.map (·.heal), Rests h := by
      intro h hh
      obtain ⟨g, hg, rfl⟩ := List.mem_map.mp hh
      exact hrest g hg
    obtain ⟨h, hh, t, ht⟩ :=
      Heals.exists_wakeTime 0 h0.attended hrest' (List.mem_map_of_mem hm) hne
    obtain ⟨g, hg, rfl⟩ := List.mem_map.mp hh
    exact can g t hg (Heals.step?_of_wakeTime? ht (Nat.le_refl t))
  · obtain ⟨g, hg⟩ := Classical.not_forall.mp hrest
    obtain ⟨hg, hnot⟩ := Classical.not_imp.mp hg
    exact can g 0 hg fun hnone => hnot (Heals.rests_of_step? hnone)

/-! ## The scheduler -/

/-- The call of a heal, with the prompt and the files of a world. -/
def of (w : HealWorld) (h : Heal) : HealCall := { heal := h, prompt := w.prompt, files := w.files }

/-- **The heals that the scheduler runs are calls in some order of their steps.** -/
theorem interleaving_run (hw : Calm w) (hx : x.calledOff = false) (heals : List Heal) (fuel now : Nat) :
    ∃ ts, Interleaving (Step w) (heals.map (of w), x) ts
      ((run w fuel now x heals).1.map (of w), (run w fuel now x heals).2) := by
  refine (Heals.run_induction (w := w) (P := fun x' heals' => x'.calledOff = false ∧
    ∃ ts, Interleaving (Step w) (heals.map (of w), x) ts (heals'.map (of w), x')) ?_ fuel now
      ⟨hx, [], .refl⟩).2
  rintro now x before h after h' x' ⟨hx, ts, hrun⟩ hs
  obtain ⟨_, hstep⟩ := Heal.step_of_step? hs
  have hx' : x'.calledOff = false := Heal.calledOff_step hw hx hstep
  have hcall := step?_of_heal (w := w) (k := of w h) rfl rfl hx hs
  rw [share_eq hx hx', hx'] at hcall
  rw [List.map_append, List.map_cons] at hrun ⊢
  exact ⟨hx', _, hrun.move ⟨hcall⟩⟩

/-- **A heal that runs alone comes to the end of the course of its session.** -/
theorem exists_alone (hw : Calm w) (hq : Quiet x) (hfree : x.registry.isActive name = false) :
    ∃ s x' new, runBatch w x [name] = ([some (.ok s)], x') ∧ x'.bus.told = new ++ x.bus.told ∧
      Course w name (s, own name new) ∧ s.phase = .over := by
  have hfresh : Fresh [of w { session := name }] x :=
    ⟨fun k hk => by rw [List.mem_singleton.mp hk]; rfl,
      fun k hk => by rw [List.mem_singleton.mp hk]; exact ⟨rfl, rfl⟩,
      List.pairwise_singleton _ _,
      fun k hk => by rw [List.mem_singleton.mp hk]; exact hfree⟩
  obtain ⟨ts, hrun⟩ := interleaving_run hw hq.calledOff [{ session := name }]
    (Heals.maxSteps w * ([name].length + 1)) 0
  obtain ⟨hapace, _⟩ := apace_interleaving hw hq hfresh hrun
  obtain ⟨new, htold, heach⟩ := hapace.course
  -- there is just the one heal
  obtain ⟨h, hlast⟩ : ∃ h, (lastOf w x [name]).1 = [h] := by
    have hlength := hapace.length
    rw [List.length_map] at hlength
    exact List.length_eq_one_iff.mp hlength
  have hfirst : ((lastOf w x [name]).1.map (of w))[0]? = some (of w h) := by rw [hlast]; rfl
  obtain ⟨start, a, hstart, hk, hcourse⟩ := heach 0 _ hfirst
  obtain rfl : of w { session := name } = start := Option.some.inj hstart
  obtain rfl : h = ⟨name, a⟩ := congrArg HealCall.heal hk
  obtain ⟨r, hr⟩ := Heals.ended_lastOf hq.waiting (hlast ▸ List.mem_singleton_self _)
  cases hr
  cases hcourse with
  | ended hc hp =>
      refine ⟨_, (lastOf w x [name]).2, new, ?_, htold, hc, hp⟩
      rw [Heals.runBatch_eq, hlast]
      rfl

/-! ## Independence -/

/-- What a heal of a session comes to when it runs alone, with all that it tells. -/
def ComesTo (w : HealWorld) (name : String) (s : Session) (es : List HealEvent) : Prop :=
  ∀ x, Quiet x → x.registry.isActive name = false → ∃ x' new,
    runBatch w x [name] = ([some (.ok s)], x') ∧ x'.bus.told = new ++ x.bus.told ∧ own name new = es

/-- A heal comes to the end of its course from wherever it begins. -/
theorem exists_comesTo (hw : Calm w) (name : String) :
    ∃ s es, Course w name (s, es) ∧ s.phase = .over ∧ ComesTo w name s es := by
  have hquiet : Quiet {} := ⟨rfl, rfl⟩
  have hfree : ({} : HealShared).registry.isActive name = false := rfl
  obtain ⟨s, _, new, _, _, hc, hp⟩ := exists_alone hw hquiet hfree
  refine ⟨s, _, hc, hp, fun x hq hfree => ?_⟩
  obtain ⟨t, x', new', hrun, htold, hc', hp'⟩ := exists_alone hw hq hfree
  obtain ⟨rfl, hown⟩ := Heal.course_end hc hp hc' hp'
  exact ⟨x', new', hrun, htold, hown⟩

/-- What is so of calls beside each other, compared with each of them alone. -/
structure Independent (w : HealWorld) (calls : List HealCall) (x₀ : HealShared) (ts : List Turn)
    (ks : List HealCall) (x : HealShared) : Prop where
  length : ks.length = calls.length
  /-- A call tells what it tells alone, and comes to what it comes to alone. -/
  same : ∃ new, x.bus.told = new ++ x₀.bus.told ∧
    ∀ (i : Nat) (k k' : HealCall), calls[i]? = some k → ks[i]? = some k' →
      ∃ s es, ComesTo (k.world w) k.heal.session s es ∧ own k.heal.session new <+: es ∧
        ∀ r, k'.heal.activity = .ended r → r = .ok s ∧ own k.heal.session new = es
  /-- Some call can take a step, as long as one has not ended. -/
  goesOn : ∀ k ∈ ks, (∀ r, k.heal.activity ≠ .ended r) → ∃ g ∈ ks, ∃ g' x', Step w g x g' x'
  bounded : ts.length ≤ calls.length * Activity.stepsLeft w .unstarted

/-- **Heals of different sessions do not influence each other.** When browsers start, the generator and
pages are functions of what they are given and nobody is called off, then after any steps of calls of
different sessions each call has told a part of what it tells alone; and when it ends, it has told all of it
and has come to what it comes to alone. -/
theorem independence (hw : Calm w) (hq : Quiet x₀) (hf : Fresh calls x₀)
    (h : Interleaving (Step w) (calls, x₀) ts (ks, x)) : Independent w calls x₀ ts ks x := by
  obtain ⟨hapace, hbound⟩ := apace_interleaving hw hq hf h
  obtain ⟨new, htold, heach⟩ := hapace.course
  refine ⟨hapace.length, ⟨new, htold, fun i k k' hi hi' => ?_⟩,
    fun k hm hne => hapace.exists_step hf hm hne, Nat.le_trans (Nat.le_add_right _ _) hbound⟩
  obtain ⟨start, a, hstart, rfl, hcourse⟩ := heach i k' hi'
  obtain rfl := Option.some.inj (hi.symm.trans hstart)
  obtain ⟨s, es, hc, hp, halone⟩ := exists_comesTo (calm_world hw k) k.heal.session
  refine ⟨s, es, halone, ?_, ?_⟩
  · obtain ⟨t, hc'⟩ := hcourse.exists_course
    exact Heal.course_prefix hc' hc hp
  · rintro r hr
    change a = .ended r at hr
    subst hr
    cases hcourse with
    | ended hc' hp' =>
        obtain ⟨rfl, hown⟩ := Heal.course_end hc hp hc' hp'
        exact ⟨rfl, hown⟩

/-- A call of a heal of an app without files. -/
def blank (name : String) : HealCall where
  heal := { session := name }
  prompt := "an app"
  files := .empty

/-- Both heals need an attempt; the first one has ended when the answer to the second one is awaited. -/
theorem independence_styleless :
    Calm styleless ∧ Quiet {} ∧ Fresh [blank "a", blank "b"] {} ∧
      ∃ ts k k' x, Interleaving (Step styleless) ([blank "a", blank "b"], {}) ts ([k, k'], x) ∧
        Independent styleless [blank "a", blank "b"] {} ts [k, k'] x ∧
        (own "a" x.bus.told).map (·.status) = [.healing 1, .revalidating 1, .healed] ∧
        (own "b" x.bus.told).map (·.status) = [.healing 1] ∧ x.registry.active = ["b"] := by
  have hcalm : Calm styleless :=
    ⟨fun _ _ => rfl, rfl, Nat.zero_le _, fun _ _ => rfl, fun _ => rfl⟩
  have hquiet : Quiet {} := ⟨rfl, rfl⟩
  have hfresh : Fresh [blank "a", blank "b"] {} :=
    ⟨by simp [blank], by simp [blank], by decide, fun _ _ => rfl⟩
  have first {k k' k'' : HealCall} {x x' : HealShared} {ts : List Turn} {start : Scene}
      (h : Interleaving (Step styleless) start ts ([k, k'], x))
      (hs : k.step? styleless 0 x = some (k'', x')) :
      Interleaving (Step styleless) start (⟨0, x, x'⟩ :: ts) ([k'', k'], x') :=
    @Interleaving.move _ _ _ [] [k'] _ _ _ _ h ⟨hs⟩
  have second {k k' k'' : HealCall} {x x' : HealShared} {ts : List Turn} {start : Scene}
      (h : Interleaving (Step styleless) start ts ([k, k'], x))
      (hs : k'.step? styleless 0 x = some (k'', x')) :
      Interleaving (Step styleless) start (⟨1, x, x'⟩ :: ts) ([k, k''], x') :=
    @Interleaving.move _ _ _ [k] [] _ _ _ _ h ⟨hs⟩
  have hleased := second (first (@Interleaving.refl _ ([blank "a", blank "b"], {})) rfl) rfl
  have hfailed := second (first hleased rfl) rfl
  have hasked := second (first hfailed rfl) rfl
  have hanswered := first hasked rfl
  have hpassed := first hanswered rfl
  have hended := first hpassed rfl
  exact ⟨hcalm, hquiet, hfresh, _, _, _, _, hended, independence hcalm hquiet hfresh hended,
    by decide +kernel, by decide +kernel, by decide +kernel⟩

end HealCall

end AppMend
