import AppMend.Proofs.Heal.Batch

/-!
# What a heal may say in the end

A session that is over has good files, or it gave up, or it was called off. It says of its files that
they are good only if its last pass was green, over these files (`Session.certified`). It says that
someone else has to mend them only when it made all the attempts it had (`Session.concluded`).

Both hold of every outcome of a session, however its passes and requests turned out and whenever it was
called off. They are read off where a session can stand when it is over, and they are true of the heals
that run together because each of them ends with an outcome of its session.
-/

namespace AppMend

namespace Session

variable {c : Config} {name prompt : String} {files : FileSet} {es : List HealEvent}
  {rs : List RegenerationRequest} {n : Nat} {s t : Session}

/-! ## The two verdicts -/

/-- What is known of a session whose files are good. -/
structure Certified (c : Config) (s : Session) : Prop where
  /-- Its last pass is its only green one and was over its files. -/
  last_green : ∃ before p files, s.passes = before ++ [p] ∧ Pass.Result c p.attempt files (.ok p) ∧
    p.allGreen = true ∧ (∀ q ∈ before, q.allGreen = false) ∧ s.working = p.files
  /-- There is a bundle of its files. -/
  bundled : ∃ b, s.bundle? = some b ∧ c.bundle.bundle s.working c.entry = .ok b

/-- What is known of a session that is over, after some requests. -/
structure Concluded (c : Config) (rs : List RegenerationRequest) (s : Session) : Prop where
  /-- It has one verdict, and its status says which. -/
  verdict :
    s.isValid = true ∧ (s.state.status = .idle ∨ s.state.status = .healed) ∧ s.needsManualFix = false ∨
    s.isValid = false ∧ s.state.status = .failed ∧ s.needsManualFix = true ∨
    s.isValid = false ∧ s.state.status = .cancelled ∧ s.needsManualFix = false
  asked_le : rs.length ≤ s.state.attemptNumber
  attempts_le : s.state.attemptNumber ≤ c.heal.maxAttempts
  asked_eq : s.state.status ≠ .cancelled → rs.length = s.state.attemptNumber
  exhausted : s.state.status = .failed → rs.length = c.heal.maxAttempts
  fixed_iff : s.fixApplied.isSome = true ↔ s.state.status = .healed
  fixed_eq : s.fixApplied.isSome = true → s.fixApplied = s.diagnoses.getLast?.map (·.rootCause)
  passes_length : s.passes.length = s.diagnoses.length + if s.isValid then 1 else 0
  ascending : s.passes.Pairwise fun p q => p.attempt < q.attempt
  first : ∀ p, s.passes.head? = some p → p.attempt = 0

/-- A session that takes whatever it can meet next. -/
structure Ready (c : Config) (s : Session) : Prop where
  onPass : s.phase = .checking → ∀ p, Pass.Result c s.state.attemptNumber s.working (.ok p) →
    ∃ r, s.onPass p = .ok r
  onGenerated : ∀ d, s.phase = .regenerating d → ∀ answer, ∃ r, s.onGenerated d answer = .ok r
  onCalledOff : s.phase ≠ .over → ∀ during, ∃ r, s.onCalledOff during = .ok r

/-! ## Where a session stands when it is over -/

theorem standing_of_outcome (ho : Outcome c name prompt files es rs s) :
    Standing c s rs.length ∧ s.phase = .over := by
  obtain ⟨⟨n, hr⟩, hover⟩ := ho
  have := (standing_run (standing_begin c name prompt files) hr).1
  rw [Nat.zero_add] at this
  exact ⟨this, hover⟩

theorem isValid_of_green {before : List Pass} {p : Pass} (hp : s.passes = before ++ [p])
    (hg : p.allGreen = true) (hst : s.state.status = .idle ∨ s.state.status = .healed) :
    s.isValid = true := by
  unfold isValid
  rcases hst with hst | hst
  · rw [hst, hp, List.getLast?_concat]
    exact hg
  · rw [hst]

theorem isValid_of_failed (hst : s.state.status = .failed) : s.isValid = false := by
  unfold isValid; rw [hst]

theorem isValid_of_cancelled (hst : s.state.status = .cancelled) : s.isValid = false := by
  unfold isValid; rw [hst]

/-- **A session says that its files are good only when they are.** -/
theorem certified_of_outcome (ho : Outcome c name prompt files es rs s) (hv : s.isValid = true) :
    Certified c s := by
  obtain ⟨hstand, hover⟩ := standing_of_outcome ho
  cases hstand with
  | @green before p _ _ hpassed hd _ hp hg hw _ =>
      -- each pass before the last one has a diagnosis, so none of them is green
      obtain ⟨files, hres⟩ := hpassed.results p (by rw [hp]; simp)
      obtain ⟨b, hb, hmade⟩ := hres.bundle_of_allGreen hg
      refine ⟨⟨before, p, files, hp, hres, hg, fun q hq => hd.allGreen_eq_false hq, hw⟩, b, ?_, ?_⟩
      · rw [bundle?, if_pos hv, hp, List.getLast?_concat]
        exact hb
      · rw [hw]
        exact hmade
  | checking hp => rw [hp] at hover; cases hover
  | regenerating hp => rw [hp] at hover; cases hover
  | exhausted _ _ _ _ _ _ hst => rw [isValid_of_failed hst] at hv; cases hv
  | cancelled _ _ _ _ _ _ hst => rw [isValid_of_cancelled hst] at hv; cases hv

/-- **A session that is over has one verdict and kept to its bound.** -/
theorem concluded_of_outcome (ho : Outcome c name prompt files es rs s) : Concluded c rs s := by
  obtain ⟨hstand, hover⟩ := standing_of_outcome ho
  cases hstand with
  | @green before p _ hch hpassed hd ha hp hg _ hst =>
      have hdone : s.state.status = .idle ∨ s.state.status = .healed := by
        rcases hst with ⟨hst, _⟩ | ⟨hst, _⟩
        · exact .inl hst
        · exact .inr hst
      have hv : s.isValid = true := isValid_of_green hp hg hdone
      have hlength : s.passes.length = s.diagnoses.length + if s.isValid then 1 else 0 := by
        rw [hp, List.length_append, hd.length_eq, hv]
        rfl
      have hmanual : s.needsManualFix = false := by
        rcases hdone with hst | hst <;> rw [needsManualFix, hst] <;> rfl
      have hfixed : (s.fixApplied.isSome = true ↔ s.state.status = .healed) ∧
          (s.fixApplied.isSome = true → s.fixApplied = s.diagnoses.getLast?.map (·.rootCause)) := by
        rcases hst with ⟨hst, _, hf⟩ | ⟨hst, d, hl, hf⟩
        · rw [hf, hst]; simp
        · rw [hf, hst, hl]; simp
      -- the last pass is green and has no diagnosis, so there is one pass more than diagnoses
      refine ⟨.inl ⟨hv, hdone, hmanual⟩, Nat.le_of_eq ha, hch.attempts_le, fun _ => ha, ?_,
        hfixed.1, hfixed.2, hlength, hpassed.ascending, hpassed.first⟩
      intro hf
      rcases hdone with hst | hst <;> rw [hst] at hf <;> cases hf
  | exhausted _ hch hpassed hd hf ha hst hmax =>
      have hv := isValid_of_failed hst
      refine ⟨.inr (.inl ⟨hv, hst, by rw [needsManualFix, hst]; rfl⟩), Nat.le_of_eq ha,
        hch.attempts_le, fun _ => ha, fun _ => ha.trans hmax, ?_, ?_, ?_, hpassed.ascending,
        hpassed.first⟩
      · rw [hf, hst]; simp
      · rw [hf]; simp
      · rw [hd.length_eq, hv]; rfl
  | cancelled _ hch hpassed hd hf ha hst =>
      have hv := isValid_of_cancelled hst
      refine ⟨.inr (.inr ⟨hv, hst, by rw [needsManualFix, hst]; rfl⟩), ha, hch.attempts_le,
        fun hne => absurd hst hne, ?_, ?_, ?_, ?_, hpassed.ascending, hpassed.first⟩
      · rw [hst]; intro h; cases h
      · rw [hf, hst]; simp
      · rw [hf]; simp
      · rw [hd.length_eq, hv]; rfl
  | checking hp => rw [hp] at hover; cases hover
  | regenerating hp => rw [hp] at hover; cases hover

/-- **A session takes whatever it meets.** -/
theorem ready_of_run (hr : Run c (begin c name prompt files) n es rs s) : Ready c s := by
  have hstand := (standing_run (standing_begin c name prompt files) hr).1
  refine ⟨?_, ?_, ?_⟩
  · intro hp p hres
    obtain ⟨t, es', ht, _⟩ := standing_onPass hstand hp hres
    exact ⟨_, ht⟩
  · intro d hp answer
    obtain ⟨t, es', ht, _⟩ := standing_onGenerated hstand hp answer
    exact ⟨_, ht⟩
  · intro hp during
    obtain ⟨t, es', ht, _⟩ := standing_onCalledOff hstand hp during
    exact ⟨_, ht⟩

/-- A run is not longer than two steps for each attempt and one for the first pass. -/
theorem length_of_run (hr : Run c (begin c name prompt files) n es rs s) :
    n ≤ 2 * c.heal.maxAttempts + 1 :=
  Nat.le_trans (Nat.le_add_right _ _) (standing_run (standing_begin c name prompt files) hr).2

end Session

namespace Heals

/-! ## Heals never certify what they did not check -/

/-- **No heal certifies files that were not checked.** This is so for every outcome of a session and for
every heal of every batch; and a pass that is not green is never taken for a green one, because each
stage that failed left an error. -/
theorem certified :
    (∀ (c : Config) (name prompt : String) (files : FileSet) (es : List HealEvent)
      (rs : List RegenerationRequest) (s : Session),
      Session.Outcome c name prompt files es rs s → s.isValid = true → s.Certified c) ∧
    (∀ (w : HealWorld) (x : HealShared) (batches : List (List String)) (s : Session),
      some (.ok s) ∈ (runBatches w x batches).1 → s.isValid = true → s.Certified w.config) ∧
    (∀ (c : Config) (attempt : Nat) (files : FileSet) (p : Pass),
      Pass.Result c attempt files (.ok p) →
        (p.diagnosis? = none ↔ p.allGreen = true) ∧
        p.errors.length = Pass.counted p.stages ∧
        ∀ r ∈ p.stages, r.outcome = .failed ↔ 0 < r.errorCount) := by
  refine ⟨?_, ?_, ?_⟩
  · intro c name prompt files es rs s ho hv
    exact Session.certified_of_outcome ho hv
  · intro w x batches s hs hv
    rcases outcome_of_mem_runBatches hs with ⟨e, he⟩ | ⟨name, es, rs, t, he, ho⟩
    · cases he
    · cases he
      exact Session.certified_of_outcome ho hv
  · intro c attempt files p hres
    have hb := hres.complete.balanced
    exact ⟨hb.diagnosis?_eq_none_iff, hb.errors_length, hb.failed_iff⟩

/-- An app that needs a style sheet and has none, and a generator that writes it. -/
def styleless : HealWorld where
  config := { analyzer := .heuristic, entry := some "a.css", bundle := { strategy := .fileMap } }
  browser := { page := fun _ => {} }
  prompt := "an app"
  files := .empty
  reply _ _ := { answer := .ok [.of "a.css" ""] }

/-- The first pass of this heal is not green and the second is. -/
theorem certified_styleless :
    ∃ s, some (.ok s) ∈ (runBatches styleless {} [["s"]]).1 ∧ s.isValid = true ∧
      s.passes.length = 2 ∧ s.Certified styleless.config := by
  have hrun : ((runBatches styleless {} [["s"]]).1.map fun r => r.map fun r =>
      r.toOption.map fun s => (s.isValid, s.passes.length)) = [some (some (true, 2))] := by
    decide +kernel
  obtain ⟨r, hr, hmap⟩ := List.mem_map.mp (hrun ▸ List.mem_singleton_self (some (some (true, 2))))
  obtain ⟨q, rfl, hok⟩ := Option.map_eq_some_iff.mp hmap
  cases q with
  | error => cases hok
  | ok s =>
      obtain ⟨hv, hl⟩ := Prod.mk.inj (Option.some.inj hok)
      exact ⟨s, hr, hv, hl, certified.2.1 styleless {} [["s"]] s hr hv⟩

/-! ## Heals end, with one verdict -/

/-- **Every heal of a session that is not busy ends with one verdict**, after no more requests than it
may make. Wherever a run of a session leads, the session takes whatever it meets next, and no run
goes on for ever; and when heals of several sessions run together, after any batches before, all of them
end with an outcome. -/
theorem concluded :
    (∀ (c : Config) (name prompt : String) (files : FileSet) (n : Nat) (es : List HealEvent)
      (rs : List RegenerationRequest) (s : Session),
      Session.Run c (Session.begin c name prompt files) n es rs s →
        s.Ready c ∧ n ≤ 2 * c.heal.maxAttempts + 1 ∧ (s.phase = .over → s.Concluded c rs)) ∧
    (∀ (w : HealWorld) (stopped : Bool) (before : List (List String)) (sessions : List String),
      sessions.Nodup →
      (∀ name ∈ sessions, (runBatches w { stopped } before).2.registry.isActive name = false) →
      ∃ ends : List Ended, ends.map (·.name) = sessions ∧
        (runBatch w (runBatches w { stopped } before).2 sessions).1
          = ends.map (fun e => some (.ok e.session)) ∧
        (runBatch w (runBatches w { stopped } before).2 sessions).2.requests.Perm
          (ends.flatMap (·.requests) ++ (runBatches w { stopped } before).2.requests) ∧
        ∀ e ∈ ends,
          Session.Outcome w.config e.name w.prompt w.files e.events e.requests e.session ∧
          e.session.Concluded w.config e.requests) := by
  refine ⟨?_, ?_⟩
  · intro c name prompt files n es rs s hr
    exact ⟨Session.ready_of_run hr, Session.length_of_run hr,
      fun hp => Session.concluded_of_outcome ⟨⟨n, hr⟩, hp⟩⟩
  · intro w stopped before sessions hd hfree
    obtain ⟨ends, hnames, hresults, hreq, hout⟩ :=
      ended_runBatch (waiting_runBatches w before rfl) hd hfree
    exact ⟨ends, hnames, hresults, hreq,
      fun e he => ⟨hout e he, Session.concluded_of_outcome (hout e he)⟩⟩

/-- Two heals of this app, after one that ended, both end with a verdict. -/
theorem concluded_styleless :
    ∃ ends : List Ended, ends.map (·.name) = ["s", "t"] ∧
      (runBatch styleless (runBatches styleless {} [["s"]]).2 ["s", "t"]).1
        = ends.map (fun e => some (.ok e.session)) ∧
      ∀ e ∈ ends, e.session.Concluded styleless.config e.requests := by
  have hfree : ∀ name ∈ ["s", "t"],
      (runBatches styleless {} [["s"]]).2.registry.isActive name = false := by
    decide +kernel
  obtain ⟨ends, hnames, hresults, _, hout⟩ :=
    concluded.2 styleless false [["s"]] ["s", "t"] (by decide) hfree
  exact ⟨ends, hnames, hresults, fun e he => (hout e he).2⟩

end Heals

end AppMend
