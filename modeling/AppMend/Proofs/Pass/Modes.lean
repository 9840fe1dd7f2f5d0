import AppMend.Proofs.Pass.Gates

/-!
# The two modes of a pass

A fail-fast pass stops at the first stage that fails, a comprehensive one goes on. What is recorded is
never changed by what comes after it (`Extends`). So both say the same of the files up to the first
failure, and a pass that goes on after a failure only adds to it (`same_verdict`).
-/

namespace AppMend.Pass

variable {c : Config} {b : Browser} {s : Preview.Service} {attempt : Nat} {files : FileSet}
  {p q t : Pass} {rs qs : List StageResult} {stage : Stage}

/-- Some results up to the first failure, and that failure. -/
def upToFailure : List StageResult → List StageResult
  | [] => []
  | r :: rs => if r.outcome = .failed then [r] else r :: upToFailure rs

/-- What comes after a failure is of no account. -/
theorem upToFailure_append (h : ∃ r ∈ rs, r.outcome = .failed) :
    upToFailure (rs ++ qs) = upToFailure rs := by
  induction rs with
  | nil => simp at h
  | cons r rs ih =>
      rw [List.cons_append, upToFailure, upToFailure]
      split
      · rfl
      · rename_i hr
        obtain ⟨q, hq, ho⟩ := h
        rcases List.mem_cons.mp hq with rfl | hq
        · exact absurd ho hr
        · rw [ih ⟨q, hq, ho⟩]

/-! ## What a pass adds -/

/-- That a pass has come from another one: it has the same files, and it kept what was recorded. -/
structure Extends (p q : Pass) : Prop where
  files_eq : q.files = p.files
  stages : p.stages <+: q.stages
  errors : p.errors <+: q.errors

theorem Extends.trans (h : Extends p q) (h' : Extends q t) : Extends p t where
  files_eq := h'.files_eq.trans h.files_eq
  stages := h.stages.trans h'.stages
  errors := h.errors.trans h'.errors

theorem extends_skipFrom (p : Pass) (stage : Stage) : Extends p (p.skipFrom stage) :=
  ⟨rfl, List.prefix_append _ _, List.prefix_refl _⟩

theorem extends_finish (p : Pass) (entry : String) (answer : Except PreviewFailure Verdict) :
    Extends p (p.finish entry answer) :=
  ⟨rfl, List.prefix_append _ _, List.prefix_append _ _⟩

theorem extends_checked (c : Config) (attempt : Nat) (files : FileSet) :
    Extends (structured c attempt files) (checked c attempt files) :=
  ⟨rfl, List.prefix_append _ _, List.prefix_append _ _⟩

theorem extends_bundled (c : Config) (attempt : Nat) (files : FileSet) :
    Extends (checked c attempt files) (bundled c attempt files) := by
  cases h : c.bundle.bundle (checked c attempt files).files c.entry with
  | ok a =>
      rw [bundled, makeBundle_of_ok h]
      exact ⟨rfl, List.prefix_append _ _, List.prefix_append _ _⟩
  | error e =>
      rw [bundled, makeBundle_of_error h]
      exact ⟨rfl, List.prefix_append _ _, List.prefix_append _ _⟩

/-- **A comprehensive pass goes through its first three stages**, whatever they find. -/
theorem extends_of_comprehensive (hm : c.mode = .comprehensive) (h : Result c attempt files (.ok p)) :
    Extends (bundled c attempt files) p := by
  have hgoes (t : Pass) : t.stops c = false := by simp [stops, hm]
  cases h with
  | unrendered h =>
      cases ending_of_upToPreview h with
      | atStructure hs => rw [hgoes] at hs; cases hs
      | atQuality _ hq => rw [hgoes] at hq; cases hq
      | atBundle | atPreview => exact extends_skipFrom _ _
  | rendered answer h =>
      cases ending_of_upToPreview h with
      | rendering => exact extends_finish _ _ answer

/-! ## Two passes -/

/-- That two passes say the same, though the second one may have more to say after the first failure. -/
structure Agree (p q : Pass) : Prop where
  allGreen_eq : p.allGreen = q.allGreen
  files_eq : p.files = q.files
  upToFailure_eq : upToFailure p.stages = upToFailure q.stages
  errors_prefix : p.errors <+: q.errors

theorem agree_refl (p : Pass) : Agree p p := ⟨rfl, rfl, rfl, List.prefix_refl _⟩

theorem Extends.hasFailed (h : Extends p q) (hp : p.hasFailed = true) : q.hasFailed = true := by
  obtain ⟨r, hr, ho⟩ := List.any_eq_true.mp hp
  exact List.any_eq_true.mpr ⟨r, h.stages.subset hr, ho⟩

theorem Extends.upToFailure_eq (h : Extends p q) (hp : p.hasFailed = true) :
    upToFailure q.stages = upToFailure p.stages := by
  obtain ⟨r, hr, ho⟩ := List.any_eq_true.mp hp
  obtain ⟨rest, hrest⟩ := h.stages
  rw [← hrest, upToFailure_append ⟨r, hr, by simpa using ho⟩]

/-- **A pass that stops at a failure agrees with one that goes on from there.** -/
theorem agree_of_extends (hp : p.hasFailed = true) (h : Extends p q) (stage : Stage) :
    Agree (p.skipFrom stage) q where
  allGreen_eq := by
    rw [allGreen_of_hasFailed (h.hasFailed hp),
      allGreen_of_hasFailed ((hasFailed_skipFrom p stage).trans hp)]
  files_eq := h.files_eq.symm
  upToFailure_eq := by
    rw [(extends_skipFrom p stage).upToFailure_eq hp, h.upToFailure_eq hp]
  errors_prefix := h.errors

/-! ## Two runs -/

/-- A run on an idle browser that is not called off comes to its end. -/
theorem exists_run_ok (c : Config) (attempt : Nat) (files : FileSet) (hidle : s.waiting = [])
    (hoff : s.calledOff = false) (hpage : ∀ document, (b.page document).cancels = false) :
    ∃ p, (run c b false attempt files s).1 = .ok p := by
  cases h : (run c b false attempt files s).1 with
  | ok p => exact ⟨p, rfl⟩
  | error stage =>
      rcases calledOff_of_run hidle h with hbefore | hservice | ⟨code, entry, hcancels⟩
      · cases hbefore
      · rw [hoff] at hservice; cases hservice
      · rw [hpage] at hcancels; cases hcancels

theorem run_of_over {off : Bool} (h : upToPreview c (fun _ => off) attempt files = .ok (.over p)) :
    (run c b off attempt files s).1 = .ok p := by
  unfold run
  rw [h]

theorem run_stopped_at_structure (hm : c.mode = .failFast)
    (hf : (structured c attempt files).hasFailed = true) :
    (run c b false attempt files s).1 = .ok ((structured c attempt files).skipFrom .quality) := by
  refine run_of_over ?_
  rw [upToPreview_eq]
  simp [stops, hm, hf]

theorem run_stopped_at_quality (hm : c.mode = .failFast)
    (hs : (structured c attempt files).hasFailed = false)
    (hf : (checked c attempt files).hasFailed = true) :
    (run c b false attempt files s).1 = .ok ((checked c attempt files).skipFrom .bundle) := by
  refine run_of_over ?_
  rw [upToPreview_eq]
  simp [stops, hm, hs, hf]

/-- Where nothing fails before the bundle, the mode makes no difference. -/
theorem run_congr_mode (m : RunMode) (hs : (structured c attempt files).hasFailed = false)
    (hq : (checked c attempt files).hasFailed = false) :
    (run { c with mode := m } b false attempt files s).1 = (run c b false attempt files s).1 := by
  have hup : upToPreview { c with mode := m } (fun _ => false) attempt files =
      upToPreview c (fun _ => false) attempt files := by
    have hs' : (structured { c with mode := m } attempt files).hasFailed = false := hs
    have hq' : (checked { c with mode := m } attempt files).hasFailed = false := hq
    rw [upToPreview_eq, upToPreview_eq]
    simp only [stops, hs, hq, hs', hq', Bool.and_false]
    rfl
  unfold run
  rw [hup]

/-- **Both modes come to the same verdict.** On an idle browser and not called off, a pass comes to its end
in either mode. Both passes are green or none is, they end with the same files, and they have the same
results up to the first failure. The errors of the fail-fast pass are the first ones of the other. -/
theorem same_verdict (c : Config) (b : Browser) (attempt : Nat) (files : FileSet) (s : Preview.Service)
    (hidle : s.waiting = []) (hoff : s.calledOff = false)
    (hpage : ∀ document, (b.page document).cancels = false) :
    ∃ p q, (run { c with mode := .failFast } b false attempt files s).1 = .ok p ∧
      (run { c with mode := .comprehensive } b false attempt files s).1 = .ok q ∧ Agree p q := by
  obtain ⟨q, hq⟩ := exists_run_ok { c with mode := .comprehensive } attempt files hidle hoff hpage
  have hresult := result_run { c with mode := .comprehensive } b false attempt files s
  rw [hq] at hresult
  -- what the first three stages do is the same in both modes
  have hbundled : Extends (bundled c attempt files) q :=
    show Extends (bundled { c with mode := .comprehensive } attempt files) q from
      extends_of_comprehensive rfl hresult
  have hchecked : Extends (checked c attempt files) q := (extends_bundled c attempt files).trans hbundled
  -- on how far the fail-fast pass gets
  cases hs : (structured c attempt files).hasFailed with
  | true =>
      have hp := run_stopped_at_structure (c := { c with mode := .failFast }) (b := b) (s := s) rfl hs
      have hstructured := (extends_checked c attempt files).trans hchecked
      exact ⟨_, q, hp, hq, agree_of_extends hs hstructured .quality⟩
  | false =>
      cases hf : (checked c attempt files).hasFailed with
      | true =>
          have hp := run_stopped_at_quality (c := { c with mode := .failFast }) (b := b) (s := s) rfl hs hf
          exact ⟨_, q, hp, hq, agree_of_extends hf hchecked .bundle⟩
      | false =>
          rw [run_congr_mode .comprehensive hs hf] at hq
          exact ⟨q, q, by rw [run_congr_mode .failFast hs hf, hq], by
            rw [run_congr_mode .comprehensive hs hf, hq], agree_refl q⟩

/-- An app with a fault that keeps it from being bundled. -/
def faultInside : FileSet := .ofContents [("main.tsx", "import './u';\n'\n"), ("u.ts", "")]

/-- The comprehensive pass finds the fault twice, the fail-fast one once. -/
theorem same_verdict_faultInside :
    ∃ p q, (run { comprehensive with mode := .failFast } (browserThat false) false 0 faultInside
        {}).1 = .ok p ∧
      (run { comprehensive with mode := .comprehensive } (browserThat false) false 0 faultInside
        {}).1 = .ok q ∧
      Agree p q ∧ p.stages.map (·.outcome) = [.failed, .skipped, .skipped, .skipped] ∧
      p.errors.length = 1 ∧ q.stages.map (·.outcome) = [.failed, .passed, .failed, .skipped] ∧
      q.errors.length = 2 := by
  obtain ⟨p, q, hp, hq, hagree⟩ :=
    same_verdict comprehensive (browserThat false) 0 faultInside {} rfl rfl fun _ => rfl
  have hpmade : (run { comprehensive with mode := .failFast } (browserThat false) false 0 faultInside
      {}).1.toOption.map (fun p => (p.stages.map (·.outcome), p.errors.length)) =
        some ([.failed, .skipped, .skipped, .skipped], 1) := by decide +kernel
  have hqmade : (run { comprehensive with mode := .comprehensive } (browserThat false) false 0 faultInside
      {}).1.toOption.map (fun p => (p.stages.map (·.outcome), p.errors.length)) =
        some ([.failed, .passed, .failed, .skipped], 2) := by decide +kernel
  rw [hp] at hpmade
  rw [hq] at hqmade
  obtain ⟨hpstages, hperrors⟩ := Prod.mk.inj (Option.some.inj hpmade)
  obtain ⟨hqstages, hqerrors⟩ := Prod.mk.inj (Option.some.inj hqmade)
  exact ⟨p, q, hp, hq, hagree, hpstages, hperrors, hqstages, hqerrors⟩

end AppMend.Pass
