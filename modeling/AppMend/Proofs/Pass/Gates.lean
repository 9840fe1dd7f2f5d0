import AppMend.Pass
import AppMend.Proofs.Bundle.Closure
import AppMend.Proofs.Pass.Result
import AppMend.Proofs.Preview.Alone

/-!
# Which stages a pass goes through

A pass records each of its four stages once, in their order. It goes on from a stage that failed only if
it is comprehensive, and then only a preview that has nothing to show is skipped. What a stage adds to
the record is stated once for all stages (`Ran.record`), and once for what is skipped (`gates_skipFrom`);
the places where a pass stops differ only in what they use of it.

`Gated` says all that can be read off a pass that came to its end, and `gated_of_result` that every pass
is so, whenever it is called off and whatever the browser shows.
-/

namespace AppMend.Pass

variable {c : Config} {b : Browser} {s : Preview.Service} {off : Bool} {attempt : Nat} {files : FileSet}
  {p p' : Pass} {r : StageResult} {rs : List StageResult} {stages : List Stage} {stage : Stage}

/-! ## What a run comes to -/

/-- Where a pass looks whether it is called off, it is, or it goes on. -/
theorem off_or_of_check {off : Stage → Bool} {here : Stage} {r : Except Stage Progress}
    (h : (if off here then .error here else r) = .error stage) : off stage = true ∨ r = .error stage := by
  split at h
  · rename_i ho
    cases h
    exact .inl ho
  · exact .inr h

/-- Where a pass is over, it is not called off. -/
theorem error_of_stop {isOver : Bool} {progress : Progress} {r : Except Stage Progress}
    (h : (if isOver then .ok progress else r) = .error stage) : r = .error stage := by
  split at h
  · cases h
  · exact h

theorem calledOff_of_upToPreview {off : Stage → Bool}
    (h : upToPreview c off attempt files = .error stage) : off stage = true := by
  rw [upToPreview_eq] at h
  -- it looks before each stage, and may be over after each
  rcases off_or_of_check h with ho | h
  · exact ho
  rcases off_or_of_check (error_of_stop h) with ho | h
  · exact ho
  rcases off_or_of_check (error_of_stop h) with ho | h
  · exact ho
  rcases off_or_of_check (error_of_stop h) with ho | h
  · exact ho
  split at h <;> cases h

/-- A run of a pass comes to what a pass can come to. -/
theorem result_run (c : Config) (b : Browser) (off : Bool) (attempt : Nat) (files : FileSet)
    (s : Preview.Service) : Result c attempt files (run c b off attempt files s).1 := by
  unfold run
  split
  · rename_i h
    exact .calledOff h
  · rename_i h
    exact .unrendered h
  · rename_i h
    split
    · exact .rendered _ h
    · exact .abandoned h

/-- **With the browser idle, a run is given up only if it is called off**: before, or by the page that it
renders. -/
theorem calledOff_of_run (hidle : s.waiting = []) (h : (run c b off attempt files s).1 = .error stage) :
    off = true ∨ s.calledOff = true ∨
      ∃ code entry, (b.page (Preview.harnessPage c.preview code entry)).cancels = true := by
  unfold run at h
  split at h
  · rename_i hu
    exact .inl (calledOff_of_upToPreview hu)
  · cases h
  · rename_i p code entry hu
    obtain ⟨standing, s', hcalls, _, hend⟩ := Preview.Service.runCalls_alone c.preview b code entry hidle
    rw [hcalls] at h
    rcases hend with ⟨outcome, rfl⟩ | ⟨_, hoff | hpage⟩
    · cases h
    · exact .inr (.inl hoff)
    · exact .inr (.inr ⟨code, entry, hpage⟩)

/-- A run leaves the browser idle. -/
theorem waiting_run (c : Config) (b : Browser) (off : Bool) (attempt : Nat) (files : FileSet)
    (hidle : s.waiting = []) : (run c b off attempt files s).2.waiting = [] := by
  unfold run
  split
  · exact hidle
  · exact hidle
  · rename_i p code entry hu
    obtain ⟨standing, s', hcalls, hidle', hend⟩ :=
      Preview.Service.runCalls_alone c.preview b code entry hidle
    rw [hcalls]
    rcases hend with ⟨outcome, rfl⟩ | ⟨rfl, _⟩
    · exact hidle'
    · exact hidle'

/-! ## What stages record -/

theorem stages_structured (c : Config) (attempt : Nat) (files : FileSet) : ∃ r,
    (structured c attempt files).stages = [r] ∧ r.stage = .structural ∧
    r.outcome = .of (Check.reviewSyntax c.analyzer files).isValid
      (Check.reviewSyntax c.analyzer files).findings.isEmpty :=
  ⟨_, rfl, rfl, rfl⟩

theorem stages_checked (c : Config) (attempt : Nat) (files : FileSet) : ∃ r,
    (checked c attempt files).stages = (structured c attempt files).stages ++ [r] ∧
    r.stage = .quality ∧
    r.outcome = .of (Check.reviewQuality c.analyzer c.rules (structured c attempt files).files).isValid
      (Check.reviewQuality c.analyzer c.rules (structured c attempt files).files).findings.isEmpty :=
  ⟨_, rfl, rfl, rfl⟩

theorem makeBundle_of_ok {a : BundleArtifact} (h : c.bundle.bundle p.files c.entry = .ok a) :
    makeBundle c p =
      { { p with entryPoint := (c.bundle.detectEntry p.files c.entry).toOption }.record
          { stage := .bundle, outcome := .passed } [] with bundle := some a } := by
  unfold makeBundle
  simp only [h]

theorem makeBundle_of_error {e : BundleFailure} (h : c.bundle.bundle p.files c.entry = .error e) :
    makeBundle c p =
      { { p with entryPoint := (c.bundle.detectEntry p.files c.entry).toOption }.record
          { stage := .bundle, outcome := .failed, errorCount := 1 } [.ofBundleError e.report] with
        bundleError := some e.report } := by
  unfold makeBundle
  simp only [h]

/-- Bundling fails exactly if there is no bundle. -/
theorem stages_bundled (c : Config) (attempt : Nat) (files : FileSet) : ∃ r,
    (bundled c attempt files).stages = (checked c attempt files).stages ++ [r] ∧
    r.stage = .bundle ∧
    r.outcome = if (bundled c attempt files).bundle.isNone then .failed else .passed := by
  cases h : c.bundle.bundle (checked c attempt files).files c.entry with
  | ok a =>
      rw [bundled, makeBundle_of_ok h]
      exact ⟨_, rfl, rfl, rfl⟩
  | error e =>
      rw [bundled, makeBundle_of_error h]
      exact ⟨_, rfl, rfl, rfl⟩

theorem stages_finish (p : Pass) (entry : String) (answer : Except PreviewFailure Verdict) :
    ∃ r, (p.finish entry answer).stages = p.stages ++ [r] ∧ r.stage = .preview ∧
      r.outcome = .of (verdictOf entry answer).isValid (verdictOf entry answer).warnings.isEmpty :=
  ⟨_, rfl, rfl, rfl⟩

theorem of_ne_skipped (isValid isQuiet : Bool) : StageOutcome.of isValid isQuiet ≠ .skipped := by
  cases isValid <;> cases isQuiet <;> decide

/-- That some results are those of these stages, each of which was run. -/
structure Ran (stages : List Stage) (rs : List StageResult) : Prop where
  stages_eq : rs.map (·.stage) = stages
  ne_skipped : ∀ r ∈ rs, r.outcome ≠ .skipped

theorem Ran.snoc (h : Ran stages rs) (hs : r.stage = stage) (ho : r.outcome ≠ .skipped) :
    Ran (stages ++ [stage]) (rs ++ [r]) where
  stages_eq := by rw [List.map_append, h.stages_eq, List.map_singleton, hs]
  ne_skipped := by
    intro q hq
    rcases List.mem_append.mp hq with hq | hq
    · exact h.ne_skipped q hq
    · rwa [List.mem_singleton.mp hq]

theorem ran_structured : Ran [.structural] (structured c attempt files).stages := by
  obtain ⟨r, hr, hs, ho⟩ := stages_structured c attempt files
  rw [hr]
  have hnone : Ran [] [] := ⟨rfl, by simp⟩
  exact hnone.snoc hs (ho ▸ of_ne_skipped _ _)

theorem ran_checked : Ran [.structural, .quality] (checked c attempt files).stages := by
  obtain ⟨r, hr, hs, ho⟩ := stages_checked c attempt files
  rw [hr]
  exact ran_structured.snoc hs (ho ▸ of_ne_skipped _ _)

theorem ran_bundled : Ran [.structural, .quality, .bundle] (bundled c attempt files).stages := by
  obtain ⟨r, hr, hs, ho⟩ := stages_bundled c attempt files
  rw [hr]
  refine ran_checked.snoc hs ?_
  rw [ho]
  split <;> decide

theorem ran_finish (entry : String) (answer : Except PreviewFailure Verdict) :
    Ran Stage.all ((bundled c attempt files).finish entry answer).stages := by
  obtain ⟨r, hr, hs, ho⟩ := stages_finish (bundled c attempt files) entry answer
  rw [hr]
  exact ran_bundled.snoc hs (ho ▸ of_ne_skipped _ _)

/-! ## What failed -/

theorem hasFailed_eq_false_iff : p.hasFailed = false ↔ ∀ r ∈ p.stages, r.outcome ≠ .failed := by
  simp [hasFailed]

theorem hasFailed_snoc (h : p'.stages = p.stages ++ [r]) :
    p'.hasFailed = (p.hasFailed || r.outcome == .failed) := by
  simp [hasFailed, h]

theorem of_beq_failed (isValid isQuiet : Bool) :
    (StageOutcome.of isValid isQuiet == .failed) = !isValid := by
  cases isValid <;> cases isQuiet <;> decide

theorem hasFailed_structured : (structured c attempt files).hasFailed =
    !(Check.reviewSyntax c.analyzer files).isValid := by
  obtain ⟨r, hr, _, ho⟩ := stages_structured c attempt files
  simp [hasFailed, hr, ho, of_beq_failed]

theorem hasFailed_checked : (checked c attempt files).hasFailed =
    ((structured c attempt files).hasFailed ||
      !(Check.reviewQuality c.analyzer c.rules (structured c attempt files).files).isValid) := by
  obtain ⟨r, hr, _, ho⟩ := stages_checked c attempt files
  rw [hasFailed_snoc hr, ho, of_beq_failed]

theorem hasFailed_bundled : (bundled c attempt files).hasFailed =
    ((checked c attempt files).hasFailed || (bundled c attempt files).bundle.isNone) := by
  obtain ⟨r, hr, _, ho⟩ := stages_bundled c attempt files
  rw [hasFailed_snoc hr, ho]
  cases (bundled c attempt files).bundle.isNone <;> rfl

theorem hasFailed_finish (p : Pass) (entry : String) (answer : Except PreviewFailure Verdict) :
    (p.finish entry answer).hasFailed = (p.hasFailed || !(verdictOf entry answer).isValid) := by
  obtain ⟨r, hr, _, ho⟩ := stages_finish p entry answer
  rw [hasFailed_snoc hr, ho, of_beq_failed]

/-- In fail-fast mode a pass that goes on has not failed. -/
theorem hasFailed_of_not_stops (hm : c.mode = .failFast) (h : p.stops c = false) :
    p.hasFailed = false := by
  unfold stops at h
  rw [hm] at h
  simpa using h

/-! ## What comes after a failure -/

/-- That everything after a failure is skipped. -/
def Halted (rs : List StageResult) : Prop :=
  rs.Pairwise fun r q => r.outcome = .failed → q.outcome = .skipped

/-- A stage is run after stages that did not fail. -/
theorem halted_snoc (h : p'.stages = p.stages ++ [r]) (hp : p.hasFailed = false) : Halted p'.stages := by
  have hne := hasFailed_eq_false_iff.mp hp
  rw [h]
  refine List.pairwise_append.mpr ⟨?_, List.pairwise_singleton _ _, ?_⟩
  · exact List.pairwise_of_forall_mem_list fun q hq _ _ hf => absurd hf (hne q hq)
  · exact fun q hq _ _ hf => absurd hf (hne q hq)

theorem Halted.skipFrom (h : Halted p.stages) (stage : Stage) : Halted (p.skipFrom stage).stages := by
  refine List.pairwise_append.mpr ⟨h, ?_, ?_⟩
  · exact List.pairwise_map.mpr (List.pairwise_of_forall fun _ _ _ => rfl)
  · intro _ _ q hq _
    obtain ⟨t, _, rfl⟩ := List.mem_map.mp hq
    rfl

/-! ## Which stages are there -/

/-- What is known of the stages of a pass that came to its end. -/
structure Gates (c : Config) (p : Pass) : Prop where
  stages_eq : p.stages.map (·.stage) = Stage.all
  halted : c.mode = .failFast → Halted p.stages
  comprehensive : c.mode = .comprehensive → ∀ r ∈ p.stages, r.outcome = .skipped → r.stage = .preview
  skipped : ∀ r ∈ p.stages, r.outcome = .skipped → p.hasFailed = true ∨
    ∃ a, p.bundle = some a ∧ a.strategy = .fileMap

/-- **A pass that stops before a stage.** -/
theorem gates_skipFrom (hran : Ran stages p.stages) (hall : stages ++ stage.andLater = Stage.all)
    (hhalted : c.mode = .failFast → Halted p.stages)
    (hcomp : c.mode = .comprehensive → stage = .preview)
    (hstop : p.hasFailed = true ∨ ∃ a, p.bundle = some a ∧ a.strategy = .fileMap) :
    Gates c (p.skipFrom stage) where
  stages_eq := by
    show (p.stages ++ _).map (·.stage) = _
    rw [List.map_append, hran.stages_eq, List.map_map, ← hall]
    exact congrArg (stages ++ ·) (List.map_id _)
  halted := fun hm => (hhalted hm).skipFrom stage
  comprehensive := by
    intro hm r hr ho
    rcases List.mem_append.mp hr with hr | hr
    · exact absurd ho (hran.ne_skipped r hr)
    · obtain ⟨t, ht, rfl⟩ := List.mem_map.mp hr
      rw [hcomp hm] at ht
      exact List.mem_singleton.mp ht
  skipped := by
    intro _ _ _
    rw [hasFailed_skipFrom]
    exact hstop

/-- **A pass that stops nowhere.** -/
theorem gates_of_ran (hran : Ran Stage.all p.stages) (hhalted : c.mode = .failFast → Halted p.stages) :
    Gates c p where
  stages_eq := hran.stages_eq
  halted := hhalted
  comprehensive := fun _ r hr ho => absurd ho (hran.ne_skipped r hr)
  skipped := fun r hr ho => absurd ho (hran.ne_skipped r hr)

theorem halted_structured : Halted (structured c attempt files).stages := by
  obtain ⟨r, hr, _⟩ := stages_structured c attempt files
  exact halted_snoc (p := { attempt, files }) hr rfl

theorem halted_checked (h : (structured c attempt files).hasFailed = false) :
    Halted (checked c attempt files).stages := by
  obtain ⟨r, hr, _⟩ := stages_checked c attempt files
  exact halted_snoc hr h

theorem halted_bundled (h : (checked c attempt files).hasFailed = false) :
    Halted (bundled c attempt files).stages := by
  obtain ⟨r, hr, _⟩ := stages_bundled c attempt files
  exact halted_snoc hr h

/-- The bundle of a pass that has no script to show is its files. -/
theorem strategy_of_script? {a : BundleArtifact} (ha : p.bundle = some a) (h : p.script? = none) :
    a.strategy = .fileMap := by
  unfold script? at h
  rw [ha] at h
  unfold BundleArtifact.code? at h
  unfold BundleArtifact.strategy
  cases ho : a.output with
  | script code => simp [ho] at h
  | fileMap => rfl

/-- **Wherever a pass stops, the stages are those that it should have.** -/
theorem Ending.gates (h : Ending c attempt files (.over p)) : Gates c p := by
  cases h with
  | atStructure hs =>
      refine gates_skipFrom ran_structured rfl (fun _ => halted_structured) ?_
        (.inl (hasFailed_of_stops hs))
      intro hm
      simp [stops, hm] at hs
  | atQuality hs hq =>
      refine gates_skipFrom ran_checked rfl (fun hm => ?_) ?_ (.inl (hasFailed_of_stops hq))
      · exact halted_checked (hasFailed_of_not_stops hm hs)
      · intro hm
        simp [stops, hm] at hq
  | atBundle _ hq hb =>
      refine gates_skipFrom ran_bundled rfl (fun hm => ?_) (fun _ => rfl) (.inl (makeBundle_hasFailed hb))
      exact halted_bundled (hasFailed_of_not_stops hm hq)
  | atPreview _ hq hb hscript =>
      refine gates_skipFrom ran_bundled rfl (fun hm => ?_) (fun _ => rfl)
        (.inr ⟨_, hb, strategy_of_script? hb hscript⟩)
      exact halted_bundled (hasFailed_of_not_stops hm hq)

theorem Ending.gates_finish {code entry : String} (h : Ending c attempt files (.toRender p code entry))
    (answer : Except PreviewFailure Verdict) : Gates c (p.finish entry answer) := by
  cases h with
  | rendering _ hq hb _ =>
      refine gates_of_ran (ran_finish entry answer) fun hm => ?_
      have hf : (bundled c attempt files).hasFailed = false := by
        rw [hasFailed_bundled, hasFailed_of_not_stops hm hq, hb]
        rfl
      obtain ⟨r, hr, _⟩ := stages_finish (bundled c attempt files) entry answer
      exact halted_snoc hr hf

/-! ## What is there in the end -/

/-- The results of a pass that is green, all of them there and valid. -/
def Whole (p : Pass) : Prop :=
  ∃ a r q, p.bundle = some a ∧ p.structural = some r ∧ r.isValid = true ∧
    p.quality = some q ∧ q.isValid = true ∧
    (a.strategy = .script → ∃ v, p.preview = some v ∧ v.isValid = true)

theorem reviews_bundled (c : Config) (attempt : Nat) (files : FileSet) :
    (bundled c attempt files).structural = some (Check.reviewSyntax c.analyzer files) ∧
      (bundled c attempt files).quality =
        some (Check.reviewQuality c.analyzer c.rules (structured c attempt files).files) := by
  cases h : c.bundle.bundle (checked c attempt files).files c.entry with
  | ok a =>
      rw [bundled, makeBundle_of_ok h]
      exact ⟨rfl, rfl⟩
  | error e =>
      rw [bundled, makeBundle_of_error h]
      exact ⟨rfl, rfl⟩

/-- There is a bundle or the reason why there is none, and not both. -/
theorem exclusive_bundled (c : Config) (attempt : Nat) (files : FileSet) :
    (bundled c attempt files).bundle = none ∨ (bundled c attempt files).bundleError = none := by
  cases h : c.bundle.bundle (checked c attempt files).files c.entry with
  | ok a =>
      rw [bundled, makeBundle_of_ok h]
      exact .inr rfl
  | error e =>
      rw [bundled, makeBundle_of_error h]
      exact .inl rfl

/-- What went well up to the bundle is there and valid. -/
theorem whole_of_bundled {a : BundleArtifact} (hf : (bundled c attempt files).hasFailed = false)
    (ha : (bundled c attempt files).bundle = some a) (hb : p.bundle = (bundled c attempt files).bundle)
    (hs : p.structural = (bundled c attempt files).structural)
    (hq : p.quality = (bundled c attempt files).quality)
    (hv : a.strategy = .script → ∃ v, p.preview = some v ∧ v.isValid = true) : Whole p := by
  obtain ⟨hstructural, hquality⟩ := reviews_bundled c attempt files
  rw [hasFailed_bundled, hasFailed_checked, hasFailed_structured] at hf
  simp only [Bool.or_eq_false_iff, Bool.not_eq_false'] at hf
  exact ⟨a, _, _, hb.trans ha, hs.trans hstructural, hf.1.1, hq.trans hquality, hf.1.2, hv⟩

theorem Ending.whole (h : Ending c attempt files (.over p)) (hf : p.hasFailed = false) : Whole p := by
  cases h with
  | atStructure hs =>
      rw [hasFailed_skipFrom, hasFailed_of_stops hs] at hf
      cases hf
  | atQuality _ hq =>
      rw [hasFailed_skipFrom, hasFailed_of_stops hq] at hf
      cases hf
  | atBundle _ _ hb =>
      rw [hasFailed_skipFrom, show (bundled c attempt files).hasFailed = true from
        makeBundle_hasFailed hb] at hf
      cases hf
  | atPreview _ _ hb hscript =>
      rw [hasFailed_skipFrom] at hf
      refine whole_of_bundled hf hb rfl rfl rfl fun hs => ?_
      rw [strategy_of_script? hb hscript] at hs
      cases hs

theorem Ending.whole_finish {code entry : String} {answer : Except PreviewFailure Verdict}
    (h : Ending c attempt files (.toRender p code entry))
    (hf : (p.finish entry answer).hasFailed = false) : Whole (p.finish entry answer) := by
  cases h with
  | rendering _ _ hb _ =>
      rw [hasFailed_finish, Bool.or_eq_false_iff] at hf
      refine whole_of_bundled hf.1 hb rfl rfl rfl fun _ => ⟨verdictOf entry answer, rfl, ?_⟩
      simpa using hf.2

/-- What a pass has in the end of its bundle: it, or the reason why there is none, or neither. -/
structure Packed (c : Config) (p : Pass) : Prop where
  exclusive : p.bundle = none ∨ p.bundleError = none
  strategy : ∀ a, p.bundle = some a → a.strategy = c.bundle.strategy

theorem packed_bundled : Packed c (bundled c attempt files) where
  exclusive := exclusive_bundled c attempt files
  strategy := fun _ ha => BundleConfig.strategy_of_bundle (bundle_bundled ha)

theorem Ending.packed (h : Ending c attempt files (.over p)) : Packed c p := by
  cases h with
  | atStructure | atQuality => exact ⟨.inl rfl, fun _ ha => by cases ha⟩
  | atBundle | atPreview => exact ⟨packed_bundled.exclusive, packed_bundled.strategy⟩

theorem Ending.packed_finish {code entry : String} (answer : Except PreviewFailure Verdict)
    (h : Ending c attempt files (.toRender p code entry)) : Packed c (p.finish entry answer) := by
  cases h with
  | rendering => exact ⟨packed_bundled.exclusive, packed_bundled.strategy⟩

/-! ## Gates -/

/-- All that can be read off a pass that came to its end. -/
structure Gated (c : Config) (p : Pass) : Prop extends Gates c p, Packed c p where
  failed_iff : ∀ r ∈ p.stages, r.outcome = .failed ↔ 0 < r.errorCount
  /-- There are as many errors as the stages count together. -/
  errors_length : p.errors.length = counted p.stages
  allGreen_iff : p.allGreen = true ↔ p.errors = []
  errors_eq_nil_iff : p.errors = [] ↔ ∀ r ∈ p.stages, r.outcome ≠ .failed
  whole : p.allGreen = true → Whole p

theorem gated_of_balanced (hb : Balanced p) (hg : Gates c p) (hp : Packed c p)
    (hw : p.hasFailed = false → Whole p) : Gated c p where
  toGates := hg
  toPacked := hp
  failed_iff := hb.failed_iff
  errors_length := hb.errors_length
  allGreen_iff := hb.allGreen_iff
  errors_eq_nil_iff := by
    rw [← hasFailed_eq_false_iff, ← Bool.not_eq_true, hb.hasFailed_iff, ne_eq, Classical.not_not]
  whole := by
    intro h
    refine hw ?_
    unfold allGreen at h
    simpa using (Bool.and_eq_true_iff.mp h).1

theorem gated_of_result (h : Result c attempt files (.ok p)) : Gated c p := by
  have hb := h.complete.balanced
  cases h with
  | unrendered h =>
      have he := ending_of_upToPreview h
      exact gated_of_balanced hb he.gates he.packed he.whole
  | rendered answer h =>
      have he := ending_of_upToPreview h
      exact gated_of_balanced hb (he.gates_finish answer) (he.packed_finish answer) he.whole_finish

/-- **Every pass that comes to its end went through its gates**, whenever it could have been called off and
whatever the browser showed. A run comes to what a pass can come to. On a browser that is idle it leaves
the browser idle, and it is given up only if it is called off: before, or by the page that it renders. -/
theorem gated (c : Config) (attempt : Nat) (files : FileSet) :
    (∀ p, Result c attempt files (.ok p) → Gated c p) ∧
    ∀ (b : Browser) (off : Bool) (s : Preview.Service),
      Result c attempt files (run c b off attempt files s).1 ∧
      (s.waiting = [] → (run c b off attempt files s).2.waiting = [] ∧
        ∀ stage, (run c b off attempt files s).1 = .error stage → off = true ∨ s.calledOff = true ∨
          ∃ code entry, (b.page (Preview.harnessPage c.preview code entry)).cancels = true) :=
  ⟨fun _ => gated_of_result, fun b off s => ⟨result_run c b off attempt files s,
    fun hidle => ⟨waiting_run c b off attempt files hidle, fun _ => calledOff_of_run hidle⟩⟩⟩

/-- An app with a fault in a file that it does not reach. -/
def faultAside : FileSet := .ofContents [("main.tsx", "import './u';\n"), ("u.ts", ""), ("v.ts", "'\n")]

def comprehensive : Config := { analyzer := .heuristic, mode := .comprehensive }

/-- A browser whose pages are well, or call the run off. -/
def browserThat (cancels : Bool) : Browser := { page := fun _ => { cancels } }

/-- All stages of such an app are run by a comprehensive pass, unless its page calls the run off. -/
theorem gated_faultAside :
    (∃ p, (run comprehensive (browserThat false) false 0 faultAside {}).1 = .ok p ∧
        p.stages.map (·.outcome) = [.failed, .passed, .passed, .passed] ∧ Gated comprehensive p) ∧
      (run comprehensive (browserThat true) false 0 faultAside {}).1 = .error .preview ∧
      ∃ code entry, ((browserThat true).page
        (Preview.harnessPage comprehensive.preview code entry)).cancels = true := by
  obtain ⟨hgated, hrun⟩ := gated comprehensive 0 faultAside
  constructor
  · have hmade : (run comprehensive (browserThat false) false 0 faultAside {}).1.toOption.map
        (fun p => p.stages.map (·.outcome)) = some [.failed, .passed, .passed, .passed] := by
      decide +kernel
    obtain ⟨hresult, _⟩ := hrun (browserThat false) false {}
    cases hp : (run comprehensive (browserThat false) false 0 faultAside {}).1 with
    | error stage => rw [hp] at hmade; cases hmade
    | ok p =>
        rw [hp] at hmade hresult
        exact ⟨p, rfl, Option.some.inj hmade, hgated p hresult⟩
  · have hoff : (match (run comprehensive (browserThat true) false 0 faultAside {}).1 with
        | .error stage => some stage
        | .ok _ => none) = some .preview := by decide +kernel
    split at hoff
    · rename_i stage hstage
      obtain rfl : stage = .preview := Option.some.inj hoff
      obtain ⟨_, hidle⟩ := hrun (browserThat true) false {}
      -- nothing else called it off
      rcases (hidle rfl).2 .preview hstage with hbefore | hservice | hpage
      · cases hbefore
      · cases hservice
      · exact ⟨hstage, hpage⟩
    · cases hoff

end AppMend.Pass
