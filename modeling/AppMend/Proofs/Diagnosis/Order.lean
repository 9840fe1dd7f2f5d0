import AppMend.Proofs.Diagnosis.Parts
import AppMend.Proofs.Table

/-!
# What a diagnosis says, and that the order of its errors does not matter

The errors of a pass come in the order of its stages. What a diagnosis makes of them hangs on which errors
there are and not on their order: it is about the category that is to be mended first, of which there is one
since no two categories have the same priority, and the files that fail are those that some error implicates
(`Diagnosis.same_of_perm`). An error that names a file of the set has that file fail, and a file fails
whenever there is an entry or a script (`Diagnosis.diagnosed`).

The root cause is left out: it tells the first of the errors of the category.
-/

namespace AppMend

/-! ## Sorted texts -/

/-- **Sorted texts hang on which texts there are.** -/
theorem sortedTexts_congr {xs ys : List String} (h : ∀ x, x ∈ xs ↔ x ∈ ys) :
    sortedTexts xs = sortedTexts ys := by
  have hx := ascending_sortedTexts xs
  have hy := ascending_sortedTexts ys
  have hperm : (sortedTexts xs).Perm (sortedTexts ys) :=
    (List.perm_ext_iff_of_nodup (Diagnosis.nodup_of_ascending hx) (Diagnosis.nodup_of_ascending hy)).mpr
      fun x => by rw [mem_sortedTexts, mem_sortedTexts, h]
  exact hperm.eq_of_pairwise (fun _ _ _ _ hlt hgt => absurd hgt (String.lt_asymm hlt)) hx hy

/-- Categories are told apart by their priorities. -/
theorem ErrorCategory.eq_of_priority_eq {a b : ErrorCategory} (h : a.priority = b.priority) : a = b := by
  cases a <;> cases b <;> first | rfl | cases h

namespace Diagnosis

variable {files : FileSet} {errors errors' : List DiagnosticError} {e p : DiagnosticError}
  {entry : Option String} {attempt : Nat} {d : Diagnosis} {f : File}

/-! ## The error that is mended first -/

/-- One error more is kept if it is to be mended before the one kept so far. -/
theorem first_of_foldl (es : List DiagnosticError) (e : DiagnosticError) :
    let p := es.foldl (fun a b => if b.category.priority < a.category.priority then b else a) e
    p ∈ e :: es ∧ ∀ x ∈ e :: es, p.category.priority ≤ x.category.priority := by
  induction es generalizing e with
  | nil => simp
  | cons b es ih =>
      obtain ⟨hmem, hle⟩ := ih (if b.category.priority < e.category.priority then b else e)
      rw [List.foldl_cons]
      by_cases hlt : b.category.priority < e.category.priority
      · rw [if_pos hlt] at hmem hle ⊢
        refine ⟨List.mem_cons_of_mem _ hmem, fun x hx => ?_⟩
        rcases List.mem_cons.mp hx with rfl | hx
        · exact Nat.le_trans (hle b List.mem_cons_self) (Nat.le_of_lt hlt)
        · exact hle x hx
      · rw [if_neg hlt] at hmem hle ⊢
        refine ⟨?_, fun x hx => ?_⟩
        · rcases List.mem_cons.mp hmem with he | hm
          · rw [he]
            exact List.mem_cons_self
          · exact List.mem_cons_of_mem _ (List.mem_cons_of_mem _ hm)
        · rcases List.mem_cons.mp hx with rfl | hx
          · exact hle x List.mem_cons_self
          · rcases List.mem_cons.mp hx with rfl | hx
            · exact Nat.le_trans (hle e List.mem_cons_self) (Nat.le_of_not_lt hlt)
            · exact hle x (List.mem_cons_of_mem _ hx)

theorem first_of_primary? (h : primary? errors = some p) :
    p ∈ errors ∧ ∀ e ∈ errors, p.category.priority ≤ e.category.priority := by
  cases errors with
  | nil => cases h
  | cons e es =>
      rw [← Option.some.inj h]
      exact first_of_foldl es e

/-! ## The files that fail -/

/-- A file that an error implicates fails. -/
theorem mem_failedFilesOf_of_implicated {path : String} (he : e ∈ errors) (h : path ∈ implicated files e) :
    path ∈ failedFilesOf errors files entry := by
  have himplicated : path ∈ sortedTexts (errors.flatMap (implicated files)) := by
    rw [mem_sortedTexts]
    exact List.mem_flatMap.mpr ⟨e, he, h⟩
  unfold failedFilesOf
  split
  · rename_i hnil
    rw [hnil] at himplicated
    cases himplicated
  · exact himplicated

/-- A file that an error names fails. -/
theorem mem_failedFilesOf (he : e ∈ errors) (hf : e.file.bind files.get? = some f) :
    f.path ∈ failedFilesOf errors files entry := by
  refine mem_failedFilesOf_of_implicated he (List.mem_append_left _ ?_)
  rw [hf]
  exact List.mem_singleton_self _

/-- Something fails if the entry is a file of the set. -/
theorem failedFilesOf_ne_nil_of_entry (h : entry.bind files.get? = some f) :
    failedFilesOf errors files entry ≠ [] := by
  unfold failedFilesOf
  rw [h]
  split <;> simp_all

theorem failedFilesOf_perm (h : errors'.Perm errors) :
    failedFilesOf errors' files entry = failedFilesOf errors files entry := by
  unfold failedFilesOf
  rw [sortedTexts_congr fun path => (h.flatMap_right (implicated files)).mem_iff]

/-! ## Diagnoses -/

theorem contents_of_make? (h : make? errors files entry attempt = some d) :
    d.failedFiles = failedFilesOf errors files entry ∧
      d.retainedFiles = files.paths.filter (fun path => !d.failedFiles.contains path) ∧
      d.errors = errors := by
  obtain ⟨_, _, rfl⟩ := Option.map_eq_some_iff.mp h
  exact ⟨rfl, rfl, rfl⟩

/-- What a diagnosis of some errors says. -/
structure Diagnosed (errors : List DiagnosticError) (files : FileSet) (entry : Option String)
    (d : Diagnosis) : Prop where
  parts : Parts files d.failedFiles d.retainedFiles
  /-- A file that an error names fails. -/
  named : ∀ e ∈ errors, ∀ f, e.file.bind files.get? = some f → f.path ∈ d.failedFiles
  /-- Something fails if the entry is there; that something fails if there is a script is one of `parts`. -/
  failed_ne_nil : ∀ f, entry.bind files.get? = some f → d.failedFiles ≠ []
  category_mem : ∃ e ∈ errors, e.category = d.category
  /-- No error is to be mended before those of the category. -/
  category_first : ∀ e ∈ errors, d.category.priority ≤ e.category.priority
  /-- What is reported of the category goes by it. -/
  severity_eq : d.toJson.field? "severity" = some (.str d.category.severity.name)
  priority_eq : d.toJson.field? "priority" = some (.ofNat d.category.priority)

theorem diagnosed_of_make? (h : make? errors files entry attempt = some d) :
    Diagnosed errors files entry d := by
  have hparts := parts_of_make? h
  obtain ⟨p, hp, rfl⟩ := Option.map_eq_some_iff.mp h
  obtain ⟨hmem, hfirst⟩ := first_of_primary? hp
  exact {
    parts := hparts
    named := fun e he f hf => mem_failedFilesOf he hf
    failed_ne_nil := fun f hf => failedFilesOf_ne_nil_of_entry hf
    category_mem := ⟨p, hmem, rfl⟩
    category_first := hfirst
    severity_eq := by simp [toJson, Json.Value.field?_object]
    priority_eq := by simp [toJson, Json.Value.field?_object] }

/-- Two diagnoses that agree on all but the order of the errors, and on which of them is told first. -/
structure Same (d d' : Diagnosis) : Prop where
  category_eq : d'.category = d.category
  failed_eq : d'.failedFiles = d.failedFiles
  retained_eq : d'.retainedFiles = d.retainedFiles
  summary_eq : d'.summary = d.summary
  severity_eq : d'.toJson.field? "severity" = d.toJson.field? "severity"
  priority_eq : d'.toJson.field? "priority" = d.toJson.field? "priority"

/-- **The order of the errors does not matter.** -/
theorem same_of_perm (hp : errors'.Perm errors) (h : make? errors files entry attempt = some d) :
    ∃ d', make? errors' files entry attempt = some d' ∧ Same d d' := by
  have hne : make? errors' files entry attempt ≠ none := by
    intro hnone
    rw [make?_eq_none_iff] at hnone
    rw [hnone] at hp
    rw [hp.nil_eq.symm, make?_eq_none_iff.mpr rfl] at h
    cases h
  obtain ⟨d', h'⟩ := Option.ne_none_iff_exists'.mp hne
  have hd := diagnosed_of_make? h
  have hd' := diagnosed_of_make? h'
  -- each category comes first among the errors of both
  have hcategory : d'.category = d.category := by
    obtain ⟨e, he, hc⟩ := hd.category_mem
    obtain ⟨e', he', hc'⟩ := hd'.category_mem
    refine ErrorCategory.eq_of_priority_eq (Nat.le_antisymm ?_ ?_)
    · rw [← hc]
      exact hd'.category_first e (hp.mem_iff.mpr he)
    · rw [← hc']
      exact hd.category_first e' (hp.mem_iff.mp he')
  obtain ⟨hfailed, hretained, herrors⟩ := contents_of_make? h
  obtain ⟨hfailed', hretained', herrors'⟩ := contents_of_make? h'
  have hsame : d'.failedFiles = d.failedFiles := by rw [hfailed', hfailed, failedFilesOf_perm hp]
  exact ⟨d', h', {
    category_eq := hcategory
    failed_eq := hsame
    retained_eq := by rw [hretained', hretained, hsame]
    summary_eq := by rw [summary, summary, herrors', herrors, hp.length_eq, hcategory, hsame]
    severity_eq := by rw [hd'.severity_eq, hd.severity_eq, hcategory]
    priority_eq := by rw [hd'.priority_eq, hd.priority_eq, hcategory] }⟩

/-- **What a diagnosis says of its errors.** There is one unless there is no error. It parts the files of
the set, and what an error names fails; it is about the category that is to be mended first; and it is the
same in whichever order the errors come. -/
theorem diagnosed (errors : List DiagnosticError) (files : FileSet) (entry : Option String) (attempt : Nat) :
    (make? errors files entry attempt = none ↔ errors = []) ∧
      ∀ d, make? errors files entry attempt = some d → Diagnosed errors files entry d ∧
        ∀ errors', errors'.Perm errors → ∃ d', make? errors' files entry attempt = some d' ∧ Same d d' :=
  ⟨make?_eq_none_iff, fun _ h => ⟨diagnosed_of_make? h, fun _ hp => same_of_perm hp h⟩⟩

/-- A card that does not parse, and an app with a text to be replaced. -/
def unfinished : FileSet :=
  .ofContents [("src/App.tsx", ""), ("src/components/Card.tsx", ""), ("src/index.css", "")]

/-- The worse of two errors is told in one diagnosis first and in the other last. -/
theorem diagnosed_reversed :
    let errors : List DiagnosticError := [
      { category := .qualityViolation, origin := .quality, message := "[placeholder] TODO",
        file := "./src/App.tsx" },
      { category := .syntaxError, origin := .bundle, message := "Unterminated string in Card.tsx:3" }]
    ∃ d d', make? errors unfinished none 1 = some d ∧ make? errors.reverse unfinished none 1 = some d' ∧
      d.failedFiles = ["src/App.tsx", "src/components/Card.tsx"] ∧ d.retainedFiles = ["src/index.css"] ∧
      d.category = .syntaxError ∧ Same d d' := by
  intro errors
  have hmade : (make? errors unfinished none 1).map
      (fun d => (d.failedFiles, d.retainedFiles, d.category)) =
        some (["src/App.tsx", "src/components/Card.tsx"], ["src/index.css"], .syntaxError) := by
    decide +kernel
  obtain ⟨d, hd, hparts⟩ := Option.map_eq_some_iff.mp hmade
  obtain ⟨hfailed, hrest⟩ := Prod.mk.inj hparts
  obtain ⟨hretained, hcategory⟩ := Prod.mk.inj hrest
  obtain ⟨_, hsame⟩ := (diagnosed errors unfinished none 1).2 d hd
  obtain ⟨d', hd', hs⟩ := hsame errors.reverse errors.reverse_perm
  exact ⟨d, d', hd, hd', hfailed, hretained, hcategory, hs⟩

end Diagnosis

end AppMend
