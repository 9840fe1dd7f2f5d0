import AppMend.Proofs.Check.Repair
import AppMend.Proofs.Check.Revalidation
import AppMend.Proofs.Pass.Gates

/-!
# Passes over repaired files

A pass that comes to its end has reviewed the structure of its files, wherever it stopped, and it ends
with the files that this review repaired. What is repaired does not depend on how files are analyzed. So
a later pass over these files finds nothing to repair, whatever its settings are and whatever the browser
shows (`repair_settles`).
-/

namespace AppMend.Pass

open Check

variable {c c' : Config} {attempt attempt' : Nat} {files : FileSet} {p q : Pass}

/-- A pass that comes to its end has the review of its structure. -/
theorem Result.structural_eq (h : Result c attempt files (.ok p)) :
    p.structural = some (reviewSyntax c.analyzer files) := by
  cases h with
  | unrendered h =>
      cases ending_of_upToPreview h with
      | atStructure | atQuality => rfl
      | atBundle | atPreview => exact (reviews_bundled c attempt files).1
  | rendered answer h =>
      cases ending_of_upToPreview h with
      | rendering => exact (reviews_bundled c attempt files).1

/-- **A pass over the files that a pass ended with repairs nothing.** -/
theorem Result.settled (hp : Result c attempt files (.ok p)) (hq : Result c' attempt' p.files (.ok q)) :
    q.files = p.files ∧ ∃ r, q.structural = some r ∧ r.fixedFiles = [] := by
  have hfixed : (reviewSyntax c'.analyzer p.files).fixedFiles = [] := by
    rw [hp.complete.files_eq]
    exact fixedFiles_repairedSet c'.analyzer c.analyzer files
  refine ⟨?_, _, hq.structural_eq, hfixed⟩
  rw [hq.complete.files_eq, hfixed]
  rfl

/-- **A repair settles the quotes of a text.** It is made unless the marks of every import match. It
changes the closing marks that do not match, reports their lines and leaves nothing to repair. So a pass
over the files that an earlier pass ended with leaves them as they are. -/
theorem repair_settles :
    (∀ s, repairQuotes s = none ↔ ∀ f ∈ importQuotes.findAll s, Paired s f) ∧
      (∀ s t ls, repairQuotes s = some (t, ls) → Repaired s t ls) ∧
      ∀ (c c' : Config) (b b' : Browser) (off off' : Bool) (attempt attempt' : Nat) (files : FileSet)
        (s s' : Preview.Service) (p q : Pass),
        (run c b off attempt files s).1 = .ok p → (run c' b' off' attempt' p.files s').1 = .ok q →
          q.files = p.files ∧ ∃ r, q.structural = some r ∧ r.fixedFiles = [] := by
  refine ⟨fun _ => repairQuotes_eq_none_iff, fun _ _ _ => repaired_of_repairQuotes, ?_⟩
  intro c c' b b' off off' attempt attempt' files s s' p q hp hq
  have hfirst := result_run c b off attempt files s
  have hsecond := result_run c' b' off' attempt' p.files s'
  rw [hp] at hfirst
  rw [hq] at hsecond
  exact hfirst.settled hsecond

/-- An app whose import opens with one mark and closes with the other, and the app repaired. -/
def crossedImport : FileSet := .ofContents [("main.tsx", "import a\n  from './u\";\n"), ("u.ts", "")]

def mendedImport : FileSet := .ofContents [("main.tsx", "import a\n  from './u';\n"), ("u.ts", "")]

/-- The repair is on the line of the path. A first pass makes it and a second one has none to make. -/
theorem repair_settles_crossedImport :
    Repaired "import a\n  from './u\";\n".toList "import a\n  from './u';\n".toList [2] ∧
      ∃ p q, (run { analyzer := .heuristic } (browserThat false) false 0 crossedImport {}).1 = .ok p ∧
        (run comprehensive (browserThat false) false 1 p.files {}).1 = .ok q ∧
        p.files = mendedImport ∧ q.files = mendedImport := by
  obtain ⟨_, hquotes, hpasses⟩ := repair_settles
  refine ⟨hquotes _ _ _ (by decide +kernel), ?_⟩
  have hfirst : (run { analyzer := .heuristic } (browserThat false) false 0 crossedImport {}).1.toOption.map
      (·.files) = some mendedImport := by
    decide +kernel
  have hsecond : (run comprehensive (browserThat false) false 1 mendedImport {}).1.toOption.isSome = true := by
    decide +kernel
  cases hp : (run { analyzer := .heuristic } (browserThat false) false 0 crossedImport {}).1 with
  | error stage => rw [hp] at hfirst; cases hfirst
  | ok p =>
      rw [hp] at hfirst
      have hfiles : p.files = mendedImport := Option.some.inj hfirst
      cases hq : (run comprehensive (browserThat false) false 1 mendedImport {}).1 with
      | error stage => rw [hq] at hsecond; cases hsecond
      | ok q =>
          rw [← hfiles] at hq
          exact ⟨p, q, rfl, hq, hfiles, (hpasses _ _ _ _ _ _ _ _ _ _ _ p q hp hq).1.trans hfiles⟩

end AppMend.Pass
