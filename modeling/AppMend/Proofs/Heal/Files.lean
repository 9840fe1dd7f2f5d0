import AppMend.Proofs.Check.Revalidation
import AppMend.Proofs.FileSet.Lookup
import AppMend.Proofs.Heal.Journal

/-!
# What becomes of the files of a heal

The files of a session change in two ways. A pass mends quotes in its scripts, and files that come are
put over those that are there. Mending twice is mending once, and files that come replace what was
mended before; so under each path there is always the latest version that was supplied for it, perhaps
mended (`latest_of_diary`). A version is supplied at the beginning or by an answer that has files. All other
answers are of no account, neither for the files nor for the passes and diagnoses of the session.
-/

namespace AppMend

namespace Session

open FileSet (latest?)

variable {c : Config} {name prompt : String} {files : FileSet} {os : List Occurrence} {asking : Bool}
  {s t : Session} {f g : File} {path : String} {told : List HealEvent}

/-! ## The files that are supplied -/

/-- All files that were supplied so far, the latest last. -/
def suppliedOf (files : FileSet) (os : List Occurrence) : List File :=
  files.files ++ (repliesOf os).reverse.flatten

/-- What is kept of a file that was supplied: the file as it is filed, or its mended version if it is a
script. -/
def KeptAs (f g : File) : Prop := g = f.filed ∨ g.isCode = true ∧ g = Check.mended f.filed

/-- A set that has the latest of some files under each path, as it is kept, and nothing else. -/
def Latest (supplied : List File) (working : FileSet) : Prop :=
  ∀ path, Option.Rel KeptAs (latest? supplied path) (working.get? path)

theorem KeptAs.reviewed (h : KeptAs f g) : KeptAs f (Check.reviewed g) := by
  cases hcode : g.isCode with
  | false =>
      rcases h with h | ⟨hc, _⟩
      · rw [Check.reviewed, if_neg (by rw [hcode]; exact Bool.false_ne_true)]
        exact .inl h
      · rw [hcode] at hc
        cases hc
  | true =>
      refine .inr ⟨(Check.isCode_reviewed g).trans hcode, ?_⟩
      rw [Check.reviewed_of_isCode hcode]
      rcases h with rfl | ⟨_, rfl⟩
      · rfl
      · exact Check.mended_mended _

/-- The files at the beginning are the latest. -/
theorem latest_files (files : FileSet) : Latest files.files files := by
  intro path
  rw [FileSet.latest?_files]
  cases h : files.get? path with
  | none => exact .none
  | some f =>
      refine .some (.inl ?_)
      exact (files.filed f (FileSet.get?_eq_some_iff.mp h).1).filed_eq.symm

/-- **Mending the files of a set leaves each the version it is.** -/
theorem Latest.repairedSet {supplied : List File} {working : FileSet} (h : Latest supplied working)
    (a : Analyzer) : Latest supplied (Check.repairedSet a working) := by
  have keep {x y : Option File} (hxy : Option.Rel KeptAs x y) :
      Option.Rel KeptAs x (y.map Check.reviewed) := by
    cases hxy with
    | none => exact .none
    | some hk => exact .some hk.reviewed
  intro path
  rw [Check.get?_repairedSet]
  exact keep (h path)

/-- **Files that are put over a set are the latest there, as they came.** -/
theorem Latest.overlay {supplied : List File} {working : FileSet} (h : Latest supplied working)
    (reply : List File) : Latest (supplied ++ reply) (working.overlay reply) := by
  intro path
  rw [FileSet.latest?_append, FileSet.get?_overlay]
  cases latest? reply path with
  | some f => exact .some (.inl rfl)
  | none => exact h path

/-- **The files of a session are the latest that were supplied**, at any moment. -/
theorem latest_of_diary (h : Diary c (begin c name prompt files) os asking s) :
    Latest (suppliedOf files os) s.working := by
  induction h with
  | start =>
      rw [suppliedOf, repliesOf, List.filterMap_nil, List.reverse_nil, List.flatten_nil,
        List.append_nil]
      exact latest_files files
  | passed _ _ hres hpass ih =>
      obtain ⟨_, state, fix, phase, rfl, _⟩ := onPass_eq_ok hpass
      show Latest _ (Pass.files _)
      rw [hres.complete.files_eq]
      exact ih.repairedSet c.analyzer
  | asked _ _ ih => exact ih
  -- an answer that passes its check is laid over the files, and any other leaves them
  | @answered os s t d told answer _ _ hgen ih =>
      cases ha : answer.checked with
      | ok reply =>
          obtain ⟨_, state, rfl⟩ := onGenerated_eq_ok ha hgen
          have hreplies : repliesOf (.answered (s.request d) answer told :: os) =
              reply :: repliesOf os :=
            List.filterMap_cons_some (congrArg Except.toOption ha)
          rw [suppliedOf, hreplies, List.reverse_cons, List.flatten_append, List.flatten_singleton,
            ← List.append_assoc]
          exact ih.overlay reply
      | error e =>
          obtain ⟨_, state, phase, rfl, _⟩ := onGenerated_eq_error ha hgen
          have hreplies : repliesOf (.answered (s.request d) answer told :: os) = repliesOf os :=
            List.filterMap_cons_none (congrArg Except.toOption ha)
          rw [suppliedOf, hreplies]
          exact ih
  | calledOff _ _ hoff ih =>
      obtain ⟨_, state, rfl⟩ := onCalledOff_eq_ok hoff
      exact ih

/-! ## Passes and diagnoses -/

/-- **The passes of a session are those that were made, and its diagnoses are theirs.** -/
theorem passes_of_diary (h : Diary c (begin c name prompt files) os asking s) :
    s.passes = (passesOf os).reverse ∧ s.diagnoses = (passesOf os).reverse.filterMap (·.diagnosis?) := by
  induction h with
  | start => exact ⟨rfl, rfl⟩
  | @passed os s t p told _ _ _ hpass ih =>
      obtain ⟨_, state, fix, phase, rfl, _⟩ := onPass_eq_ok hpass
      obtain ⟨hpasses, hdiagnoses⟩ := ih
      have hnext : (passesOf (.passed p told :: os)).reverse = (passesOf os).reverse ++ [p] :=
        List.reverse_cons
      have hone : [p].filterMap (·.diagnosis?) = p.diagnosis?.toList := by
        cases hd : p.diagnosis? <;> simp [hd]
      rw [hnext, List.filterMap_append, hone, ← hdiagnoses, ← hpasses]
      exact ⟨rfl, rfl⟩
  | asked _ _ ih => exact ih
  | answered answer _ _ hgen ih =>
      cases ha : answer.checked with
      | ok reply =>
          obtain ⟨_, state, rfl⟩ := onGenerated_eq_ok ha hgen
          exact ih
      | error e =>
          obtain ⟨_, state, phase, rfl, _⟩ := onGenerated_eq_error ha hgen
          exact ih
  | calledOff _ _ hoff ih =>
      obtain ⟨_, state, rfl⟩ := onCalledOff_eq_ok hoff
      exact ih

/-- A session whose files are those it began with and those that came, each in its latest version, and
whose passes and diagnoses are those that were made. -/
structure Preserved (files : FileSet) (os : List Occurrence) (s : Session) : Prop where
  contains_iff : ∀ path, s.working.contains path = true ↔
    files.contains path = true ∨
      ∃ reply ∈ repliesOf os, ∃ f ∈ reply, Path.normalize f.path = Path.normalize path
  version : ∀ path g, s.working.get? path = some g →
    ∃ f, latest? (suppliedOf files os) path = some f ∧ KeptAs f g
  passes : s.passes = (passesOf os).reverse
  diagnoses : s.diagnoses = (passesOf os).reverse.filterMap (·.diagnosis?)

/-- A path names a supplied file exactly if it names one at the beginning or one that came. -/
theorem isSome_latest?_suppliedOf : (latest? (suppliedOf files os) path).isSome = true ↔
    files.contains path = true ∨
      ∃ reply ∈ repliesOf os, ∃ f ∈ reply, Path.normalize f.path = Path.normalize path := by
  rw [suppliedOf, FileSet.latest?_append, Option.isSome_or, Bool.or_eq_true, or_comm,
    FileSet.latest?_files, FileSet.isSome_latest?_iff]
  refine or_congr Iff.rfl ?_
  constructor
  · rintro ⟨f, hf, hp⟩
    obtain ⟨reply, hr, hf⟩ := List.mem_flatten.mp hf
    exact ⟨reply, List.mem_reverse.mp hr, f, hf, hp⟩
  · rintro ⟨reply, hr, f, hf, hp⟩
    exact ⟨f, List.mem_flatten.mpr ⟨reply, List.mem_reverse.mpr hr, hf⟩, hp⟩

theorem preserved_of_diary (h : Diary c (begin c name prompt files) os asking s) :
    Preserved files os s := by
  have same {x y : Option File} (hxy : Option.Rel KeptAs x y) :
      y.isSome = x.isSome ∧ ∀ g, y = some g → ∃ f, x = some f ∧ KeptAs f g := by
    cases hxy with
    | none => exact ⟨rfl, fun g hg => (by cases hg)⟩
    | some hk => exact ⟨rfl, fun g hg => ⟨_, rfl, Option.some.inj hg ▸ hk⟩⟩
  have hlatest := fun path => same (latest_of_diary h path)
  obtain ⟨hpasses, hdiagnoses⟩ := passes_of_diary h
  refine ⟨fun path => ?_, fun path => (hlatest path).2, hpasses, hdiagnoses⟩
  rw [← isSome_latest?_suppliedOf, FileSet.contains, (hlatest path).1]

end Session

namespace Heal

/-- The files of an answer are taken exactly if there are any. -/
theorem checked_eq_ok_iff {answer : Generated} {reply : List File} :
    answer.checked = .ok reply ↔ answer = .ok reply ∧ reply ≠ [] := by
  cases answer with
  | error e => simp [Generated.checked]
  | ok fs =>
      cases fs with
      | nil =>
          constructor
          · intro h; cases h
          · rintro ⟨h, hne⟩; exact absurd (Except.ok.inj h).symm hne
      | cons f fs =>
          constructor
          · intro h; cases h; exact ⟨rfl, List.cons_ne_nil _ _⟩
          · rintro ⟨h, _⟩; exact h

/-- **The files of a reply are taken exactly if they come in time and there are any.** -/
theorem checked_answerOf_iff (w : HealWorld) (r : Reply) (reply : List File) :
    (answerOf w r).checked = .ok reply ↔
      r.delayMs ≤ w.config.heal.regenerationTimeoutMs ∧ r.answer = .ok reply ∧ reply ≠ [] := by
  rw [checked_eq_ok_iff, answerOf, answerAt]
  split
  · rename_i hle
    exact ⟨fun h => ⟨hle, h⟩, fun h => h.2⟩
  · rename_i hlate
    constructor
    · rintro ⟨h, _⟩; cases h
    · rintro ⟨hle, _⟩; exact absurd hle hlate

end Heal

namespace Heals

open Session (Diary Occurrence Preserved)

/-- **No file of a heal is lost or altered behind the back of the generator.** Whatever happened to a
session, its files are those it began with and those that came, each in its latest version and at most
mended. So are the files of all heals that run together. Files come with a reply that is in time and
has some; any other answer changes neither the files nor the passes and diagnoses. -/
theorem preserved :
    (∀ (c : Config) (name prompt : String) (files : FileSet) (os : List Occurrence) (asking : Bool)
      (s : Session), Diary c (Session.begin c name prompt files) os asking s → s.Preserved files os) ∧
    (∀ (w : HealWorld) (x : HealShared) (sessions : List String),
      ∃ journal, Recorded w x sessions journal ∧
        ∀ i name s, sessions[i]? = some name → resultAt w x sessions i = some (.ok s) →
          s.Preserved w.files (notesOf i journal)) ∧
    (∀ (w : HealWorld) (r : Reply) (reply : List File), (Heal.answerOf w r).checked = .ok reply ↔
      r.delayMs ≤ w.config.heal.regenerationTimeoutMs ∧ r.answer = .ok reply ∧ reply ≠ []) ∧
    (∀ (s t : Session) (d : Diagnosis) (answer : Generated) (e : GeneratorError)
      (told : List HealEvent), answer.checked = .error e → s.onGenerated d answer = .ok (t, told) →
        t.working = s.working ∧ t.passes = s.passes ∧ t.diagnoses = s.diagnoses) := by
  refine ⟨?_, ?_, Heal.checked_answerOf_iff, ?_⟩
  · intro c name prompt files os asking s hd
    exact Session.preserved_of_diary hd
  · intro w x sessions
    obtain ⟨journal, hj⟩ := journal_runBatch w x sessions
    exact ⟨journal, hj, fun i name s hi hs => Session.preserved_of_diary (hj.diary_of_ok hi hs)⟩
  · intro s t d answer e told ha hgen
    obtain ⟨_, state, phase, rfl, _⟩ := Session.onGenerated_eq_error ha hgen
    exact ⟨rfl, rfl, rfl⟩

/-- The script is mended, the style sheet comes with the second answer, and the notes stay. -/
theorem preserved_faltering :
    ∃ journal s, Recorded faltering {} ["s"] journal ∧
      resultAt faltering {} ["s"] 0 = some (.ok s) ∧
      s.working.contents = [("a.css", ""), ("b.js", "import './a.css';\n"), ("notes.txt", "n")] ∧
      s.Preserved faltering.files (notesOf 0 journal) := by
  have hrun : (resultAt faltering {} ["s"] 0).map (fun r => r.toOption.map (·.working.contents)) =
      some (some [("a.css", ""), ("b.js", "import './a.css';\n"), ("notes.txt", "n")]) := by
    decide +kernel
  obtain ⟨s, hs, hcontents⟩ := exists_session_of_resultAt hrun
  obtain ⟨journal, hj, hall⟩ := preserved.2.1 faltering {} ["s"]
  exact ⟨journal, s, hj, hs, hcontents, hall 0 "s" s rfl hs⟩

end Heals

end AppMend
