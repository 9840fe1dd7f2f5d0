import AppMend.Proofs.Diagnosis.Parts
import AppMend.Proofs.Heal.Journal

/-!
# What the generator is asked for

While a session waits for new files, its files are those of its last pass, and what it waits because of
is the diagnosis of that pass (`diagnosed_of_diary`). An attempt that came to nothing changes neither.
So every request splits the files that are there when it is made, and a request after such an attempt
is the one before it with the next number (`pending_of_diary`).

The requests of a diary are looked at as attempts, each with the files it was made of and its answer.
-/

namespace AppMend

namespace RegenerationRequest

/-- The same request, for the next attempt. -/
def again (r : RegenerationRequest) : RegenerationRequest :=
  { r with attemptNumber := r.attemptNumber + 1 }

end RegenerationRequest

namespace Session

/-- A request, with the files at that moment and the answer if there was one. -/
structure Attempt where
  working : FileSet
  request : RegenerationRequest
  answer? : Option Generated

namespace Attempt

/-- An attempt for which no files came: the generator failed, or was too late, or had none. -/
def Failed (a : Attempt) : Prop := ∃ answer e, a.answer? = some answer ∧ answer.checked = .error e

/-- After an attempt that failed the same is asked for again. -/
def Repeats (later earlier : Attempt) : Prop := earlier.Failed → later.request = earlier.request.again

end Attempt

/-- The attempts of a diary, the last first. An answer is to the request that was made last. -/
def attemptsOf : List Occurrence → List Attempt
  | [] => []
  | .asked working request :: os => ⟨working, request, none⟩ :: attemptsOf os
  | .answered _ answer _ :: os =>
    (attemptsOf os).modifyHead fun a => { a with answer? := some answer }
  | .passed _ _ :: os | .calledOff _ :: os => attemptsOf os

/-- Requests that were made as they should be, with the attempts they belong to, the last first. -/
structure Faithful (rs : List RegenerationRequest) (attempts : List Attempt) : Prop where
  requests : rs = attempts.map (·.request)
  /-- Each parts the files that are there, and has those that failed as they are. -/
  splits : ∀ a ∈ attempts, a.request.Splits a.working
  /-- They are numbered from one. -/
  numbered : rs.map (·.attemptNumber) = (List.range' 1 rs.length).reverse
  repeated : attempts.IsChain Attempt.Repeats

variable {c : Config} {name prompt : String} {files : FileSet} {os : List Occurrence} {asking : Bool}
  {s : Session} {d : Diagnosis} {a : Attempt} {attempts : List Attempt}
  {rs : List RegenerationRequest}

/-! ## What a session waits because of -/

/-- **What a session waits because of is the diagnosis of its files.** -/
theorem diagnosed_of_diary (h : Diary c (begin c name prompt files) os asking s)
    (hp : s.phase = .regenerating d) : ∃ p : Pass, s.working = p.files ∧ p.diagnosis? = some d := by
  induction h with
  | start => cases hp
  | passed _ _ _ hpass _ =>
      obtain ⟨_, state, fix, phase, rfl, hphase⟩ := onPass_eq_ok hpass
      rcases hphase with rfl | ⟨d', rfl, hd⟩
      · cases hp
      · cases hp
        exact ⟨_, rfl, hd⟩
  | asked _ _ ih => exact ih hp
  | @answered os s t d' told answer _ hp' hgen ih =>
      cases ha : answer.checked with
      | ok fs =>
          obtain ⟨_, state, rfl⟩ := onGenerated_eq_ok ha hgen
          cases hp
      | error e =>
          -- the files and the diagnosis stay
          obtain ⟨_, state, phase, rfl, hphase⟩ := onGenerated_eq_error ha hgen
          rcases hphase with rfl | ⟨rfl, _⟩
          · cases hp
          · cases hp
            exact ih hp'
  | calledOff _ _ hoff _ =>
      obtain ⟨_, state, rfl⟩ := onCalledOff_eq_ok hoff
      cases hp

/-- **A request splits the files that are there when it is made.** -/
theorem splits_request (h : Diary c (begin c name prompt files) os asking s)
    (hp : s.phase = .regenerating d) : (s.request d).Splits s.working := by
  obtain ⟨p, hw, hd⟩ := diagnosed_of_diary h hp
  unfold Pass.diagnosis? at hd
  split at hd
  · cases hd
  · rw [request, hw]
    exact RegenerationRequest.splits_of_make? hd _ _

/-- The request that a session makes has the number after those it made. -/
theorem attemptNumber_request (h : Diary c (begin c name prompt files) os false s)
    (hp : s.phase = .regenerating d) : (s.request d).attemptNumber = 1 + (requestsOf os).length := by
  obtain ⟨n, hstand, hn, _⟩ := standing_of_diary h (standing_begin c name prompt files)
  show s.state.attemptNumber = _
  rw [Bool.toNat_false, Nat.add_zero] at hn
  cases hstand with
  | regenerating _ _ _ _ _ ha => omega
  | checking hp' => rw [hp'] at hp; cases hp
  | green hp' => rw [hp'] at hp; cases hp
  | exhausted hp' => rw [hp'] at hp; cases hp
  | cancelled hp' => rw [hp'] at hp; cases hp

/-! ## Attempts one after another -/

/-- A session that waits for an answer has asked last of all. -/
theorem attemptsOf_of_asking (h : Diary c (begin c name prompt files) os true s)
    (hp : s.phase = .regenerating d) :
    ∃ before, attemptsOf os = ⟨s.working, s.request d, none⟩ :: before := by
  cases h with
  | asked _ hp' =>
      cases SessionPhase.regenerating.inj (hp'.symm.trans hp)
      exact ⟨_, rfl⟩

/-- **After an attempt that failed there is nothing to check, and what is asked for next is the same.** -/
theorem pending_of_diary (h : Diary c (begin c name prompt files) os asking s)
    (ha : (attemptsOf os).head? = some a) (hf : a.Failed) :
    s.phase ≠ .checking ∧ ∀ d, s.phase = .regenerating d → s.request d = a.request.again := by
  induction h with
  | start => cases ha
  | passed _ hp _ _ ih => exact absurd hp (ih ha).1
  | asked _ _ _ =>
      cases ha
      obtain ⟨answer, e, hanswer, _⟩ := hf
      cases hanswer
  | @answered os s t d told answer hd hp hgen ih =>
      obtain ⟨before, hbefore⟩ := attemptsOf_of_asking hd hp
      rw [attemptsOf, hbefore] at ha
      cases ha
      obtain ⟨_, e, hanswer, he⟩ := hf
      cases hanswer
      obtain ⟨_, state, phase, rfl, hphase⟩ := onGenerated_eq_error he hgen
      rcases hphase with rfl | ⟨rfl, hnext⟩
      · exact ⟨by simp, fun d' hd' => by cases hd'⟩
      · refine ⟨by simp, fun d' hd' => ?_⟩
        cases hd'
        show RegenerationRequest.of s.prompt d s.working state.attemptNumber = _
        rw [hnext]
        rfl
  | calledOff _ _ hoff _ =>
      obtain ⟨_, state, rfl⟩ := onCalledOff_eq_ok hoff
      exact ⟨by simp, fun d hd => by cases hd⟩

/-- One more request. -/
theorem Faithful.asked {working : FileSet} {r : RegenerationRequest} (h : Faithful rs attempts)
    (hs : r.Splits working) (hn : r.attemptNumber = 1 + rs.length)
    (hr : ∀ a, attempts.head? = some a → a.Failed → r = a.request.again) :
    Faithful (r :: rs) (⟨working, r, none⟩ :: attempts) where
  requests := congrArg (r :: ·) h.requests
  splits := List.forall_mem_cons.mpr ⟨hs, h.splits⟩
  numbered := by
    rw [List.map_cons, List.length_cons, h.numbered, List.range'_concat, List.reverse_append, hn,
      Nat.one_mul]
    rfl
  repeated := by
    cases attempts with
    | nil => exact .singleton _
    | cons a attempts => exact .cons_cons (hr a rfl) h.repeated

/-- An answer to the last request. -/
theorem Faithful.answered (h : Faithful rs (a :: attempts)) (answer : Generated) :
    Faithful rs ({ a with answer? := some answer } :: attempts) where
  requests := h.requests
  splits := List.forall_mem_cons.mpr (List.forall_mem_cons.mp h.splits)
  numbered := h.numbered
  repeated := by
    -- a request is no other for its answer
    have hchain := h.repeated
    cases attempts with
    | nil => exact .singleton _
    | cons b attempts =>
        obtain ⟨hr, hrest⟩ := List.isChain_cons_cons.mp hchain
        exact .cons_cons hr hrest

/-- **All requests of a session are made as they should be.** -/
theorem faithful_of_diary (h : Diary c (begin c name prompt files) os asking s) :
    Faithful (requestsOf os) (attemptsOf os) := by
  induction h with
  | start => exact ⟨rfl, fun a ha => (by cases ha), rfl, .nil⟩
  | passed _ _ _ _ ih => exact ih
  | asked hd hp ih =>
      refine ih.asked (splits_request hd hp) (attemptNumber_request hd hp) fun a ha hf => ?_
      exact (pending_of_diary hd ha hf).2 _ hp
  | answered answer hd hp _ ih =>
      obtain ⟨before, hbefore⟩ := attemptsOf_of_asking hd hp
      rw [hbefore] at ih
      rw [attemptsOf, hbefore]
      exact ih.answered answer
  | calledOff _ _ _ ih => exact ih

end Session

namespace Heals

open Session (Attempt Diary Faithful attemptsOf requestsOf)

/-- **Every request is a faithful split of the files at that moment**, numbered from one, and the same
again after an attempt that failed. This is so of every diary of a session, and so of all heals that
run together: the requests that were made are those of a journal of them. -/
theorem faithful :
    (∀ (c : Config) (name prompt : String) (files : FileSet) (os : List Session.Occurrence)
      (asking : Bool) (s : Session), Diary c (Session.begin c name prompt files) os asking s →
        Faithful (requestsOf os) (attemptsOf os)) ∧
    (∀ (w : HealWorld) (x : HealShared) (sessions : List String),
      ∃ journal, Recorded w x sessions journal ∧ ∀ i, i < sessions.length →
        Faithful (requestsOf (notesOf i journal)) (attemptsOf (notesOf i journal))) := by
  refine ⟨?_, ?_⟩
  · intro c name prompt files os asking s hd
    exact Session.faithful_of_diary hd
  · intro w x sessions
    obtain ⟨journal, hj⟩ := journal_runBatch w x sessions
    refine ⟨journal, hj, fun i hi => ?_⟩
    obtain ⟨asking, s, hd, _⟩ := hj.diary i _ (List.getElem?_eq_getElem hi)
    exact Session.faithful_of_diary hd

/-- The request for the script is made twice, because there is no answer to the first one. -/
theorem faithful_faltering :
    0 < ["s"].length ∧
      ((runBatch faltering {} ["s"]).2.requests.map fun r =>
          (r.attemptNumber, r.failedFiles.map (·.path), r.retainedFiles)) =
        [(2, ["b.js"], ["notes.txt"]), (1, ["b.js"], ["notes.txt"])] ∧
      ∃ attempts, Faithful (runBatch faltering {} ["s"]).2.requests attempts := by
  refine ⟨Nat.one_pos, by decide +kernel, ?_⟩
  obtain ⟨journal, hj, hall⟩ := faithful.2 faltering {} ["s"]
  have hfaithful := hall 0 Nat.one_pos
  -- the only heal has all notes
  have hnotes : notesOf 0 journal = journal.map (·.2) := by
    rw [notesOf, List.filter_eq_self.mpr]
    intro e he
    exact beq_iff_eq.mpr (Nat.lt_one_iff.mp (hj.own e he))
  have hrequests := hj.requests
  rw [show (({} : HealShared).requests) = [] from rfl, List.append_nil] at hrequests
  rw [hnotes, ← hrequests] at hfaithful
  exact ⟨_, hfaithful⟩

end Heals

end AppMend
