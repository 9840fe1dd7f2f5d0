import AppMend.Heal.Session
import AppMend.Proofs.Heal.History
import AppMend.Proofs.Pass.Result

/-!
# The run of a session

A session waits for the result of a pass or for the answer of the generator, and can be called off
instead. `Session.Step` lists what it can meet: any result that a pass over its files can have, any answer
at all, and a calling off at any time. `Session.Run` is a sequence of such steps, with the events that
were told and the requests that were made.

`Session.Standing` says where a session can stand, one case for each thing it waits for and one for each
way it can end. No step leads out of it (`standing_step`), and whatever a session meets, it takes the step
(`standing_onPass`, `standing_onGenerated`, `standing_onCalledOff`): the table of steps refuses none of
those that a session asks for. Each step uses up a part of `Session.stepsLeft`, so a run ends.
-/

namespace AppMend

namespace Session

variable {c : Config} {s t : Session} {p : Pass} {d : Diagnosis} {asked : Nat}

/-! ## Steps and runs -/

/-- What a session can meet next, with the events that are told of it and the requests that were made. -/
inductive Step (c : Config) (s : Session) :
    List HealEvent → List RegenerationRequest → Session → Prop where
  | passed {p : Pass} {es : List HealEvent} {t : Session} : s.phase = .checking →
      Pass.Result c s.state.attemptNumber s.working (.ok p) → s.onPass p = .ok (t, es) →
      Step c s es [] t
  | passCalledOff {stage : Stage} {es : List HealEvent} {t : Session} : s.phase = .checking →
      Pass.Result c s.state.attemptNumber s.working (.error stage) →
      s.onCalledOff stage.name = .ok (t, es) → Step c s es [] t
  | answered {d : Diagnosis} {es : List HealEvent} {t : Session} (answer : Generated) :
      s.phase = .regenerating d → s.onGenerated d answer = .ok (t, es) →
      Step c s es [s.request d] t
  /-- The generator may have been asked or not. -/
  | requestCalledOff {d : Diagnosis} {es : List HealEvent} {t : Session}
      {requests : List RegenerationRequest} : s.phase = .regenerating d →
      requests = [] ∨ requests = [s.request d] →
      s.onCalledOff "regeneration" = .ok (t, es) → Step c s es requests t

/-- A number of steps from one session to another. -/
inductive Run (c : Config) (s : Session) :
    Nat → List HealEvent → List RegenerationRequest → Session → Prop where
  | refl : Run c s 0 [] [] s
  | step {n : Nat} {es es' : List HealEvent} {rs rs' : List RegenerationRequest} {t u : Session} :
      Run c s n es rs t → Step c t es' rs' u → Run c s (n + 1) (es ++ es') (rs ++ rs') u

/-- The session of a heal that begins. -/
def begin (c : Config) (name prompt : String) (files : FileSet) : Session :=
  .start name prompt files c.heal.maxAttempts

/-- What a heal of some files can come to, with the events told and the requests made. -/
def Outcome (c : Config) (name prompt : String) (files : FileSet) (es : List HealEvent)
    (rs : List RegenerationRequest) (s : Session) : Prop :=
  (∃ n, Run c (begin c name prompt files) n es rs s) ∧ s.phase = .over

/-! ## Where a session can stand -/

/-- Passes that were made one after another, all of them before the attempt `next`. -/
structure Passed (c : Config) (passes : List Pass) (next : Nat) : Prop where
  results : ∀ p ∈ passes, ∃ files, Pass.Result c p.attempt files (.ok p)
  ascending : passes.Pairwise fun p q => p.attempt < q.attempt
  below : ∀ p ∈ passes, p.attempt < next
  /-- The first is made before any attempt. -/
  first : ∀ p, passes.head? = some p → p.attempt = 0

/-- The diagnoses are those of the passes, so each pass found something. -/
def Diagnosed (passes : List Pass) (diagnoses : List Diagnosis) : Prop :=
  passes.map Pass.diagnosis? = diagnoses.map some

/-- Where a session can stand that made a number of requests. -/
inductive Standing (c : Config) (s : Session) (asked : Nat) : Prop where
  | checking : s.phase = .checking →
      HealState.Chronicle c.heal.maxAttempts s.state →
      Passed c s.passes s.state.attemptNumber → Diagnosed s.passes s.diagnoses →
      s.fixApplied = none → asked = s.state.attemptNumber →
      (s.state.status = .idle ∧ s.passes = [] ∨
        s.state.status = .revalidating s.state.attemptNumber ∧ s.passes ≠ []) →
      Standing c s asked
  | regenerating {d : Diagnosis} : s.phase = .regenerating d →
      HealState.Chronicle c.heal.maxAttempts s.state →
      Passed c s.passes s.state.attemptNumber → Diagnosed s.passes s.diagnoses →
      s.fixApplied = none → asked + 1 = s.state.attemptNumber →
      s.state.status = .healing s.state.attemptNumber → s.diagnoses.getLast? = some d →
      Standing c s asked
  | green {before : List Pass} {p : Pass} : s.phase = .over →
      HealState.Chronicle c.heal.maxAttempts s.state →
      Passed c s.passes (s.state.attemptNumber + 1) → Diagnosed before s.diagnoses →
      asked = s.state.attemptNumber →
      s.passes = before ++ [p] → p.allGreen = true → s.working = p.files →
      (s.state.status = .idle ∧ before = [] ∧ s.fixApplied = none ∨
        s.state.status = .healed ∧
          ∃ d, s.diagnoses.getLast? = some d ∧ s.fixApplied = some d.rootCause) →
      Standing c s asked
  | exhausted : s.phase = .over →
      HealState.Chronicle c.heal.maxAttempts s.state →
      Passed c s.passes (s.state.attemptNumber + 1) → Diagnosed s.passes s.diagnoses →
      s.fixApplied = none → asked = s.state.attemptNumber → s.state.status = .failed →
      s.state.attemptNumber = c.heal.maxAttempts → Standing c s asked
  | cancelled : s.phase = .over →
      HealState.Chronicle c.heal.maxAttempts s.state →
      Passed c s.passes (s.state.attemptNumber + 1) → Diagnosed s.passes s.diagnoses →
      s.fixApplied = none → asked ≤ s.state.attemptNumber → s.state.status = .cancelled →
      Standing c s asked

/-- How many steps a session takes at most until it is over. -/
def stepsLeft (s : Session) : Nat :=
  match s.phase with
  | .checking => 2 * (s.state.maxAttempts - s.state.attemptNumber) + 1
  | .regenerating _ => 2 * (s.state.maxAttempts - s.state.attemptNumber) + 2
  | .over => 0

/-! ## Passes one after another -/

theorem Passed.mono {passes : List Pass} {m n : Nat} (h : Passed c passes m) (hmn : m ≤ n) :
    Passed c passes n :=
  ⟨h.results, h.ascending, fun p hp => Nat.lt_of_lt_of_le (h.below p hp) hmn, h.first⟩

theorem Passed.append {passes : List Pass} {n : Nat} {files : FileSet} (h : Passed c passes n)
    (hr : Pass.Result c n files (.ok p)) (h0 : passes = [] → n = 0) :
    Passed c (passes ++ [p]) (n + 1) := by
  have hn : p.attempt = n := hr.complete.attempt_eq
  refine ⟨?_, ?_, ?_, ?_⟩
  · intro q hq
    rcases List.mem_append.mp hq with hq | hq
    · exact h.results q hq
    · rw [List.mem_singleton.mp hq]; exact ⟨files, hn ▸ hr⟩
  · refine List.pairwise_append.mpr ⟨h.ascending, List.pairwise_singleton _ _, ?_⟩
    intro a ha b hb
    rw [List.mem_singleton.mp hb, hn]
    exact h.below a ha
  · intro q hq
    rcases List.mem_append.mp hq with hq | hq
    · exact Nat.lt_succ_of_lt (h.below q hq)
    · rw [List.mem_singleton.mp hq, hn]; exact Nat.lt_succ_self n
  · intro q hq
    cases passes with
    | nil => rw [← Option.some.inj hq, hn]; exact h0 rfl
    | cons a as => exact h.first q hq

theorem Diagnosed.append {passes : List Pass} {diagnoses : List Diagnosis}
    (h : Diagnosed passes diagnoses) (hp : p.diagnosis? = some d) :
    Diagnosed (passes ++ [p]) (diagnoses ++ [d]) := by
  unfold Diagnosed at h ⊢
  rw [List.map_append, List.map_append, h, List.map_singleton, List.map_singleton, hp]

theorem Diagnosed.length_eq {passes : List Pass} {diagnoses : List Diagnosis}
    (h : Diagnosed passes diagnoses) : passes.length = diagnoses.length := by
  have := congrArg List.length h
  rwa [List.length_map, List.length_map] at this

theorem Diagnosed.eq_nil_iff {passes : List Pass} {diagnoses : List Diagnosis}
    (h : Diagnosed passes diagnoses) : passes = [] ↔ diagnoses = [] := by
  rw [← List.length_eq_zero_iff, h.length_eq, List.length_eq_zero_iff]

/-- None of the passes is green. -/
theorem Diagnosed.allGreen_eq_false {passes : List Pass} {diagnoses : List Diagnosis}
    (h : Diagnosed passes diagnoses) (hp : p ∈ passes) : p.allGreen = false := by
  have hd : p.diagnosis? ∈ diagnoses.map some := h ▸ List.mem_map_of_mem hp
  obtain ⟨d, _, he⟩ := List.mem_map.mp hd
  cases hg : p.allGreen with
  | false => rfl
  | true => rw [Pass.diagnosis?, if_pos hg] at he; cases he

/-! ## What a session does with what it meets -/

/-- A step that may be taken is taken and told. -/
theorem move_advance {target : HealStatus} {reason : Option String} {phase : SessionPhase}
    (h : HealStatus.mayFollow s.state.maxAttempts s.state.status target = true) :
    s.move (s.state.advance target reason) phase =
      .ok ({ s with state := s.state.moved target reason, phase := phase },
        [.ofState s.name (s.state.moved target reason)]) := by
  rw [HealState.advance_of_mayFollow reason h]; rfl

/-- While the bound is not reached, a session begins its next attempt. -/
theorem retry_of_lt (h : HealState.Chronicle c.heal.maxAttempts s.state)
    (ht : s.state.status.isTerminal = false) (hlt : s.state.attemptNumber < c.heal.maxAttempts) :
    s.retry d =
      .ok ({ s with
          state := s.state.moved (.healing (s.state.attemptNumber + 1)) (some d.summary)
          phase := .regenerating d },
        [.ofState s.name (s.state.moved (.healing (s.state.attemptNumber + 1)) (some d.summary))]) := by
  have hm := h.mayFollow_next ht hlt
  rw [← h.bound] at hm hlt
  unfold retry
  rw [if_pos (by simp [HealState.canRetry, HealState.isTerminal, ht, hlt])]
  exact move_advance hm

/-- When the bound is reached, a session gives up. -/
theorem retry_of_eq (h : HealState.Chronicle c.heal.maxAttempts s.state)
    (ht : s.state.status.isTerminal = false) (he : s.state.attemptNumber = c.heal.maxAttempts) :
    s.retry d =
      .ok ({ s with state := s.state.moved .failed (some (s.exhausted d)), phase := .over },
        [.ofState s.name (s.state.moved .failed (some (s.exhausted d)))]) := by
  rw [← h.bound] at he
  unfold retry
  rw [if_neg (by simp [HealState.canRetry, he])]
  exact move_advance (HealStatus.mayFollow_failed ht)

/-- **A session whose attempt came to nothing takes another step, and stands well after it.** -/
theorem standing_retry (h : HealState.Chronicle c.heal.maxAttempts s.state)
    (ht : s.state.status.isTerminal = false)
    (hp : Passed c s.passes (s.state.attemptNumber + 1)) (hd : Diagnosed s.passes s.diagnoses)
    (hf : s.fixApplied = none) (hl : s.diagnoses.getLast? = some d)
    (ha : asked = s.state.attemptNumber) :
    ∃ t es, s.retry d = .ok (t, es) ∧ Standing c t asked ∧
      t.stepsLeft < 2 * (s.state.maxAttempts - s.state.attemptNumber) + 1 := by
  rcases Nat.lt_or_ge s.state.attemptNumber c.heal.maxAttempts with hlt | hge
  · refine ⟨_, _, retry_of_lt h ht hlt, ?_, ?_⟩
    · refine .regenerating (d := d) rfl ?_ hp hd hf (congrArg (· + 1) ha) rfl hl
      exact HealState.chronicle_moved h (h.mayFollow_next ht hlt) _
    · show 2 * (s.state.maxAttempts - (s.state.attemptNumber + 1)) + 2 < _
      have := h.bound
      omega
  · have he : s.state.attemptNumber = c.heal.maxAttempts := Nat.le_antisymm h.attempts_le hge
    refine ⟨_, _, retry_of_eq h ht he, ?_, Nat.succ_pos _⟩
    exact .exhausted rfl (HealState.chronicle_moved h (HealStatus.mayFollow_failed ht) _) hp hd hf ha
      rfl he

/-- **Whatever a pass comes to, a session takes it in.** -/
theorem standing_onPass (h : Standing c s asked) (hc : s.phase = .checking)
    (hr : Pass.Result c s.state.attemptNumber s.working (.ok p)) :
    ∃ t es, s.onPass p = .ok (t, es) ∧ Standing c t asked ∧ t.stepsLeft < s.stepsLeft := by
  have hsteps : s.stepsLeft = 2 * (s.state.maxAttempts - s.state.attemptNumber) + 1 := by
    unfold stepsLeft; rw [hc]
  rw [hsteps]
  cases h with
  | checking _ hch hp hd hf ha hst =>
    have ht : s.state.status.isTerminal = false := by
      rcases hst with ⟨hst, _⟩ | ⟨hst, _⟩ <;> rw [hst] <;> rfl
    -- the pass is the first one exactly if no attempt was begun
    have h0 : s.passes = [] → s.state.attemptNumber = 0 := by
      intro hnil
      rcases hst with ⟨hst, _⟩ | ⟨_, hne⟩
      · exact hch.idle hst
      · exact absurd hnil hne
    have hp' := hp.append hr h0
    unfold onPass
    cases hdp : p.diagnosis? with
    | some d =>
        dsimp only
        exact standing_retry (s := { s with
            working := p.files
            passes := s.passes ++ [p]
            diagnoses := s.diagnoses ++ [d] })
          hch ht hp' (hd.append hdp) hf List.getLast?_concat ha
    | none =>
        have hg : p.allGreen = true := hr.complete.balanced.diagnosis?_eq_none_iff.mp hdp
        dsimp only
        rcases hst with ⟨hst, hnil⟩ | ⟨hst, hne⟩
        · have hdnil : s.diagnoses = [] := hd.eq_nil_iff.mp hnil
          refine ⟨{ s with working := p.files, passes := s.passes ++ [p], phase := .over }, [], ?_, ?_,
            ?_⟩
          · rw [hdnil]; rfl
          · exact .green (p := p) rfl hch hp' (by rw [hdnil]; rfl) ha
              (by rw [hnil]) hg rfl (.inl ⟨hst, rfl, hf⟩)
          · exact Nat.succ_pos _
        · -- there is a diagnosis, because there was a pass before
          obtain ⟨d, hl⟩ : ∃ d, s.diagnoses.getLast? = some d := by
            cases hlast : s.diagnoses.getLast? with
            | some d => exact ⟨d, rfl⟩
            | none =>
                exact absurd (hd.eq_nil_iff.mpr (List.getLast?_eq_none_iff.mp hlast)) hne
          have hm : HealStatus.mayFollow s.state.maxAttempts s.state.status .healed = true := by
            rw [hst]; rfl
          rw [hl]
          refine ⟨_, _, move_advance hm, ?_, Nat.succ_pos _⟩
          exact .green (p := p) rfl
            (HealState.chronicle_moved hch (hch.bound ▸ hm) _) hp' hd ha rfl hg rfl
            (.inr ⟨rfl, d, hl, rfl⟩)
  | regenerating hph => rw [hph] at hc; cases hc
  | green hph => rw [hph] at hc; cases hc
  | exhausted hph => rw [hph] at hc; cases hc
  | cancelled hph => rw [hph] at hc; cases hc

/-- **Whatever the generator answers, a session takes it in.** -/
theorem standing_onGenerated (h : Standing c s asked) (hc : s.phase = .regenerating d)
    (answer : Generated) :
    ∃ t es, s.onGenerated d answer = .ok (t, es) ∧ Standing c t (asked + 1) ∧
      t.stepsLeft < s.stepsLeft := by
  have hsteps : s.stepsLeft = 2 * (s.state.maxAttempts - s.state.attemptNumber) + 2 := by
    unfold stepsLeft; rw [hc]
  rw [hsteps]
  cases h with
  | regenerating hph hch hp hd hf ha hst hl =>
    cases SessionPhase.regenerating.inj (hph.symm.trans hc)
    -- files are asked for because of a diagnosis, and that is of a pass
    have hne : s.passes ≠ [] := by
      intro hnil
      rw [hd.eq_nil_iff.mp hnil] at hl
      cases hl
    unfold onGenerated
    cases answer.checked with
    | ok files =>
        have hm : HealStatus.mayFollow s.state.maxAttempts s.state.status
            (.revalidating s.state.attemptNumber) = true := by
          rw [hst]; simp [HealStatus.mayFollow]
        refine ⟨_, _, move_advance hm, ?_, ?_⟩
        · exact .checking rfl (HealState.chronicle_moved hch (hch.bound ▸ hm) _) hp hd hf ha
            (.inr ⟨rfl, hne⟩)
        · exact Nat.lt_succ_self _
    | error e =>
        dsimp only
        -- the message is none of what the invariant is about
        obtain ⟨t, es, ht, hstand, hlt⟩ := standing_retry
          (s := { s with state.lastMessage := some e.message })
          ⟨hch.bound, hch.linked, hch.legal, hch.begun, hch.attempts_le, hch.carried, hch.idle⟩
          (by rw [show _ = s.state.status from rfl, hst]; rfl) (hp.mono (Nat.le_succ _)) hd hf hl ha
        exact ⟨t, es, ht, hstand, Nat.lt_succ_of_lt hlt⟩
  | checking hph => rw [hph] at hc; cases hc
  | green hph => rw [hph] at hc; cases hc
  | exhausted hph => rw [hph] at hc; cases hc
  | cancelled hph => rw [hph] at hc; cases hc

/-- **Whenever a session is called off, it ends.** -/
theorem standing_onCalledOff (h : Standing c s asked) (hc : s.phase ≠ .over) (during : String) :
    ∃ t es, s.onCalledOff during = .ok (t, es) ∧ t.stepsLeft < s.stepsLeft ∧
      ∀ n, n = asked ∨ (∃ d, s.phase = .regenerating d) ∧ n = asked + 1 → Standing c t n := by
  have ends (hch : HealState.Chronicle c.heal.maxAttempts s.state)
      (hp : Passed c s.passes s.state.attemptNumber) (hd : Diagnosed s.passes s.diagnoses)
      (hf : s.fixApplied = none) (ht : s.state.status.isTerminal = false) :
      ∃ t es, s.onCalledOff during = .ok (t, es) ∧ t.stepsLeft = 0 ∧
        ∀ n, n ≤ s.state.attemptNumber → Standing c t n := by
    have hm : HealStatus.mayFollow s.state.maxAttempts s.state.status .cancelled = true :=
      HealStatus.mayFollow_cancelled ht
    unfold onCalledOff
    rw [if_neg (by simp [HealState.isTerminal, ht])]
    refine ⟨_, _, move_advance hm, rfl, fun n hn => ?_⟩
    exact .cancelled rfl (HealState.chronicle_moved hch (hch.bound ▸ hm) _) (hp.mono (Nat.le_succ _))
      hd hf hn rfl
  cases h with
  | checking hph hch hp hd hf ha hst =>
      obtain ⟨t, es, he, hz, hall⟩ := ends hch hp hd hf (by
        rcases hst with ⟨hst, _⟩ | ⟨hst, _⟩ <;> rw [hst] <;> rfl)
      refine ⟨t, es, he, ?_, fun n hn => hall n ?_⟩
      · rw [hz, stepsLeft, hph]; exact Nat.succ_pos _
      · rcases hn with rfl | ⟨⟨d, hd'⟩, _⟩
        · exact Nat.le_of_eq ha
        · rw [hph] at hd'; cases hd'
  | regenerating hph hch hp hd hf ha hst hl =>
      obtain ⟨t, es, he, hz, hall⟩ := ends hch hp hd hf (by rw [hst]; rfl)
      refine ⟨t, es, he, ?_, fun n hn => hall n ?_⟩
      · rw [hz, stepsLeft, hph]; exact Nat.succ_pos _
      · rcases hn with rfl | ⟨_, rfl⟩ <;> omega
  | green hph => exact absurd hph hc
  | exhausted hph => exact absurd hph hc
  | cancelled hph => exact absurd hph hc

/-! ## Every step and every run -/

theorem standing_begin (c : Config) (name prompt : String) (files : FileSet) :
    Standing c (begin c name prompt files) 0 := by
  refine .checking rfl (HealState.chronicle_start _) ⟨?_, List.Pairwise.nil, ?_, ?_⟩ rfl rfl rfl
    (.inl ⟨rfl, rfl⟩)
  · intro p hp; cases hp
  · intro p hp; cases hp
  · intro p hp; cases hp

/-- **Every step leads to where a session can stand, and uses up a step.** -/
theorem standing_step {es : List HealEvent} {rs : List RegenerationRequest}
    (h : Standing c s asked) (hs : Step c s es rs t) :
    Standing c t (asked + rs.length) ∧ t.stepsLeft < s.stepsLeft := by
  cases hs with
  | passed hph hr ht =>
      obtain ⟨t', es', ht', hst, hlt⟩ := standing_onPass h hph hr
      obtain ⟨rfl, rfl⟩ := Prod.mk.inj (Except.ok.inj (ht.symm.trans ht'))
      exact ⟨hst, hlt⟩
  | passCalledOff hph hr ht =>
      obtain ⟨t', es', ht', hlt, hst⟩ := standing_onCalledOff h (by rw [hph]; simp) _
      obtain ⟨rfl, rfl⟩ := Prod.mk.inj (Except.ok.inj (ht.symm.trans ht'))
      exact ⟨hst _ (.inl rfl), hlt⟩
  | answered answer hph ht =>
      obtain ⟨t', es', ht', hst, hlt⟩ := standing_onGenerated h hph answer
      obtain ⟨rfl, rfl⟩ := Prod.mk.inj (Except.ok.inj (ht.symm.trans ht'))
      exact ⟨hst, hlt⟩
  | requestCalledOff hph hreq ht =>
      obtain ⟨t', es', ht', hlt, hst⟩ := standing_onCalledOff h (by rw [hph]; simp) _
      obtain ⟨rfl, rfl⟩ := Prod.mk.inj (Except.ok.inj (ht.symm.trans ht'))
      rcases hreq with rfl | rfl
      · exact ⟨hst _ (.inl rfl), hlt⟩
      · exact ⟨hst _ (.inr ⟨⟨_, hph⟩, rfl⟩), hlt⟩

/-- **A session stands well after every run, and the run was not longer than it may be.** -/
theorem standing_run {n : Nat} {es : List HealEvent} {rs : List RegenerationRequest}
    (h : Standing c s asked) (hr : Run c s n es rs t) :
    Standing c t (asked + rs.length) ∧ n + t.stepsLeft ≤ s.stepsLeft := by
  induction hr with
  | refl => exact ⟨h, by omega⟩
  | step _ hs ih =>
      obtain ⟨hst, hlt⟩ := standing_step ih.1 hs
      rw [List.length_append, ← Nat.add_assoc]
      exact ⟨hst, by omega⟩

end Session

end AppMend
