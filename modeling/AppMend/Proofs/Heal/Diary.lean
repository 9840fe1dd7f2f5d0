import AppMend.Proofs.Heal.Run

/-!
# Diaries of sessions

A run of a session tells which events and which requests came of it. A diary tells what happened: every
pass, every request with the files as they were at that moment, every answer, and the calling off. The
last thing stands first, so what a step adds is a head.

A request is in the diary before its answer is, for a heal may wait in between. All that a session
comes to by a run it comes to with a diary of the same events and requests (`diary_of_run`), and a
session stands as well after a diary as after a run (`standing_of_diary`).

What each operation of a session changes is said before that, once for each of them. In particular an
operation makes no step of the state without telling of it (`Recorded`).
-/

namespace AppMend

namespace HealState

/-- One step of the state of a heal, for which a reason is given, and what is told of it. -/
def Stepped (name : String) (a b : HealState) (told : List HealEvent) : Prop :=
  ∃ target reason, HealStatus.mayFollow a.maxAttempts a.status target = true ∧
    b = a.moved target (some reason) ∧ told = [.ofState name b]

/-- At most one step of the state of a heal, and what is told of it. -/
def Recorded (name : String) (a b : HealState) (told : List HealEvent) : Prop :=
  b = a ∧ told = [] ∨ Stepped name a b told

theorem Recorded.length_le {name : String} {a b : HealState} {told : List HealEvent}
    (h : Recorded name a b told) : told.length ≤ 1 := by
  rcases h with ⟨_, rfl⟩ | ⟨target, reason, _, _, rfl⟩
  · exact Nat.zero_le 1
  · exact Nat.le_refl 1

/-- The last message is of no account for the next step, which brings its own. -/
theorem Stepped.of_lastMessage {name : String} {a b : HealState} {message : Option String}
    {told : List HealEvent} (h : Stepped name { a with lastMessage := message } b told) :
    Stepped name a b told := by
  obtain ⟨target, reason, hm, hb, ht⟩ := h
  exact ⟨target, reason, hm, hb, ht⟩

end HealState

namespace Session

open HealState (Recorded Stepped)

variable {c : Config} {s s₀ t : Session} {p : Pass} {d : Diagnosis} {es : List HealEvent}

/-! ## What each operation does -/

/-- What makes a step of the state. -/
theorem move_eq_ok {target : HealStatus} {reason : String} {phase : SessionPhase}
    (h : s.move (s.state.advance target (some reason)) phase = .ok (t, es)) :
    t = { s with state := s.state.moved target (some reason), phase := phase } ∧
      Stepped s.name s.state t.state es := by
  cases ha : s.state.advance target (some reason) with
  | error e => rw [ha] at h; cases h
  | ok state =>
      obtain ⟨hm, rfl⟩ := HealState.advance_eq_ok ha
      rw [ha] at h
      obtain ⟨rfl, rfl⟩ := Prod.mk.inj (Except.ok.inj h)
      exact ⟨rfl, target, reason, hm, rfl, rfl⟩

/-- After an attempt that came to nothing, a session begins the next one or is over. -/
theorem retry_eq_ok (h : s.retry d = .ok (t, es)) : Stepped s.name s.state t.state es ∧
    ∃ state phase, t = { s with state := state, phase := phase } ∧
      (phase = .over ∨
        phase = .regenerating d ∧ state.attemptNumber = s.state.attemptNumber + 1) := by
  unfold retry at h
  split at h
  · obtain ⟨ht, hstep⟩ := move_eq_ok h
    exact ⟨hstep, _, _, ht, .inr ⟨rfl, rfl⟩⟩
  · obtain ⟨ht, hstep⟩ := move_eq_ok h
    exact ⟨hstep, _, _, ht, .inl rfl⟩

/-- **A pass brings its files and its diagnosis.** -/
theorem onPass_eq_ok (h : s.onPass p = .ok (t, es)) : Recorded s.name s.state t.state es ∧
    ∃ state fix phase,
      t = { s with
        working := p.files
        passes := s.passes ++ [p]
        diagnoses := s.diagnoses ++ p.diagnosis?.toList
        state := state
        fixApplied := fix
        phase := phase } ∧
      (phase = .over ∨ ∃ d, phase = .regenerating d ∧ p.diagnosis? = some d) := by
  unfold onPass at h
  cases hd : p.diagnosis? with
  | some d =>
      rw [hd] at h
      obtain ⟨hstep, state, phase, ht, hphase⟩ := retry_eq_ok h
      exact ⟨.inr hstep, state, _, phase, ht, hphase.imp_right fun hp => ⟨d, hp.1, rfl⟩⟩
  | none =>
      rw [hd] at h
      dsimp only at h
      rw [Option.toList_none, List.append_nil]
      split at h
      · obtain ⟨rfl, rfl⟩ := Prod.mk.inj (Except.ok.inj h)
        exact ⟨.inl ⟨rfl, rfl⟩, _, _, _, rfl, .inl rfl⟩
      · obtain ⟨ht, hstep⟩ := move_eq_ok h
        exact ⟨.inr hstep, _, _, _, ht, .inl rfl⟩

/-- **Files that came are put over those that were there.** -/
theorem onGenerated_eq_ok {answer : Generated} {files : List File} (ha : answer.checked = .ok files)
    (h : s.onGenerated d answer = .ok (t, es)) : Recorded s.name s.state t.state es ∧
    ∃ state, t = { s with working := s.working.overlay files, state := state, phase := .checking } := by
  unfold onGenerated at h
  rw [ha] at h
  obtain ⟨ht, hstep⟩ := move_eq_ok h
  exact ⟨.inr hstep, _, ht⟩

/-- **An attempt for which no files came changes none.** -/
theorem onGenerated_eq_error {answer : Generated} {e : GeneratorError} (ha : answer.checked = .error e)
    (h : s.onGenerated d answer = .ok (t, es)) : Recorded s.name s.state t.state es ∧
    ∃ state phase, t = { s with state := state, phase := phase } ∧
      (phase = .over ∨
        phase = .regenerating d ∧ state.attemptNumber = s.state.attemptNumber + 1) := by
  unfold onGenerated at h
  rw [ha] at h
  obtain ⟨hstep, state, phase, ht, hphase⟩ := retry_eq_ok h
  exact ⟨.inr hstep.of_lastMessage, state, phase, ht, hphase⟩

theorem onCalledOff_eq_ok {during : String} (h : s.onCalledOff during = .ok (t, es)) :
    Recorded s.name s.state t.state es ∧ ∃ state, t = { s with state := state, phase := .over } := by
  unfold onCalledOff at h
  split at h
  · obtain ⟨rfl, rfl⟩ := Prod.mk.inj (Except.ok.inj h)
    exact ⟨.inl ⟨rfl, rfl⟩, _, rfl⟩
  · obtain ⟨ht, hstep⟩ := move_eq_ok h
    exact ⟨.inr hstep, _, ht⟩

/-! ## Diaries -/

/-- Something that happens to a session, with the events that are told of it. -/
inductive Occurrence where
  | passed (p : Pass) (told : List HealEvent)
  /-- A request is made while the files are as they are given. -/
  | asked (working : FileSet) (request : RegenerationRequest)
  | answered (request : RegenerationRequest) (answer : Generated) (told : List HealEvent)
  | calledOff (told : List HealEvent)

namespace Occurrence

def told : Occurrence → List HealEvent
  | passed _ told | answered _ _ told | calledOff told => told
  | asked _ _ => []

def request? : Occurrence → Option RegenerationRequest
  | asked _ request => some request
  | _ => none

def pass? : Occurrence → Option Pass
  | passed p _ => some p
  | _ => none

/-- The files that came in an answer, if any did. -/
def files? : Occurrence → Option (List File)
  | answered _ answer _ => answer.checked.toOption
  | _ => none

end Occurrence

/-- What happened to a session so far, the last first, and whether it waits for an answer. -/
inductive Diary (c : Config) (s₀ : Session) : List Occurrence → Bool → Session → Prop where
  | start : Diary c s₀ [] false s₀
  | passed {os : List Occurrence} {s t : Session} {p : Pass} {told : List HealEvent} :
      Diary c s₀ os false s → s.phase = .checking →
      Pass.Result c s.state.attemptNumber s.working (.ok p) → s.onPass p = .ok (t, told) →
      Diary c s₀ (.passed p told :: os) false t
  | asked {os : List Occurrence} {s : Session} {d : Diagnosis} :
      Diary c s₀ os false s → s.phase = .regenerating d →
      Diary c s₀ (.asked s.working (s.request d) :: os) true s
  | answered {os : List Occurrence} {s t : Session} {d : Diagnosis} {told : List HealEvent}
      (answer : Generated) : Diary c s₀ os true s → s.phase = .regenerating d →
      s.onGenerated d answer = .ok (t, told) →
      Diary c s₀ (.answered (s.request d) answer told :: os) false t
  | calledOff {os : List Occurrence} {asking : Bool} {s t : Session} {during : String}
      {told : List HealEvent} : Diary c s₀ os asking s → s.phase ≠ .over →
      s.onCalledOff during = .ok (t, told) → Diary c s₀ (.calledOff told :: os) false t

section Diary

variable {os : List Occurrence} {asking : Bool} {n : Nat}
  {rs : List RegenerationRequest}

/-- The events told, the last first. -/
def eventsOf (os : List Occurrence) : List HealEvent := os.flatMap (·.told.reverse)

/-- The requests made, the last first. -/
def requestsOf (os : List Occurrence) : List RegenerationRequest := os.filterMap (·.request?)

/-- The passes made, the last first. -/
def passesOf (os : List Occurrence) : List Pass := os.filterMap (·.pass?)

/-- The files that came, the last first. -/
def repliesOf (os : List Occurrence) : List (List File) := os.filterMap (·.files?)

/-- **Whatever a run comes to, there is a diary of it.** -/
theorem diary_of_run (h : Run c s₀ n es rs s) :
    ∃ os, Diary c s₀ os false s ∧ eventsOf os = es.reverse ∧ requestsOf os = rs.reverse := by
  induction h with
  | refl => exact ⟨[], .start, rfl, rfl⟩
  | @step n es es' rs rs' t u _ hstep ih =>
      obtain ⟨os, hd, hes, hrs⟩ := ih
      rw [List.reverse_append, List.reverse_append, ← hes, ← hrs]
      cases hstep with
      | passed hp hres hpass => exact ⟨_, .passed hd hp hres hpass, rfl, rfl⟩
      | passCalledOff hp hres hoff => exact ⟨_, .calledOff hd (by rw [hp]; simp) hoff, rfl, rfl⟩
      | answered answer hp hgen => exact ⟨_, .answered answer (.asked hd hp) hp hgen, rfl, rfl⟩
      | requestCalledOff hp hreq hoff =>
          have hne : t.phase ≠ .over := by rw [hp]; simp
          rcases hreq with rfl | rfl
          · exact ⟨_, .calledOff hd hne hoff, rfl, rfl⟩
          · exact ⟨_, .calledOff (.asked hd hp) hne hoff, rfl, rfl⟩

/-- A session that waits for an answer was asked for files. -/
theorem Diary.regenerating (h : Diary c s₀ os true s) : ∃ d, s.phase = .regenerating d := by
  cases h with
  | asked _ hp => exact ⟨_, hp⟩

/-- **A session stands well after a diary**, and each thing that happened used up a step. -/
theorem standing_of_diary (h : Diary c s₀ os asking s) (h₀ : Standing c s₀ 0) :
    ∃ n, Standing c s n ∧ (requestsOf os).length = n + asking.toNat ∧
      (eventsOf os).length + s.stepsLeft ≤ s₀.stepsLeft := by
  -- an answer and the calling off use up the step that a request is on its way to
  have count {o : Occurrence} {os : List Occurrence} {s t : Session}
      (hr : Recorded s.name s.state t.state o.told)
      (hle : (eventsOf os).length + s.stepsLeft ≤ s₀.stepsLeft) (hlt : t.stepsLeft < s.stepsLeft) :
      (eventsOf (o :: os)).length + t.stepsLeft ≤ s₀.stepsLeft := by
    have hone := hr.length_le
    have hcons : (eventsOf (o :: os)).length = o.told.length + (eventsOf os).length := by
      rw [eventsOf, List.flatMap_cons, List.length_append, List.length_reverse]
      rfl
    omega
  induction h with
  | start => exact ⟨0, h₀, rfl, by simp [eventsOf]⟩
  | passed _ hp hres hpass ih =>
      obtain ⟨n, hstand, hn, hle⟩ := ih
      obtain ⟨t', told', ht, hstand', hlt⟩ := standing_onPass hstand hp hres
      obtain ⟨rfl, rfl⟩ := Prod.mk.inj (Except.ok.inj (hpass.symm.trans ht))
      exact ⟨n, hstand', hn, count (onPass_eq_ok hpass).1 hle hlt⟩
  | asked _ hp ih =>
      obtain ⟨n, hstand, hn, hle⟩ := ih
      exact ⟨n, hstand, congrArg (· + 1) hn, hle⟩
  | answered answer _ hp hgen ih =>
      obtain ⟨n, hstand, hn, hle⟩ := ih
      obtain ⟨t', told', ht, hstand', hlt⟩ := standing_onGenerated hstand hp answer
      obtain ⟨rfl, rfl⟩ := Prod.mk.inj (Except.ok.inj (hgen.symm.trans ht))
      refine ⟨n + 1, hstand', hn, count ?_ hle hlt⟩
      cases ha : answer.checked with
      | ok files => exact (onGenerated_eq_ok ha hgen).1
      | error e => exact (onGenerated_eq_error ha hgen).1
  | @calledOff os asking s t during told hd hp hoff ih =>
      obtain ⟨n, hstand, hn, hle⟩ := ih
      obtain ⟨t', told', ht, hlt, hstand'⟩ := standing_onCalledOff hstand hp during
      obtain ⟨rfl, rfl⟩ := Prod.mk.inj (Except.ok.inj (hoff.symm.trans ht))
      refine ⟨n + asking.toNat, hstand' _ ?_, hn, count (onCalledOff_eq_ok hoff).1 hle hlt⟩
      cases asking with
      | false => exact .inl rfl
      | true => exact .inr ⟨hd.regenerating, rfl⟩

end Diary

end Session

end AppMend
