import AppMend.Heal.State

/-!
# The history of a heal

The state of a heal tells the number of its attempts three times: the status carries it, a counter
repeats it, and the log of the steps holds every number that was ever begun. `Chronicle` ties the three
together. It holds before anything happened and every operation keeps it, also one that asks for a step
that may not be taken, so it holds after any sequence of operations.

What the log looks like follows from the table of steps and from `Linked`, which says that each record
starts where the one before it ended: a record that begins a revalidation has the beginning of the same
attempt right before it, and there is only one such beginning.
-/

namespace AppMend

/-- Something that can be asked of the state of a heal. -/
inductive HealOperation where
  | beginAttempt (reason : String)
  | advance (target : HealStatus) (reason : Option String)
  | fail (reason : String)
  | cancel (reason : String)

/-- The number of the attempt that a step begins. -/
def Transition.begun? (t : Transition) : Option Nat :=
  match t.target with
  | .healing n => some n
  | _ => none

/-- Steps that lead from one status to another, each from where the one before it ended. -/
def Linked : HealStatus → List Transition → HealStatus → Prop
  | a, [], b => a = b
  | a, t :: ts, b => t.source = a ∧ Linked t.target ts b

namespace HealState

/-- The state after an operation, or why the operation may not be carried out. -/
def apply (s : HealState) : HealOperation → Except IllegalTransition HealState
  | .beginAttempt reason => s.beginAttempt reason
  | .advance target reason => s.advance target reason
  | .fail reason => s.fail reason
  | .cancel reason => s.cancel reason

/-- The state after an operation was asked for. -/
def after (s : HealState) (o : HealOperation) : HealState :=
  match s.apply o with
  | .ok t => t
  | .error _ => s

/-- The state after several operations were asked for, one after another. -/
def afterAll (s : HealState) (os : List HealOperation) : HealState := os.foldl after s

end HealState

/-! ## What the table of steps allows -/

namespace HealStatus

variable {max n : Nat} {s t : HealStatus}

theorem not_isTerminal_of_mayFollow (h : mayFollow max s t = true) : s.isTerminal = false := by
  cases s <;> cases t <;> first | rfl | cases h

theorem mayFollow_idle : mayFollow max s .idle = false := by
  cases s <;> rfl

/-- An attempt is begun right after the one before it, and within the bound. -/
theorem mayFollow_healing (h : mayFollow max s (.healing n) = true) :
    n = s.attempt?.getD 0 + 1 ∧ n ≤ max := by
  cases s <;> simp_all [mayFollow, attempt?] <;> omega

theorem mayFollow_revalidating (h : mayFollow max s (.revalidating n) = true) : s = .healing n := by
  cases s with
  | healing m => rw [show m = n from eq_of_beq h]
  | idle | revalidating _ | healed | failed | cancelled => cases h

theorem mayFollow_failed (h : s.isTerminal = false) : mayFollow max s .failed = true := by
  cases s <;> first | rfl | cases h

theorem mayFollow_cancelled (h : s.isTerminal = false) : mayFollow max s .cancelled = true := by
  cases s <;> first | rfl | cases h

theorem mayFollow_healed (h : mayFollow max s .healed = true) : ∃ n, s = .revalidating n := by
  cases s with
  | revalidating n => exact ⟨n, rfl⟩
  | idle | healing _ | healed | failed | cancelled => cases h

end HealStatus

/-! ## Steps one after another -/

namespace Linked

variable {a b : HealStatus} {ts : List Transition} {t : Transition}

theorem append_singleton (h : Linked a ts b) (ht : t.source = b) :
    Linked a (ts ++ [t]) t.target := by
  induction ts generalizing a with
  | nil => exact ⟨ht.trans h.symm, rfl⟩
  | cons u us ih => exact ⟨h.1, ih h.2⟩

/-- The first step leads away from the start. -/
theorem source_head (h : Linked a ts b) (h0 : ts[0]? = some t) : t.source = a := by
  cases ts with
  | nil => simp at h0
  | cons u us =>
      rw [List.getElem?_cons_zero] at h0
      rw [← Option.some.inj h0]
      exact h.1

/-- Every other step leads away from where the one before it ended. -/
theorem source_succ (h : Linked a ts b) {i : Nat} (hi : ts[i + 1]? = some t) :
    ∃ u, ts[i]? = some u ∧ u.target = t.source := by
  induction ts generalizing a i with
  | nil => simp at hi
  | cons u us ih =>
      rw [List.getElem?_cons_succ] at hi
      cases i with
      | zero => exact ⟨u, rfl, (source_head h.2 hi).symm⟩
      | succ i => exact ih h.2 hi

/-- A step away from a status other than the start has a step before it that led there. -/
theorem exists_before (h : Linked a ts b) {i : Nat} (hi : ts[i]? = some t) (ha : t.source ≠ a) :
    ∃ j u, i = j + 1 ∧ ts[j]? = some u ∧ u.target = t.source := by
  cases i with
  | zero => exact absurd (source_head h hi) ha
  | succ j =>
      obtain ⟨u, hu, he⟩ := source_succ h hi
      exact ⟨j, u, rfl, hu, he⟩

end Linked

namespace HealState

/-! ## The invariant -/

/-- What a state tells of the steps that led to it from the start, when `max` attempts are allowed. -/
structure Chronicle (max : Nat) (s : HealState) : Prop where
  /-- The bound is the one of the start. -/
  bound : s.maxAttempts = max
  /-- The log leads from the start to the status. -/
  linked : Linked .idle s.transitions s.status
  /-- Every step in the log was one that may be taken. -/
  legal : ∀ t ∈ s.transitions, HealStatus.mayFollow max t.source t.target = true
  /-- The log holds the beginning of each attempt once, in order. -/
  begun : s.transitions.filterMap Transition.begun? = List.range' 1 s.attemptNumber
  /-- No attempt is begun beyond the bound. -/
  attempts_le : s.attemptNumber ≤ max
  /-- A status that carries a number carries the one of the counter. -/
  carried : ∀ n, s.status.attempt? = some n → s.attemptNumber = n
  /-- Nothing was begun while the heal is idle. -/
  idle : s.status = .idle → s.attemptNumber = 0

/-- The state after a step. -/
def moved (s : HealState) (target : HealStatus) (reason : Option String) : HealState :=
  { s with
    attemptNumber := target.attempt?.getD s.attemptNumber
    status := target
    lastMessage := reason.or s.lastMessage
    transitions := s.transitions ++ [⟨s.status, target, reason⟩] }

theorem advance_of_mayFollow {s : HealState} {target : HealStatus} (reason : Option String)
    (h : HealStatus.mayFollow s.maxAttempts s.status target = true) :
    s.advance target reason = .ok (s.moved target reason) := if_pos h

theorem advance_eq_ok {s t : HealState} {target : HealStatus} {reason : Option String}
    (h : s.advance target reason = .ok t) :
    HealStatus.mayFollow s.maxAttempts s.status target = true ∧ t = s.moved target reason := by
  unfold advance at h
  split at h
  · rename_i hm
    exact ⟨hm, (Except.ok.inj h).symm⟩
  · cases h

theorem advance_eq_error {s : HealState} {target : HealStatus} {reason : Option String}
    {e : IllegalTransition} (h : s.advance target reason = .error e) :
    HealStatus.mayFollow s.maxAttempts s.status target = false ∧ e = ⟨s.status, target⟩ := by
  unfold advance at h
  split at h
  · cases h
  · rename_i hm
    exact ⟨by simpa using hm, (Except.error.inj h).symm⟩

/-- Whatever is asked for, a step to some status is what is tried. -/
theorem apply_eq_advance (s : HealState) (o : HealOperation) :
    ∃ target reason, s.apply o = s.advance target reason := by
  cases o with
  | beginAttempt reason => exact ⟨.healing (s.attemptNumber + 1), some reason, rfl⟩
  | advance target reason => exact ⟨target, reason, rfl⟩
  | fail reason => exact ⟨.failed, some reason, rfl⟩
  | cancel reason => exact ⟨.cancelled, some reason, rfl⟩

theorem after_of_ok {s t : HealState} {o : HealOperation} (h : s.apply o = .ok t) :
    s.after o = t := by
  unfold after; rw [h]

theorem after_of_error {s : HealState} {o : HealOperation} {e : IllegalTransition}
    (h : s.apply o = .error e) : s.after o = s := by
  unfold after; rw [h]

theorem chronicle_start (max : Nat) : Chronicle max (start max) where
  bound := rfl
  linked := rfl
  legal := by intro t ht; simp [start] at ht
  begun := rfl
  attempts_le := Nat.zero_le _
  carried := by intro n hn; simp [start, HealStatus.attempt?] at hn
  idle := fun _ => rfl

/-- The number that a status carries before a step, as the counter has it. -/
theorem Chronicle.attempt_getD {max : Nat} {s : HealState} (h : Chronicle max s)
    (ht : s.status.isTerminal = false) : s.status.attempt?.getD 0 = s.attemptNumber := by
  cases hs : s.status with
  | idle => exact (h.idle hs).symm
  | healing n => exact (h.carried n (by rw [hs]; rfl)).symm
  | revalidating n => exact (h.carried n (by rw [hs]; rfl)).symm
  | healed => rw [hs] at ht; cases ht
  | failed => rw [hs] at ht; cases ht
  | cancelled => rw [hs] at ht; cases ht

/-- While the heal is not over and the bound is not reached, the next attempt may be begun. -/
theorem Chronicle.mayFollow_next {max : Nat} {s : HealState} (h : Chronicle max s)
    (ht : s.status.isTerminal = false) (hlt : s.attemptNumber < max) :
    HealStatus.mayFollow max s.status (.healing (s.attemptNumber + 1)) = true := by
  have hcount := h.attempt_getD ht
  cases hs : s.status <;>
    simp_all [HealStatus.mayFollow, HealStatus.attempt?, HealStatus.isTerminal] <;> omega

/-- **Every step keeps the invariant.** -/
theorem chronicle_moved {max : Nat} {s : HealState} {target : HealStatus} (h : Chronicle max s)
    (hm : HealStatus.mayFollow max s.status target = true) (reason : Option String) :
    Chronicle max (s.moved target reason) := by
  have hcount := h.attempt_getD (HealStatus.not_isTerminal_of_mayFollow hm)
  -- the counter moves on exactly when an attempt is begun
  have hbegun : (s.transitions ++ [(⟨s.status, target, reason⟩ : Transition)]).filterMap
      Transition.begun? = List.range' 1 (target.attempt?.getD s.attemptNumber)
        ∧ target.attempt?.getD s.attemptNumber ≤ max := by
    rw [List.filterMap_append, h.begun]
    cases target with
    | healing n =>
        obtain ⟨hn, hle⟩ := HealStatus.mayFollow_healing hm
        rw [hcount] at hn
        subst hn
        exact ⟨by simp [Transition.begun?, HealStatus.attempt?, List.range'_concat, Nat.add_comm],
          hle⟩
    | revalidating n =>
        have hst := HealStatus.mayFollow_revalidating hm
        have hn : s.attemptNumber = n := h.carried n (by rw [hst]; rfl)
        subst hn
        exact ⟨by simp [Transition.begun?, HealStatus.attempt?], h.attempts_le⟩
    | idle => exact ⟨by simp [Transition.begun?, HealStatus.attempt?], h.attempts_le⟩
    | healed => exact ⟨by simp [Transition.begun?, HealStatus.attempt?], h.attempts_le⟩
    | failed => exact ⟨by simp [Transition.begun?, HealStatus.attempt?], h.attempts_le⟩
    | cancelled => exact ⟨by simp [Transition.begun?, HealStatus.attempt?], h.attempts_le⟩
  refine ⟨h.bound, h.linked.append_singleton rfl, ?_, hbegun.1, hbegun.2, ?_, ?_⟩
  · intro u hu
    rcases List.mem_append.mp hu with hu | hu
    · exact h.legal u hu
    · rw [List.mem_singleton.mp hu]; exact hm
  · intro n hn
    show target.attempt?.getD s.attemptNumber = n
    rw [show target.attempt? = some n from hn]; rfl
  · intro hi
    rw [show target = .idle from hi, HealStatus.mayFollow_idle] at hm
    cases hm

theorem chronicle_after {max : Nat} {s : HealState} (h : Chronicle max s) (o : HealOperation) :
    Chronicle max (s.after o) := by
  obtain ⟨target, reason, ha⟩ := apply_eq_advance s o
  cases hr : s.apply o with
  | error e => rw [after_of_error hr]; exact h
  | ok t =>
      obtain ⟨hm, ht⟩ := advance_eq_ok (ha ▸ hr)
      rw [after_of_ok hr, ht]
      exact chronicle_moved h (h.bound ▸ hm) reason

/-- **The invariant holds after any sequence of operations.** -/
theorem chronicle_afterAll {max : Nat} {s : HealState} (h : Chronicle max s)
    (os : List HealOperation) : Chronicle max (s.afterAll os) := by
  induction os generalizing s with
  | nil => exact h
  | cons o os ih => exact ih (chronicle_after h o)

/-! ## The shape of the log -/

namespace Chronicle

variable {max : Nat} {s : HealState} {t : Transition} {i : Nat}

/-- The beginning of an attempt stands at one place of the log. -/
theorem begun_unique (h : Chronicle max s) {j n : Nat} {u : Transition}
    (hi : s.transitions[i]? = some t) (hj : s.transitions[j]? = some u)
    (ht : t.begun? = some n) (hu : u.begun? = some n) : i = j := by
  -- the numbers in the log ascend, so one that comes later is greater
  have hasc : s.transitions.Pairwise fun a b =>
      ∀ x, a.begun? = some x → ∀ y, b.begun? = some y → x < y := by
    rw [← List.pairwise_filterMap, h.begun]
    exact List.pairwise_lt_range'
  have later : ∀ {p q : Nat} {a b : Transition}, s.transitions[p]? = some a →
      s.transitions[q]? = some b → a.begun? = some n → b.begun? = some n → ¬ p < q := by
    intro p q a b hp hq ha hb hlt
    obtain ⟨hp', rfl⟩ := List.getElem?_eq_some_iff.mp hp
    obtain ⟨hq', rfl⟩ := List.getElem?_eq_some_iff.mp hq
    exact Nat.lt_irrefl n (List.pairwise_iff_getElem.mp hasc p q hp' hq' hlt n ha n hb)
  exact Nat.le_antisymm (Nat.le_of_not_lt (later hj hi hu ht)) (Nat.le_of_not_lt (later hi hj ht hu))

/-- A revalidation comes right after the beginning of its attempt. -/
theorem before_revalidating (h : Chronicle max s) {k : Nat} (hi : s.transitions[i]? = some t)
    (hk : t.target = .revalidating k) :
    ∃ j u, i = j + 1 ∧ s.transitions[j]? = some u ∧ u.target = .healing k := by
  have hm := h.legal t (List.mem_of_getElem? hi)
  rw [hk] at hm
  have hsrc := HealStatus.mayFollow_revalidating hm
  obtain ⟨j, u, hj, hu, he⟩ := h.linked.exists_before hi (by rw [hsrc]; simp)
  exact ⟨j, u, hj, hu, he.trans hsrc⟩

theorem revalidating_unique (h : Chronicle max s) {j k : Nat} {u : Transition}
    (hi : s.transitions[i]? = some t) (hj : s.transitions[j]? = some u)
    (ht : t.target = .revalidating k) (hu : u.target = .revalidating k) : i = j := by
  obtain ⟨i', t', rfl, hi', ht'⟩ := h.before_revalidating hi ht
  obtain ⟨j', u', rfl, hj', hu'⟩ := h.before_revalidating hj hu
  have := h.begun_unique (n := k) hi' hj' (by simp [Transition.begun?, ht'])
    (by simp [Transition.begun?, hu'])
  omega

theorem before_healed (h : Chronicle max s) (hi : s.transitions[i]? = some t)
    (ht : t.target = .healed) :
    ∃ j k u, i = j + 1 ∧ s.transitions[j]? = some u ∧ u.target = .revalidating k := by
  have hm := h.legal t (List.mem_of_getElem? hi)
  rw [ht] at hm
  obtain ⟨k, hsrc⟩ := HealStatus.mayFollow_healed hm
  obtain ⟨j, u, hj, hu, he⟩ := h.linked.exists_before hi (by rw [hsrc]; simp)
  exact ⟨j, k, u, hj, hu, he.trans hsrc⟩

theorem terminal_last (h : Chronicle max s) (hi : s.transitions[i]? = some t)
    (ht : t.target.isTerminal = true) : i + 1 = s.transitions.length := by
  obtain ⟨hlt, _⟩ := List.getElem?_eq_some_iff.mp hi
  rcases Nat.lt_or_ge (i + 1) s.transitions.length with hmore | hend
  · exfalso
    have hnext := List.getElem?_eq_getElem hmore
    obtain ⟨u, hu, he⟩ := h.linked.source_succ hnext
    rw [hi] at hu
    rw [Option.some.inj hu, he, HealStatus.not_isTerminal_of_mayFollow
      (h.legal _ (List.mem_of_getElem? hnext))] at ht
    cases ht
  · omega

end Chronicle

/-! ## After any sequence of operations -/

/-- What holds of the state of a heal that is allowed `max` attempts, and of its log. -/
structure Sound (max : Nat) (s : HealState) : Prop where
  attempts_le : s.attemptNumber ≤ max
  /-- The log leads from idle to the status, each step from where the one before it ended. -/
  linked : Linked .idle s.transitions s.status
  legal : ∀ t ∈ s.transitions, HealStatus.mayFollow max t.source t.target = true
  /-- The attempts from the first to the last are begun once each, in order. -/
  begun : s.transitions.filterMap Transition.begun? = List.range' 1 s.attemptNumber
  /-- A revalidation comes right after the beginning of its attempt. -/
  revalidating : ∀ i t k, s.transitions[i]? = some t → t.target = .revalidating k →
    ∃ j u, i = j + 1 ∧ s.transitions[j]? = some u ∧ u.target = .healing k
  /-- An attempt is revalidated once at most. -/
  revalidating_once : ∀ (i j : Nat) (t u : Transition) k, s.transitions[i]? = some t →
    s.transitions[j]? = some u → t.target = .revalidating k → u.target = .revalidating k → i = j
  /-- Only what was revalidated is healed. -/
  healed : ∀ i t, s.transitions[i]? = some t → t.target = .healed →
    ∃ j k u, i = j + 1 ∧ s.transitions[j]? = some u ∧ u.target = .revalidating k
  /-- Nothing follows an end. -/
  terminal : ∀ i t, s.transitions[i]? = some t → t.target.isTerminal = true →
    i + 1 = s.transitions.length
  /-- An operation is refused only for a step that may not be taken, and then changes nothing. -/
  refused : ∀ o e, s.apply o = .error e →
    s.after o = s ∧ e.source = s.status ∧ HealStatus.mayFollow max e.source e.target = false
  /-- The number of the next attempt fits into 32 bits, by the counter and by the status. -/
  counter_fits : s.attemptNumber + 1 < UInt32.size
  status_fits : ∀ n, s.status.attempt? = some n → n + 1 < UInt32.size

theorem Chronicle.sound {max : Nat} {s : HealState} (h : Chronicle max s)
    (hmax : max < UInt32.size - 1) : Sound max s where
  attempts_le := h.attempts_le
  linked := h.linked
  legal := h.legal
  begun := h.begun
  revalidating := fun _ _ _ hi hk => h.before_revalidating hi hk
  revalidating_once := fun _ _ _ _ _ hi hj ht hu => h.revalidating_unique hi hj ht hu
  healed := fun _ _ hi ht => h.before_healed hi ht
  terminal := fun _ _ hi ht => h.terminal_last hi ht
  refused := by
    intro o e he
    obtain ⟨target, reason, ha⟩ := apply_eq_advance s o
    obtain ⟨hm, hst⟩ := advance_eq_error (ha ▸ he)
    rw [h.bound] at hm
    refine ⟨after_of_error he, ?_, ?_⟩ <;> rw [hst]
    exact hm
  counter_fits := by
    have := h.attempts_le
    omega
  status_fits := by
    intro n hn
    have := h.carried n hn
    have := h.attempts_le
    omega

/-- **Whatever is asked of a heal, in whatever order, its state and its log stay sound.** -/
theorem sound_afterAll {max : Nat} (hmax : max < UInt32.size - 1) (os : List HealOperation) :
    Sound max ((start max).afterAll os) :=
  (chronicle_afterAll (chronicle_start max) os).sound hmax

/-- Two attempts are used up between requests for steps that may not be taken. -/
theorem sound_between_refusals :
    2 < UInt32.size - 1 ∧
      (let s := (start 2).afterAll [.advance (.revalidating 1) none, .beginAttempt "first",
        .advance (.healing 7) (some "skip"), .beginAttempt "second", .advance .healed none,
        .advance (.revalidating 2) none, .beginAttempt "third", .fail "over", .cancel "late"]
      s.status = .failed ∧ s.attemptNumber = 2 ∧ s.transitions.length = 4 ∧ Sound 2 s) :=
  ⟨by decide, by decide, by decide, by decide, sound_afterAll (by decide) _⟩

end HealState

end AppMend
