import AppMend.Proofs.Heal.Schedule

/-!
# What holds of heals that run together

Every heal of a batch follows its session (`Followed`), whatever the others do, and all requests that
were made are those of the heals (`Together`). Whoever has the slot for the browser or waits for it is a
call of one of the heals, and each such call is the only one of its number (`Attended`).

Both are kept by a step of one heal, and so by turns of it, by rounds and by whole runs: the three
inductions are stated once, for any property of the heals that a step keeps.
-/

namespace AppMend

open Preview (Phase Service)

namespace Heals

variable {w : HealWorld} {now : Nat} {x x' : HealShared} {h h' : Heal} {before after hs : List Heal}
  {qs : List RegenerationRequest}

/-! ## What every step keeps, every turn keeps -/

theorem poll_induction {P : HealShared → Heal → Prop}
    (hstep : ∀ x h x' h', P x h → h.step? w now x = some (h', x') → P x' h') (fuel : Nat)
    (h0 : P x h) : P (h.poll w now fuel x).2 (h.poll w now fuel x).1 := by
  induction fuel generalizing x h with
  | zero => exact h0
  | succ fuel ih =>
      unfold Heal.poll
      cases hs : h.step? w now x with
      | none => exact h0
      | some r =>
          have h1 := hstep x h r.2 r.1 h0 hs
          dsimp only
          split
          · exact h1
          · exact ih h1

theorem round_induction {P : HealShared → List Heal → Prop}
    (hstep : ∀ x before h after h' x', P x (before ++ h :: after) →
      h.step? w now x = some (h', x') → P x' (before ++ h' :: after)) (before : List Heal)
    (h0 : P x (before ++ hs)) : P (round w now x hs).2 (before ++ (round w now x hs).1) := by
  induction hs generalizing before x with
  | nil => exact h0
  | cons h hs ih =>
      have h1 : P (h.poll w now (maxSteps w) x).2 (before ++ (h.poll w now (maxSteps w) x).1 :: hs) :=
        poll_induction (fun x h x' h' hp hs' => hstep x before h hs h' x' hp hs') (maxSteps w) h0
      have h2 := ih (before ++ [(h.poll w now (maxSteps w) x).1]) (by simpa using h1)
      simpa [round] using h2

/-- **What every step keeps, every run of heals keeps.** -/
theorem run_induction {P : HealShared → List Heal → Prop}
    (hstep : ∀ now x before h after h' x', P x (before ++ h :: after) →
      h.step? w now x = some (h', x') → P x' (before ++ h' :: after)) (fuel now : Nat)
    (h0 : P x hs) : P (run w fuel now x hs).2 (run w fuel now x hs).1 := by
  induction fuel generalizing now x hs with
  | zero => exact h0
  | succ fuel ih =>
      have h1 : P (round w now x hs).2 (round w now x hs).1 := round_induction (hstep now) [] h0
      unfold run
      dsimp only
      split
      · exact h1
      · exact ih _ h1

/-! ## All heals follow their sessions -/

/-- Heals that follow their sessions, with the requests that each of them made. -/
inductive Followed (w : HealWorld) : List Heal → List RegenerationRequest → Prop where
  | nil : Followed w [] []
  | cons {h : Heal} {hs : List Heal} {es : List HealEvent} {rs qs : List RegenerationRequest} :
      Heal.Follows w h.session es rs h.activity → Followed w hs qs → Followed w (h :: hs) (rs ++ qs)

theorem followed_start (w : HealWorld) (sessions : List String) :
    Followed w (sessions.map fun session => { session }) [] := by
  induction sessions with
  | nil => exact .nil
  | cons session sessions ih =>
      exact @Followed.cons w { session } _ [] [] _ (.unstarted rfl rfl) ih

/-- One of the heals can be looked at alone and put back. -/
theorem followed_focus (h0 : Followed w (before ++ h :: after) qs) :
    ∃ es rs rest, Heal.Follows w h.session es rs h.activity ∧ qs.Perm (rs ++ rest) ∧
      ∀ h' es' rs', Heal.Follows w h'.session es' rs' h'.activity →
        ∃ qs', Followed w (before ++ h' :: after) qs' ∧ qs'.Perm (rs' ++ rest) := by
  induction before generalizing qs with
  | nil =>
      cases h0 with
      | cons hf hfs =>
          exact ⟨_, _, _, hf, .refl _, fun h' es' rs' hf' => ⟨_, .cons hf' hfs, .refl _⟩⟩
  | cons g before ih =>
      cases h0 with
      | @cons _ _ _ rs₀ qs₀ hf hfs =>
          obtain ⟨es, rs, rest, hh, hperm, hback⟩ := ih hfs
          -- the requests of the first heal come to the rest
          have swap (l : List RegenerationRequest) :
              (rs₀ ++ (l ++ rest)).Perm (l ++ (rs₀ ++ rest)) := List.perm_append_comm_assoc ..
          refine ⟨es, rs, rs₀ ++ rest, hh, (hperm.append_left rs₀).trans (swap rs), ?_⟩
          intro h' es' rs' hf'
          obtain ⟨qs', hfs', hperm'⟩ := hback h' es' rs' hf'
          exact ⟨_, .cons hf hfs', (hperm'.append_left rs₀).trans (swap rs')⟩

theorem follows_of_followed (h0 : Followed w hs qs) (hm : h ∈ hs) :
    ∃ es rs, Heal.Follows w h.session es rs h.activity := by
  obtain ⟨before, after, rfl⟩ := List.append_of_mem hm
  obtain ⟨es, rs, _, hf, _⟩ := followed_focus h0
  exact ⟨es, rs, hf⟩

/-- Heals that follow their sessions, and the requests since a state. -/
def Together (w : HealWorld) (x₀ x : HealShared) (hs : List Heal) : Prop :=
  ∃ qs, Followed w hs qs ∧ x.requests.Perm (qs ++ x₀.requests)

theorem together_step {x₀ : HealShared} (h0 : Together w x₀ x (before ++ h :: after))
    (hs : h.step? w now x = some (h', x')) : Together w x₀ x' (before ++ h' :: after) := by
  obtain ⟨qs, hf, hperm⟩ := h0
  obtain ⟨es, rs, rest, hh, hq, hback⟩ := followed_focus hf
  obtain ⟨hn, hstep⟩ := Heal.step_of_step? hs
  obtain ⟨es', rs', hh', _, hreq, _⟩ := Heal.follows_step hh hstep
  obtain ⟨qs', hf', hq'⟩ := hback h' _ _ (hn ▸ hh')
  refine ⟨qs', hf', ?_⟩
  calc x'.requests
      = rs'.reverse ++ x.requests := hreq
    _ |>.Perm (rs' ++ (qs ++ x₀.requests)) := (List.reverse_perm rs').append hperm
    _ |>.Perm (rs' ++ ((rs ++ rest) ++ x₀.requests)) := (hq.append_right _).append_left _
    _ |>.Perm (qs' ++ x₀.requests) := by
        refine List.Perm.trans ?_ (hq'.symm.append_right _)
        simp only [List.append_assoc]
        exact List.perm_append_comm_assoc ..

/-! ## The calls of the heals -/

/-- The call that a heal has open. -/
def call? (h : Heal) : Option Nat :=
  match h.activity with
  | .rendering _ _ _ _ call _ => some call
  | _ => none

/-- Where the call of a heal stands. -/
def Placed (s : Service) (h : Heal) : Prop :=
  match h.activity with
  | .rendering _ _ _ _ call phase => call < s.calls ∧ s.Placed call phase
  | _ => True

/-- The slot of the browser is in order, and whoever has it or waits for it is a call of a heal. -/
structure Attended (s : Service) (hs : List Heal) : Prop where
  orderly : s.Orderly
  placed : ∀ h ∈ hs, Placed s h
  distinct : (hs.filterMap call?).Nodup
  heard : ∀ n ∈ s.waiting, ∃ h ∈ hs, call? h = some n

theorem attended_start {s : Service} (ho : s.waiting = []) (sessions : List String) :
    Attended s (sessions.map fun session => { session }) := by
  obtain ⟨hholder, hqueue⟩ := List.append_eq_nil_iff.mp ho
  refine ⟨⟨by rw [ho]; exact .nil, fun _ => hqueue⟩, ?_, ?_, ?_⟩
  · intro h hm
    obtain ⟨session, _, rfl⟩ := List.mem_map.mp hm
    trivial
  · have : (sessions.map fun session => ({ session } : Heal)).filterMap call? = [] := by
      rw [List.filterMap_eq_nil_iff]
      intro h hm
      obtain ⟨session, _, rfl⟩ := List.mem_map.mp hm
      rfl
    rw [this]
    exact .nil
  · intro n hn
    rw [ho] at hn
    cases hn

/-- What a step of a heal does to the slot, to its own call and to the others. -/
structure Shift (s s' : Service) (h h' : Heal) : Prop where
  orderly : s'.Orderly
  calls : s.calls ≤ s'.calls
  placed : Placed s' h'
  others : ∀ g, Placed s g → (∀ n, call? g = some n → call? h ≠ some n) → Placed s' g
  /-- Its call is the one it had or a new one. -/
  call : ∀ n, call? h' = some n → call? h = some n ∨ n = s.calls
  heard : ∀ n ∈ s'.waiting, call? h' = some n ∨ n ∈ s.waiting ∧ call? h ≠ some n

theorem lt_calls {s : Service} {n : Nat} (hp : Placed s h) (hn : call? h = some n) : n < s.calls := by
  unfold Placed at hp
  unfold call? at hn
  split at hn
  · rename_i he
    rw [he] at hp
    exact Option.some.inj hn ▸ hp.1
  · cases hn

theorem distinct_cons : ((h :: hs).filterMap call?).Nodup ↔
    (∀ n, call? h = some n → ∀ g ∈ hs, call? g ≠ some n) ∧ (hs.filterMap call?).Nodup := by
  cases hc : call? h with
  | none => simp [hc]
  | some n => simp [hc]

/-- In what order the heals stand does not matter. -/
theorem Attended.perm {s : Service} {gs : List Heal} (h0 : Attended s hs) (hp : hs.Perm gs) :
    Attended s gs where
  orderly := h0.orderly
  placed := fun h hm => h0.placed h (hp.mem_iff.mpr hm)
  distinct := (hp.filterMap call?).nodup_iff.mp h0.distinct
  heard := by
    intro n hn
    obtain ⟨h, hm, hc⟩ := h0.heard n hn
    exact ⟨h, hp.mem_iff.mp hm, hc⟩

theorem Attended.shift {s s' : Service} (h0 : Attended s (h :: hs)) (hshift : Shift s s' h h') :
    Attended s' (h' :: hs) := by
  obtain ⟨hown, hdistinct⟩ := distinct_cons.mp h0.distinct
  have placed (g : Heal) (hm : g ∈ hs) : Placed s g := h0.placed g (List.mem_cons_of_mem _ hm)
  refine ⟨hshift.orderly, ?_, distinct_cons.mpr ⟨?_, hdistinct⟩, ?_⟩
  · intro g hm
    rcases List.mem_cons.mp hm with rfl | hm
    · exact hshift.placed
    · exact hshift.others g (placed g hm) fun n hn hc => hown n hc g hm hn
  · -- a new call has a number that no other one has
    intro n hn g hm hg
    rcases hshift.call n hn with hc | rfl
    · exact hown n hc g hm hg
    · exact Nat.lt_irrefl _ (lt_calls (placed g hm) hg)
  · intro n hn
    rcases hshift.heard n hn with hc | ⟨hw, hne⟩
    · exact ⟨h', List.mem_cons_self, hc⟩
    · obtain ⟨g, hm, hg⟩ := h0.heard n hw
      rcases List.mem_cons.mp hm with rfl | hm
      · exact absurd hg hne
      · exact ⟨g, List.mem_cons_of_mem _ hm, hg⟩

/-! ## What each step does to the calls -/

theorem placed_of_none {s : Service} (hc : call? h = none) : Placed s h := by
  unfold call? at hc
  unfold Placed
  split at hc
  · cases hc
  · trivial

theorem call?_after (x : HealShared) (name : String) (r : SessionStep) (session : String) :
    call? { session, activity := (Heal.after x name r).1 } = none := by
  cases r <;> rfl

theorem service_after (x : HealShared) (name : String) (r : SessionStep) :
    (Heal.after x name r).2.service = x.service := by
  cases r <;> rfl

/-- A step after which a heal has no call, and that gave up none that waits. -/
theorem shift_aside {s : Service} (ho : s.Orderly) (hc : call? h' = none)
    (hw : ∀ n, call? h = some n → n ∉ s.waiting) : Shift s s h h' where
  orderly := ho
  calls := Nat.le_refl _
  placed := placed_of_none hc
  others := fun _ hg _ => hg
  call := by
    intro n hn
    rw [hc] at hn
    cases hn
  heard := fun n hn => .inr ⟨hn, fun he => hw n he hn⟩

/-- A step of the call of a heal. -/
theorem shift_settled {s s' : Service} {n : Nat} {phase' : Phase}
    (hs : Service.Settled s s' n phase') (hc : call? h = some n)
    (hc' : call? h' = some n ∨ call? h' = none ∧ phase'.waits = false)
    (hp : Placed s' h') : Shift s s' h h' where
  orderly := hs.orderly
  calls := Nat.le_of_eq hs.spares.calls.symm
  placed := hp
  others := by
    intro g hg hne
    unfold Placed at hg ⊢
    unfold call? at hne
    split
    · -- the call of another heal is another call
      rename_i he
      rw [he] at hg hne
      obtain ⟨hlt, hplaced⟩ := hg
      rw [hs.spares.calls]
      refine ⟨hlt, hs.spares.placed ?_ hplaced⟩
      rintro rfl
      exact hne _ rfl hc
    · trivial
  call := by
    intro m hm
    rcases hc' with hc' | ⟨hc', _⟩
    · rw [hc] ; exact .inl (hc' ▸ hm)
    · rw [hc'] at hm; cases hm
  heard := by
    intro m hm
    by_cases hmn : m = n
    · subst hmn
      rcases hc' with hc' | ⟨_, hw⟩
      · exact .inl hc'
      · rw [hs.placed.waits hm] at hw
        cases hw
    · refine .inr ⟨(hs.spares.waiting m hmn).mp hm, ?_⟩
      rw [hc]
      exact fun he => hmn (Option.some.inj he).symm

/-- **Every step of a heal is such a shift.** -/
theorem shift_of_step {name : String} {a a' : Activity} (h0 : Attended x.service (⟨name, a⟩ :: hs))
    (hs : Heal.Step w now name x a a' x') : Shift x.service x'.service ⟨name, a⟩ ⟨name, a'⟩ := by
  have ho := h0.orderly
  have hp : Placed x.service ⟨name, a⟩ := h0.placed _ List.mem_cons_self
  cases hs with
  | turnedAway | leased | finished | asked => exact shift_aside ho rfl fun n hn => by cases hn
  | passCalledOff | passed | askedCalledOff | answerCalledOff | answered =>
      rw [service_after]
      exact shift_aside ho (call?_after ..) fun n hn => by cases hn
  | rendered =>
      rw [service_after]
      refine shift_aside ho (call?_after ..) fun n hn => ?_
      cases hn
      exact hp.2
  | toRender =>
      -- who waits is a call of a heal, and their numbers are given out already
      have hfresh : x.service.calls ∉ x.service.waiting := by
        intro hm
        obtain ⟨g, hg, hc⟩ := h0.heard _ hm
        exact Nat.lt_irrefl _ (lt_calls (h0.placed g hg) hc)
      refine ⟨⟨ho.distinct, ho.given⟩, Nat.le_succ _, ⟨Nat.lt_succ_self _, hfresh⟩, ?_, ?_, ?_⟩
      · intro g hg _
        unfold Placed at hg ⊢
        split
        · rename_i he
          rw [he] at hg
          exact ⟨Nat.lt_succ_of_lt hg.1, hg.2⟩
        · trivial
      · intro n hn
        exact .inr (Option.some.inj hn).symm
      · intro n hn
        exact .inr ⟨hn, by intro hc; cases hc⟩
  | previewCalledOff =>
      rw [service_after]
      have hset := Service.settled_drop ho hp.2 (.ok none)
      exact shift_settled hset rfl (.inr ⟨call?_after .., rfl⟩) (placed_of_none (call?_after ..))
  | previewed hstep =>
      have hset := Service.settled_step ho hp.2 hstep
      refine shift_settled hset rfl (.inl rfl) ⟨?_, hset.placed⟩
      rw [hset.spares.calls]
      exact hp.1

theorem attended_step (h0 : Attended x.service (before ++ h :: after))
    (hs : h.step? w now x = some (h', x')) : Attended x'.service (before ++ h' :: after) := by
  have h1 := h0.perm List.perm_middle
  obtain ⟨hn, hstep⟩ := Heal.step_of_step? hs
  obtain ⟨name, a⟩ := h
  obtain ⟨name', a'⟩ := h'
  cases hn
  exact (h1.shift (shift_of_step h1 hstep)).perm List.perm_middle.symm

end Heals

end AppMend
