import AppMend.Proofs.Heal.Together

/-!
# Heals that run together come to their ends

A heal that waits in the queue for the browser has no time at which it goes on, so there must be another
one that has the slot and knows when it will give it on. `Attended` says there is. Then as long as a
heal is not ended one of them can go on (`exists_wakeTime`), each round brings them nearer to their ends
(`rests_round`), and steps enough end them all (`ended_run`).
-/

namespace AppMend

open Preview (Phase Service)

namespace Heals

variable {w : HealWorld} {now : Nat} {x x' : HealShared} {h h' : Heal} {before after hs : List Heal}
  {qs : List RegenerationRequest}

/-! ## Turns of a heal -/

/-- A heal that had its turn: it has to wait or is over. -/
def Rests (h : Heal) : Prop :=
  match h.activity with
  | .unstarted | .ready _ => False
  | .rendering _ _ _ _ _ .asking | .rendering _ _ _ _ _ (.done _) => False
  | .rendering .. | .awaiting .. | .ended _ => True

theorem rests_of_step? (hs : h.step? w now x = none) : Rests h := by
  obtain ⟨name, a⟩ := h
  unfold Heal.step? at hs
  cases a with
  | unstarted => dsimp only at hs; split at hs <;> cases hs
  | ready => cases hs
  | rendering s p code entry call phase =>
      cases phase with
      | asking =>
          dsimp only [Service.step?] at hs
          split at hs
          · cases hs
          · split at hs <;> cases hs
      | done => cases hs
      | _ => trivial
  | awaiting | ended => trivial

theorem rests_of_isWriting (hw : h.isWriting = true) : Rests h := by
  unfold Heal.isWriting at hw
  unfold Rests
  split at hw
  · rename_i he
    rw [he]
    trivial
  · cases hw

/-- A heal that follows its session ends before the steps of a turn do. -/
theorem stepsLeft_lt_maxSteps {es : List HealEvent} {rs : List RegenerationRequest}
    (hf : Heal.Follows w h.session es rs h.activity) : h.activity.stepsLeft w < maxSteps w := by
  have left {n : Nat} {es : List HealEvent} {rs : List RegenerationRequest} {s : Session}
      (hr : Session.Run w.config (Heal.first w h.session) n es rs s) :
      s.stepsLeft ≤ 2 * w.config.heal.maxAttempts + 1 := by
    have := (Session.standing_run (Session.standing_begin _ _ _ _) hr).2
    exact Nat.le_trans (Nat.le_add_left _ _) this
  unfold maxSteps
  cases ha : h.activity with
  | unstarted => show 11 * _ + 2 < _; omega
  | ready s =>
      rw [ha] at hf
      cases hf with
      | ready hr =>
          have := left hr
          show 11 * _ + 1 < _
          omega
  | rendering s p code entry call phase =>
      rw [ha] at hf
      cases hf with
      | rendering hr _ _ =>
          have := left hr
          have : phase.stepsLeft ≤ 9 := by cases phase <;> simp [Phase.stepsLeft]
          show 11 * _ + _ + 2 < _
          omega
  | awaiting s =>
      rw [ha] at hf
      cases hf with
      | awaiting hr _ _ =>
          have := left hr
          show 11 * _ + 2 < _
          omega
  | ended => show 0 < _; omega

/-- **After its turn a heal rests**, and it is nearer to its end if it could go on at all. -/
theorem rests_poll {es : List HealEvent} {rs : List RegenerationRequest} {fuel : Nat} (now : Nat)
    (x : HealShared) (hf : Heal.Follows w h.session es rs h.activity)
    (hl : h.activity.stepsLeft w < fuel) :
    Rests (h.poll w now fuel x).1 ∧
      (h.step? w now x = none ∧ h.poll w now fuel x = (h, x) ∨
        (h.poll w now fuel x).1.activity.stepsLeft w < h.activity.stepsLeft w) := by
  induction fuel generalizing h x es rs with
  | zero => omega
  | succ fuel ih =>
      unfold Heal.poll
      cases hs : h.step? w now x with
      | none => exact ⟨rests_of_step? hs, .inl ⟨rfl, rfl⟩⟩
      | some r =>
          obtain ⟨h', x'⟩ := r
          obtain ⟨hn, hstep⟩ := Heal.step_of_step? hs
          obtain ⟨es', rs', hf', _, _, hlt⟩ := Heal.follows_step hf hstep
          dsimp only
          split
          · rename_i hw
            exact ⟨rests_of_isWriting hw, .inr hlt⟩
          · obtain ⟨hrests, hnext⟩ := ih x' (hn ▸ hf') (by omega)
            refine ⟨hrests, .inr ?_⟩
            rcases hnext with ⟨_, he⟩ | hlt'
            · rw [he]; exact hlt
            · omega

/-- How many steps the heals take at most until all are ended. -/
def stepsLeft (w : HealWorld) : List Heal → Nat
  | [] => 0
  | h :: hs => h.activity.stepsLeft w + stepsLeft w hs

/-- After a turn of each all heals rest, and they are nearer to their ends if one could go on. -/
theorem rests_round (now : Nat) (x : HealShared) (hf : Followed w hs qs) :
    (∀ h ∈ (round w now x hs).1, Rests h) ∧
      ((∀ h ∈ hs, h.step? w now x = none) ∧ round w now x hs = (hs, x) ∨
        stepsLeft w (round w now x hs).1 < stepsLeft w hs) := by
  -- on the heals in their order; the later ones find what the earlier ones left
  induction hf generalizing x with
  | nil => exact ⟨fun h hm => (by cases hm), .inl ⟨fun h hm => (by cases hm), rfl⟩⟩
  | @cons h hs es rs qs hf _ ih =>
      obtain ⟨hrests, hpoll⟩ := rests_poll now x hf (stepsLeft_lt_maxSteps hf)
      obtain ⟨hrests', hround⟩ := ih (h.poll w now (maxSteps w) x).2
      have he : (round w now x (h :: hs)).1 =
          (h.poll w now (maxSteps w) x).1 :: (round w now (h.poll w now (maxSteps w) x).2 hs).1 := rfl
      have hle : stepsLeft w (round w now (h.poll w now (maxSteps w) x).2 hs).1 ≤ stepsLeft w hs := by
        rcases hround with ⟨_, he⟩ | hlt
        · exact Nat.le_of_eq (by rw [he])
        · exact Nat.le_of_lt hlt
      refine ⟨?_, ?_⟩
      · rw [he]
        intro g hg
        rcases List.mem_cons.mp hg with rfl | hg
        · exact hrests
        · exact hrests' g hg
      · rcases hpoll with ⟨hnone, hsame⟩ | hlt
        · rw [hsame] at hround hle
          rcases hround with ⟨hall, hsame'⟩ | hlt
          · refine .inl ⟨?_, ?_⟩
            · intro g hg
              rcases List.mem_cons.mp hg with rfl | hg
              · exact hnone
              · exact hall g hg
            · unfold round
              rw [hsame]
              dsimp only
              rw [hsame']
          · refine .inr ?_
            rw [he, hsame]
            simp only [stepsLeft] at hlt ⊢
            omega
        · refine .inr ?_
          rw [he]
          simp only [stepsLeft] at hle ⊢
          omega

/-! ## Someone can always go on -/

/-- A heal that knows when it goes on does so at that time or later. -/
theorem step?_of_wakeTime? {later t : Nat} (ht : h.wakeTime? now x = some t) (hl : t ≤ later) :
    h.step? w later x ≠ none := by
  obtain ⟨name, a⟩ := h
  unfold Heal.wakeTime? at ht
  cases a with
  | unstarted =>
      unfold Heal.step?
      dsimp only
      split <;> simp
  | ready => simp [Heal.step?]
  | rendering s p code entry call phase =>
      cases hd : phase.isDone with
      | true =>
          cases phase with
          | done => simp [Heal.step?]
          | _ => cases hd
      | false =>
          rw [Heal.step?_rendering hd]
          dsimp only at ht
          split
          · simp
          · rename_i hoff
            rw [if_neg hoff] at ht
            obtain ⟨phase', s', hs⟩ := Service.step?_of_wakeTime? (c := w.config.preview)
              (b := w.browser) ht hl
            rw [hs]
            simp
  | awaiting s d deadline answer =>
      unfold Heal.step?
      dsimp only at ht ⊢
      split
      · simp
      · rename_i hoff
        rw [if_neg hoff] at ht
        rw [if_pos (Option.some.inj ht ▸ hl)]
        simp
  | ended => cases ht

/-- **When all heals rest and one is not ended, one of them knows when it can go on.** -/
theorem exists_wakeTime (now : Nat) (ha : Attended x.service hs) (hr : ∀ g ∈ hs, Rests g) (hm : h ∈ hs)
    (hne : ∀ r, h.activity ≠ .ended r) : ∃ g ∈ hs, ∃ t, g.wakeTime? now x = some t := by
  obtain ⟨name, a⟩ := h
  have hrests := hr _ hm
  have hplaced := ha.placed _ hm
  cases a with
  | unstarted | ready => exact hrests.elim
  | awaiting s d deadline answer =>
      refine ⟨_, hm, ?_⟩
      unfold Heal.wakeTime?
      dsimp only
      split <;> exact ⟨_, rfl⟩
  | ended r => exact absurd rfl (hne r)
  | rendering s p code entry call phase =>
      by_cases hoff : x.calledOff = true
      · exact ⟨_, hm, now, by unfold Heal.wakeTime?; exact if_pos hoff⟩
      -- some call has the slot, if this one waits for it
      have held {n : Nat} (hn : n ∈ x.service.waiting) : ∃ g ∈ hs, ∃ t, g.wakeTime? now x = some t := by
        obtain ⟨m, hw, hh⟩ := ha.orderly.holder_of_waiting hn
        obtain ⟨⟨name', a'⟩, hg, hc⟩ := ha.heard m hw
        cases a' with
        | unstarted | ready | awaiting | ended => cases hc
        | rendering s' p' code' entry' m' phase' =>
            cases hc
            have hp := ha.placed _ hg
            refine ⟨_, hg, ?_⟩
            unfold Heal.wakeTime?
            dsimp only
            rw [if_neg hoff]
            cases phase' with
            | queued => exact ⟨now, if_pos hh⟩
            | launching deadline => exact ⟨deadline, rfl⟩
            | _ => exact absurd hw hp.2
      cases phase with
      | asking | done => exact hrests.elim
      | queued => exact held hplaced.2
      | _ =>
          refine ⟨_, hm, Option.isSome_iff_exists.mp ?_⟩
          unfold Heal.wakeTime?
          dsimp only
          rw [if_neg hoff]
          rfl

theorem together_round {x₀ : HealShared} (now : Nat) (h0 : Together w x₀ x hs) :
    Together w x₀ (round w now x hs).2 (round w now x hs).1 :=
  round_induction (fun _ _ _ _ _ _ => together_step) [] h0

theorem attended_round (w : HealWorld) (now : Nat) (h0 : Attended x.service hs) :
    Attended (round w now x hs).2.service (round w now x hs).1 :=
  round_induction (P := fun x hs => Attended x.service hs) (fun _ _ _ _ _ _ => attended_step) [] h0

/-- **With turns enough all heals are ended.** -/
theorem ended_run {x₀ : HealShared} {fuel : Nat} (hf : Together w x₀ x hs)
    (ha : Attended x.service hs) (hstep : hs = [] ∨ ∃ h ∈ hs, h.step? w now x ≠ none)
    (hl : stepsLeft w hs ≤ fuel) : ∀ h ∈ (run w fuel now x hs).1, ∃ r, h.activity = .ended r := by
  induction fuel generalizing now x hs with
  | zero =>
      intro h hm
      obtain ⟨qs, hqs, _⟩ := hf
      rcases (rests_round now x hqs).2 with ⟨hnone, _⟩ | hlt
      · rcases hstep with rfl | ⟨g, hg, hs⟩
        · cases hm
        · exact absurd (hnone g hg) hs
      · omega
  | succ fuel ih =>
      obtain ⟨qs, hqs, _⟩ := id hf
      obtain ⟨hrests, hround⟩ := rests_round now x hqs
      have hl' : stepsLeft w (round w now x hs).1 ≤ fuel := by
        rcases hround with ⟨hnone, _⟩ | hlt
        · rcases hstep with rfl | ⟨g, hg, hs⟩
          · exact Nat.zero_le _
          · exact absurd (hnone g hg) hs
        · omega
      have hf' := together_round now hf
      have ha' := attended_round w now ha
      unfold run
      dsimp only
      split
      · rename_i hmin
        intro h hm
        -- nobody knows when to go on, so nobody has to
        have hsleep (g : Heal) (hg : g ∈ (round w now x hs).1) :
            g.wakeTime? now (round w now x hs).2 = none :=
          List.filterMap_eq_nil_iff.mp (List.min?_eq_none_iff.mp hmin) g hg
        cases hact : h.activity with
        | ended r => exact ⟨r, rfl⟩
        | _ =>
            obtain ⟨g, hg, t, ht⟩ := exists_wakeTime now ha' hrests hm (by simp [hact])
            rw [hsleep g hg] at ht
            cases ht
      · -- the one that wakes first can go on, and that carries the next round
        rename_i t hmin
        obtain ⟨g, hg, ht⟩ := List.mem_filterMap.mp (List.min?_mem hmin)
        refine ih hf' ha' (.inr ⟨g, hg, ?_⟩) hl'
        exact step?_of_wakeTime? ht (Nat.le_max_right now t)

end Heals

end AppMend
