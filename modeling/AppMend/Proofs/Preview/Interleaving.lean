import AppMend.Preview.Schedule
import AppMend.Proofs.Focus
import AppMend.Proofs.Preview.Slot

/-!
# Calls in any order

Calls on one preview service, with their steps in any order whatever: at each step the time and the
browser can be others, a call that waits can be given up, and a page that was left open is closed at some
time. `Move` is one such step, `Interleaving` any number of them, from an `outset` at which no call has
done anything. What every change of an interleaving keeps holds all along it
(`interleaving_induction`), and a change is no more than a hop.

The scheduler that runs calls in turns comes to no other states than these (`interleaving_run`).
-/

namespace AppMend.Preview

open Relation (ReflTransGen TransGen)

/-- The phase of a call; to be given up is an end as well, with nothing to show for it. -/
def Standing.phase : Standing → Phase
  | .live phase => phase
  | .ended outcome => .done outcome
  | .givenUp => .done (.error default)

theorem Standing.phase_ofPhase (phase : Phase) : (Standing.ofPhase phase).phase = phase := by
  cases phase <;> rfl

/-- Calls with the service that they share. -/
abbrev Scene := List Call × Service

/-- One step of some call, at any time and with any browser of a kind, or what comes of giving one
up. -/
inductive Move (c : PreviewConfig) (B : Browser → Prop) : Scene → Scene → Prop where
  | step {before after : List Call} {k k' : Call} {s s' : Service} {b : Browser} {now : Nat} :
      B b → k.step? c b now s = some (k', s') →
      Move c B (before ++ k :: after, s) (before ++ k' :: after, s')
  | giveUp {before after : List Call} {k k' : Call} {s s' : Service} :
      k.giveUp? s = some (k', s') → Move c B (before ++ k :: after, s) (before ++ k' :: after, s')
  | close {ks : List Call} {s : Service} {n : Nat} : n ∈ s.leftOpen →
      Move c B (ks, s) (ks, s.closeLeft n)

/-- Any number of moves. -/
abbrev Interleaving (c : PreviewConfig) (B : Browser → Prop) : Scene → Scene → Prop :=
  ReflTransGen (Move c B)

/-- Calls that did nothing yet, on a service that did nothing yet. -/
def outset (jobs : List Call) : Scene :=
  (jobs.zipIdx.map fun (k, i) => { k with number := i, standing := .live .asking },
    { calls := jobs.length })

variable {c : PreviewConfig} {B : Browser → Prop} {b : Browser} {x y : Scene} {s s' : Service}
  {before after ks : List Call} {k k' : Call}

/-! ## Moves are made of changes -/

/-- The least that can happen: a hop of one call, or what comes of giving one up. -/
inductive Change (c : PreviewConfig) (B : Browser → Prop) : Scene → Scene → Prop where
  | hop {before after : List Call} {k : Call} {phase phase' : Phase} {s s' : Service} {b : Browser} :
      B b → k.standing = .live phase → Service.Hop c b k.number k.job (phase, s) (phase', s') →
      Change c B (before ++ k :: after, s)
        (before ++ { k with standing := .ofPhase phase' } :: after, s')
  | giveUp {before after : List Call} {k : Call} {phase : Phase} {s : Service} :
      k.standing = .live phase → phase.isSuspended = true →
      Change c B (before ++ k :: after, s)
        (before ++ { k with standing := .givenUp } :: after, s.abandon k.number phase)
  | close {ks : List Call} {s : Service} {n : Nat} : n ∈ s.leftOpen →
      Change c B (ks, s) (ks, s.closeLeft n)

theorem ofPhase_of_hop {r r' : Phase × Service} {call : Nat} {job : Job}
    (hop : Service.Hop c b call job r r') : Standing.ofPhase r.1 = .live r.1 := by
  cases hop with
  | pageless hn => obtain ⟨_, rfl⟩ | ⟨_, rfl⟩ := hn <;> rfl
  | departed hc => obtain ⟨_, _, rfl, _⟩ | ⟨_, rfl⟩ := hc <;> rfl
  | _ => rfl

theorem step?_eq_some {now : Nat} (hs : k.step? c b now s = some (k', s')) :
    ∃ phase r, k.standing = .live phase ∧ s.step? c b now k.number k.job phase = some r ∧
      k' = { k with standing := .ofPhase r.1 } ∧ s' = r.2 := by
  unfold Call.step? at hs
  split at hs
  · cases hs
  · cases hs
  · rename_i phase hk
    obtain ⟨r, hr, he⟩ := Option.map_eq_some_iff.mp hs
    obtain ⟨rfl, rfl⟩ := Prod.mk.inj he
    exact ⟨phase, r, hk, hr, rfl, rfl⟩

theorem giveUp?_eq_some (hs : k.giveUp? s = some (k', s')) :
    ∃ phase, k.standing = .live phase ∧ phase.isSuspended = true ∧
      k' = { k with standing := .givenUp } ∧ s' = s.abandon k.number phase := by
  unfold Call.giveUp? at hs
  split at hs
  · cases hs
  · cases hs
  · rename_i phase hk
    split at hs
    · rename_i hsuspended
      obtain ⟨rfl, rfl⟩ := Prod.mk.inj (Option.some.inj hs)
      exact ⟨phase, hk, hsuspended, rfl, rfl⟩
    · cases hs

/-- A step of a call is a change for each of its hops. -/
theorem changes_of_step? {now : Nat} (hb : B b) (hs : k.step? c b now s = some (k', s')) :
    TransGen (Change c B) (before ++ k :: after, s) (before ++ k' :: after, s') := by
  obtain ⟨phase, r, hk, hr, rfl, rfl⟩ := step?_eq_some hs
  have hops := Service.hops_of_step? hr
  clear hs hr
  induction hops with
  | single hop => exact .single (.hop hb hk hop)
  | tail _ hop ih =>
      refine .tail ih ?_
      exact Change.hop (k := { k with standing := _ }) hb (ofPhase_of_hop hop) hop

theorem changes_of_move (h : Move c B x y) : TransGen (Change c B) x y := by
  cases h with
  | step hb hs => exact changes_of_step? hb hs
  | giveUp hs =>
      obtain ⟨phase, hk, hsuspended, rfl, rfl⟩ := giveUp?_eq_some hs
      exact .single (.giveUp hk hsuspended)
  | close hn => exact .single (.close hn)

/-- **What every change keeps, every interleaving keeps.** -/
theorem interleaving_induction {P : Scene → Prop} (hchange : ∀ x y, P x → Change c B x y → P y)
    (h : Interleaving c B x y) (h0 : P x) : P y := by
  induction h with
  | refl => exact h0
  | tail _ hmove ih =>
      have hchanges := changes_of_move hmove
      clear hmove
      induction hchanges with
      | single h => exact hchange _ _ ih h
      | tail _ h ih => exact hchange _ _ ih h

/-! ## The scheduler -/

/-- Steps enough end with a call that waits or is done. -/
theorem isSuspended_poll {now call fuel : Nat} {job : Job} {phase phase' : Phase}
    (hpoll : s.poll c b now call job fuel phase = (phase', s')) (hl : phase.stepsLeft < fuel) :
    phase'.isSuspended = true ∨ phase'.isDone = true := by
  induction fuel generalizing s phase with
  | zero => exact absurd hl (Nat.not_lt_zero _)
  | succ fuel ih =>
      unfold Service.poll at hpoll
      split at hpoll
      · rename_i hs
        obtain ⟨rfl, rfl⟩ := Prod.mk.inj hpoll
        cases phase with
        | retiring => cases hs
        | done => exact .inr rfl
        | _ => exact .inl rfl
      · cases hpoll
        exact .inl rfl
      · rename_i next s' _ hs
        have hlt : next.stepsLeft < phase.stepsLeft := Service.stepsLeft_step hs
        exact ih hpoll (Nat.lt_of_lt_of_le hlt (Nat.le_of_lt_succ hl))

/-- Who can take a step is not done. -/
theorem ofPhase_of_step? {now call : Nat} {job : Job} {phase : Phase} {r : Phase × Service}
    (hs : s.step? c b now call job phase = some r) : Standing.ofPhase phase = .live phase := by
  cases phase with
  | done => cases job <;> cases hs
  | _ => rfl

/-- A call that goes on until it has to wait takes one step after another. -/
theorem interleaving_poll {now fuel : Nat} {phase phase' : Phase} (hb : B b)
    (hk : k.standing = .ofPhase phase)
    (hpoll : s.poll c b now k.number k.job fuel phase = (phase', s')) :
    Interleaving c B (before ++ k :: after, s)
      (before ++ { k with standing := .ofPhase phase' } :: after, s') := by
  have same : { k with standing := .ofPhase phase } = k := by rw [← hk]
  induction fuel generalizing s phase k with
  | zero =>
      cases hpoll
      rw [same]
  | succ fuel ih =>
      have step {next : Phase} {t : Service}
          (hs : s.step? c b now k.number k.job phase = some (next, t)) :
          Move c B (before ++ k :: after, s)
            (before ++ { k with standing := .ofPhase next } :: after, t) := by
        have hstep : k.step? c b now s = some ({ k with standing := .ofPhase next }, t) := by
          unfold Call.step?
          rw [hk, ofPhase_of_step? hs]
          exact Option.map_eq_some_iff.mpr ⟨_, hs, rfl⟩
        exact .step hb hstep
      unfold Service.poll at hpoll
      split at hpoll
      · cases hpoll
        rw [same]
      · rename_i hs
        cases hpoll
        exact .single (step hs)
      · rename_i next t _ hs
        exact .head (step hs) (ih (k := { k with standing := .ofPhase next }) rfl hpoll rfl)

/-- A call that is not said to be under way when it is done. -/
def Call.Proper (k : Call) : Prop := (∃ phase, k.standing = .ofPhase phase) ∨ k.standing = .givenUp

/-- To give up a call and to close its page are two moves, if it left one open. -/
theorem interleaving_drop {phase : Phase} (hk : k.standing = .live phase)
    (hp : phase.isSuspended = true) :
    Interleaving c B (before ++ k :: after, s)
      (before ++ { k with standing := .givenUp } :: after, s.drop k.number phase) := by
  have hgiveUp : k.giveUp? s = some ({ k with standing := .givenUp }, s.abandon k.number phase) := by
    unfold Call.giveUp?
    rw [hk]
    exact if_pos hp
  refine .head (.giveUp hgiveUp) ?_
  by_cases hleft : k.number ∈ (s.abandon k.number phase).leftOpen
  · exact .single (.close hleft)
  · have hsame : s.drop k.number phase = s.abandon k.number phase := if_neg hleft
    rw [hsame]

/-- **A turn of a call is an interleaving.** -/
theorem interleaving_turn (before after : List Call) (now : Nat) (s : Service) (hb : B b)
    (hk : k.Proper) :
    Interleaving c B (before ++ k :: after, s)
        (before ++ (k.turn c b now s).1 :: after, (k.turn c b now s).2) ∧
      (k.turn c b now s).1.Proper := by
  unfold Call.turn
  split
  · exact ⟨.refl, hk⟩
  · exact ⟨.refl, hk⟩
  · rename_i phase hlive
    have hof : k.standing = .ofPhase phase := by
      rcases hk with ⟨phase', hk⟩ | hk
      · cases phase' <;> cases hlive.symm.trans hk <;> exact hlive
      · cases hlive.symm.trans hk
    split
    · rename_i outcome t hpoll
      exact ⟨interleaving_poll hb hof hpoll, .inl ⟨.done outcome, rfl⟩⟩
    · rename_i phase' t hnot hpoll
      have hlive' : Standing.ofPhase phase' = .live phase' := by
        cases phase' with
        | done outcome => exact absurd rfl (hnot outcome)
        | _ => rfl
      have hrun : Interleaving c B (before ++ k :: after, s)
          (before ++ { k with standing := .live phase' } :: after, t) := by
        rw [← hlive']
        exact interleaving_poll hb hof hpoll
      -- what a poll leaves is suspended, so a call that is dropped lets go of what it has
      split
      · have hsuspended : phase'.isSuspended = true := by
          rcases isSuspended_poll hpoll (Service.stepsLeft_lt_maxSteps phase) with h | h
          · exact h
          · cases phase' with
            | done outcome => exact absurd rfl (hnot outcome)
            | _ => cases h
        exact ⟨hrun.trans (interleaving_drop rfl hsuspended), .inr rfl⟩
      · exact ⟨hrun, .inl ⟨phase', hlive'.symm⟩⟩

theorem interleaving_round (before : List Call) (now : Nat) (s : Service) (hb : B b)
    (hks : ∀ k ∈ ks, k.Proper) :
    Interleaving c B (before ++ ks, s)
        (before ++ (s.round c b now ks).1, (s.round c b now ks).2) ∧
      ∀ k ∈ (s.round c b now ks).1, k.Proper := by
  induction ks generalizing before s with
  | nil => exact ⟨.refl, hks⟩
  | cons k ks ih =>
      obtain ⟨hturn, hproper⟩ := interleaving_turn (c := c) before ks now s hb
        (hks k List.mem_cons_self)
      obtain ⟨hrest, hall⟩ := ih (before ++ [(k.turn c b now s).1]) (k.turn c b now s).2
        fun k hk => hks k (List.mem_cons_of_mem _ hk)
      rw [List.append_assoc, List.append_assoc] at hrest
      exact ⟨hturn.trans hrest, List.forall_mem_cons.mpr ⟨hproper, hall⟩⟩

/-- **Whatever order the scheduler runs calls in is an interleaving.** -/
theorem interleaving_run {fuel now : Nat} (hb : B b) (hks : ∀ k ∈ ks, k.Proper) :
    Interleaving c B (ks, s) (s.run c b fuel now ks) := by
  induction fuel generalizing now ks s with
  | zero => exact .refl
  | succ fuel ih =>
      obtain ⟨hround, hproper⟩ := interleaving_round (c := c) [] now s hb hks
      unfold Service.run
      dsimp only
      split
      · exact hround
      · exact hround.trans (ih hproper)

theorem standing_outset {jobs : List Call} (hk : k ∈ (outset jobs).1) : k.standing = .live .asking := by
  obtain ⟨_, _, rfl⟩ := List.mem_map.mp hk
  rfl

/-- **So is a run of calls that the scheduler starts.** -/
theorem interleaving_run_outset (jobs : List Call) (fuel : Nat) (hb : B b) :
    Interleaving c B (outset jobs) ((outset jobs).2.run c b fuel 0 (outset jobs).1) :=
  interleaving_run hb fun _ hk => .inl ⟨.asking, standing_outset hk⟩

/-! ## Who waits -/

/-- The slot of the browser is in order, and whoever has it or waits for it is one of the calls. -/
structure Attended (x : Scene) : Prop where
  orderly : x.2.Orderly
  placed : ∀ k ∈ x.1, x.2.Placed k.number k.standing.phase
  distinct : (x.1.map (·.number)).Nodup
  heard : ∀ n ∈ x.2.waiting, ∃ k ∈ x.1, k.number = n

theorem number_outset (jobs : List Call) :
    (outset jobs).1.map (·.number) = List.range jobs.length := by
  rw [List.range_eq_range', ← List.zipIdx_map_snd 0 jobs]
  exact List.map_map

theorem attended_outset (jobs : List Call) : Attended (outset jobs) where
  orderly := ⟨.nil, fun _ => rfl⟩
  placed := by
    intro k hk
    rw [standing_outset hk]
    exact List.not_mem_nil
  distinct := by
    rw [number_outset]
    exact List.nodup_range
  heard := fun n hn => absurd hn List.not_mem_nil

/-- Another call has another number. -/
theorem Attended.ne_number (h : Attended (before ++ k :: after, s)) (hk' : k' ∈ before ++ after) :
    k'.number ≠ k.number := by
  have hd : ((k :: (before ++ after)).map (·.number)).Nodup :=
    (List.perm_middle.map _).nodup_iff.mp h.distinct
  intro he
  exact (List.nodup_cons.mp hd).1 (List.mem_map.mpr ⟨k', hk', he⟩)

/-- What settles the place of one call leaves all of them in order. -/
theorem Attended.settle (h : Attended (before ++ k :: after, s)) (hn : k'.number = k.number)
    (hs : Service.Settled s s' k.number k'.standing.phase) :
    Attended (before ++ k' :: after, s') where
  orderly := hs.orderly
  placed := by
    intro g hg
    rcases mem_focus.mp hg with rfl | hg
    · rw [hn]
      exact hs.placed
    · exact hs.spares.placed (h.ne_number hg) (h.placed g (mem_focus.mpr (.inr hg)))
  distinct := by
    have hd := h.distinct
    rw [List.map_append, List.map_cons] at hd ⊢
    rw [hn]
    exact hd
  heard := by
    intro n hw
    by_cases he : n = k.number
    · exact ⟨k', mem_focus.mpr (.inl rfl), he ▸ hn⟩
    · obtain ⟨g, hg, hgn⟩ := h.heard n ((hs.spares.waiting n he).mp hw)
      rcases mem_focus.mp hg with rfl | hg
      · exact absurd hgn.symm he
      · exact ⟨g, mem_focus.mpr (.inr hg), hgn⟩

theorem Attended.placed_of_live {phase : Phase} (h : Attended (before ++ k :: after, s))
    (hk : k.standing = .live phase) : s.Placed k.number phase := by
  have hp := h.placed k (mem_focus.mpr (.inl rfl))
  rw [hk] at hp
  exact hp

/-- **Every change keeps the slot in order.** -/
theorem attended_change (h : Attended x) (hc : Change c B x y) : Attended y := by
  cases hc with
  | hop hb hk hop =>
      refine h.settle rfl ?_
      rw [Standing.phase_ofPhase]
      exact Service.settled_hop h.orderly (h.placed_of_live hk) hop
  | giveUp hk _ => exact h.settle rfl (Service.settled_abandon h.orderly (h.placed_of_live hk) _)
  | @close ks s n _ =>
      have hh : (s.closeLeft n).holder = s.holder := Service.closeLeft_holder n s
      have hq : (s.closeLeft n).queue = s.queue := Service.closeLeft_queue n s
      have hw : (s.closeLeft n).waiting = s.waiting := Service.waiting_congr hh hq
      exact ⟨Service.orderly_congr h.orderly hh hq,
        fun k hk => Service.placed_congr (h.placed k hk) hh hq, h.distinct,
        fun m hm => h.heard m (hw ▸ hm)⟩

end AppMend.Preview
