import AppMend.Proofs.Focus
import AppMend.Proofs.Heal.Interleaving
import AppMend.Proofs.Heal.Journal
import Mathlib.Data.List.Nodup

/-!
# One heal at a time for each session

Calls of heals on one registry, with their steps in any order, each called off or dropped at any time. The
registry holds the sessions of the calls that are under way and nothing else (`Leased`), and it holds each
session once. So two calls of a session are never under way together, and who comes second is turned away
and changes nothing (`session_exclusion`).
-/

namespace AppMend

open Preview (Phase Service)

/-! ## What a session is called -/

namespace Session

variable {s t : Session} {es : List HealEvent} {p : Pass} {d : Diagnosis}

theorem name_onPass (h : s.onPass p = .ok (t, es)) : t.name = s.name := by
  obtain ⟨_, _, _, _, rfl, _⟩ := onPass_eq_ok h
  rfl

theorem name_onGenerated {answer : Generated} (h : s.onGenerated d answer = .ok (t, es)) :
    t.name = s.name := by
  cases ha : answer.checked with
  | ok files =>
      obtain ⟨_, _, rfl⟩ := onGenerated_eq_ok ha h
      rfl
  | error e =>
      obtain ⟨_, _, _, rfl, _⟩ := onGenerated_eq_error ha h
      rfl

theorem name_onCalledOff {during : String} (h : s.onCalledOff during = .ok (t, es)) :
    t.name = s.name := by
  obtain ⟨_, _, rfl⟩ := onCalledOff_eq_ok h
  rfl

end Session

namespace Activity

/-- The lease that a heal of a session has. -/
def lease? (name : String) : Activity → Option String
  | .ready _ | .rendering .. | .awaiting .. => some name
  | .unstarted | .ended _ => none

/-- Whether a heal did nothing, because it has not begun or was turned away. -/
def isIdle : Activity → Bool
  | .unstarted | .ended (.error (.busy _)) => true
  | .ready _ | .rendering .. | .awaiting .. | .ended (.ok _) | .ended (.error (.transition _)) => false

/-- A heal is at the session that it was called for. -/
def Named (name : String) : Activity → Prop
  | .ready s | .rendering s .. | .awaiting s .. => s.name = name
  | .unstarted | .ended _ => True

end Activity

/-- What can be done with the lease of a session: by who has it or has not, and in the registry. -/
inductive LeaseMove (name : String) :
    Option String → Registry → Option String → Registry → Prop where
  | same {o : Option String} {r : Registry} : LeaseMove name o r o r
  | taken {r r' : Registry} : name ∉ r.active → r'.active = name :: r.active →
      LeaseMove name none r (some name) r'
  | given {r : Registry} : LeaseMove name (some name) r none (r.release name)

namespace Heal

variable {w : HealWorld} {now : Nat} {x x' : HealShared} {name : String} {a a' : Activity}

/-- After a step of its session a heal goes on with its lease, or gives it back. -/
theorem leaseMove_after (y : HealShared) {s : Session} {r : SessionStep} (hn : s.name = name)
    (hr : ∀ t es, r = .ok (t, es) → t.name = s.name) :
    LeaseMove name (some name) y.registry ((after y s.name r).1.lease? name)
      (after y s.name r).2.registry ∧ (after y s.name r).1.Named name := by
  cases r with
  | ok r =>
      obtain ⟨t, es⟩ := r
      exact ⟨.same, (hr t es rfl).trans hn⟩
  | error e =>
      subst hn
      exact ⟨.given, trivial⟩

/-- **What a step of a heal does with the lease of its session.** -/
theorem leaseMove_of_step (hn : a.Named name) (hs : Step w now name x a a' x') :
    LeaseMove name (a.lease? name) x.registry (a'.lease? name) x'.registry ∧ a'.Named name := by
  cases hs with
  | turnedAway => exact ⟨.same, trivial⟩
  | leased hl =>
      unfold Registry.lease at hl
      split at hl
      · cases hl
      · rename_i hm
        cases hl
        exact ⟨.taken hm rfl, rfl⟩
  | finished =>
      cases hn
      exact ⟨.given, trivial⟩
  | toRender | asked | previewed => exact ⟨.same, hn⟩
  | passCalledOff => exact leaseMove_after x hn fun _ _ => Session.name_onCalledOff
  | passed => exact leaseMove_after x hn fun _ _ => Session.name_onPass
  | @askedCalledOff s d =>
      exact leaseMove_after { x with requests := s.request d :: x.requests, stopped := true } hn
        fun _ _ => Session.name_onCalledOff
  | rendered => exact leaseMove_after x hn fun _ _ => Session.name_onPass
  | @previewCalledOff s p code entry call phase =>
      exact leaseMove_after { x with service := x.service.drop call phase } hn
        fun _ _ => Session.name_onCalledOff
  | answerCalledOff => exact leaseMove_after x hn fun _ _ => Session.name_onCalledOff
  | answered => exact leaseMove_after x hn fun _ _ => Session.name_onGenerated

/-- A heal that did nothing yet changes nothing when it is turned away. -/
theorem eq_of_idle (hs : Step w now name x a a' x') (hi : a'.isIdle = true) :
    a.isIdle = true ∧ x' = x := by
  have after {y : HealShared} {session : String} {r : SessionStep}
      (hi : (after y session r).1.isIdle = true) : False := by
    cases r <;> cases hi
  cases hs with
  | turnedAway => exact ⟨rfl, rfl⟩
  | leased | finished | toRender | asked | previewed => cases hi
  | passCalledOff | passed | rendered | answerCalledOff | answered | askedCalledOff
  | previewCalledOff => exact (after hi).elim

end Heal

namespace HealCall

/-- The session that a call has a lease of. -/
def lease? (k : HealCall) : Option String :=
  if k.dropped then none else k.heal.activity.lease? k.heal.session

/-- Whether a call was turned away because its session was leased. -/
def isRejected (k : HealCall) : Bool :=
  match k.heal.activity with
  | .ended (.error (.busy _)) => true
  | _ => false

/-- Whether a call has ended or was dropped. -/
def isOver (k : HealCall) : Bool :=
  k.dropped || match k.heal.activity with
    | .ended _ => true
    | _ => false

variable {w : HealWorld} {now : Nat} {x x' : HealShared} {y z : Scene} {k k' : HealCall}
  {before after ks : List HealCall} {ts : List Turn} {session : String}

/-! ## What a move does to leases -/

theorem lease?_live (hd : k.dropped = false) :
    k.lease? = k.heal.activity.lease? k.heal.session := by
  unfold lease?
  rw [hd]
  rfl

theorem lease?_isOver (ho : k.isOver = true) : k.lease? = none := by
  unfold isOver at ho
  cases hd : k.dropped with
  | true =>
      unfold lease?
      rw [hd]
      rfl
  | false =>
      rw [hd, Bool.false_or] at ho
      rw [lease?_live hd]
      split at ho
      · rename_i he
        rw [he]
        rfl
      · cases ho

theorem share_view : share x (k.view x) = x := rfl

/-- **What a move does with the leases of its call and of all.** -/
theorem leaseMove_of_move (hn : k.heal.activity.Named k.heal.session) (hm : Move k x k' x') :
    LeaseMove k.heal.session k.lease? x.registry k'.lease? x'.registry ∧
      k'.heal.activity.Named k'.heal.session := by
  cases hm with
  | cancel => exact ⟨.same, hn⟩
  | step hs =>
      obtain ⟨hs⟩ := hs
      obtain ⟨h, y, hd, hsession, hstep, rfl, rfl⟩ := step?_eq_some hs
      obtain ⟨hl, hn'⟩ := Heal.leaseMove_of_step hn hstep
      refine ⟨?_, hsession ▸ hn'⟩
      rw [lease?_live hd, lease?_live (k := { k with heal := h, cancelled := y.calledOff }) hd, hsession]
      exact hl
  | drop hd =>
      obtain ⟨hlive, rfl, rfl⟩ := drop?_eq_some hd
      refine ⟨?_, hn⟩
      rw [lease?_live hlive]
      show LeaseMove _ _ _ none _
      unfold letGo
      revert hn
      cases k.heal.activity with
      | unstarted | ended =>
          intro
          exact .same
      | ready | rendering | awaiting =>
          intro hn
          dsimp only
          rw [show _ = k.heal.session from hn]
          exact .given

/-- What a call does up to when it is turned away changes nothing. -/
theorem idle_of_move (hm : Move k x k' x') (hi : k'.heal.activity.isIdle = true) :
    k.heal.activity.isIdle = true ∧ x' = x := by
  cases hm with
  | cancel => exact ⟨hi, rfl⟩
  | step hs =>
      obtain ⟨hs⟩ := hs
      obtain ⟨h, y, _, _, hstep, rfl, rfl⟩ := step?_eq_some hs
      obtain ⟨hk, rfl⟩ := Heal.eq_of_idle hstep hi
      exact ⟨hk, share_view⟩
  | drop hd =>
      obtain ⟨_, rfl, rfl⟩ := drop?_eq_some hd
      refine ⟨hi, ?_⟩
      change k.heal.activity.isIdle = true at hi
      unfold letGo
      cases hk : k.heal.activity with
      | unstarted | ended => rfl
      | ready | rendering | awaiting =>
          rw [hk] at hi
          cases hi

/-! ## What every interleaving keeps -/

/-- The registry holds the sessions of the calls that are under way, and nothing else. -/
structure Leased (z : Scene) : Prop where
  active : z.2.registry.active.Perm (z.1.filterMap lease?)
  named : ∀ k ∈ z.1, k.heal.activity.Named k.heal.session

theorem leased_start (hx : x.registry.active = []) (hk : ∀ k ∈ ks, k.heal.activity = .unstarted) :
    Leased (ks, x) where
  active := by
    have : ks.filterMap lease? = [] := by
      rw [List.filterMap_eq_nil_iff]
      intro k hm
      unfold lease?
      rw [hk k hm]
      split <;> rfl
    rw [this, hx]
  named := by
    intro k hm
    rw [hk k hm]
    trivial

theorem leased_move (h0 : Leased (before ++ k :: after, x)) (hm : Move k x k' x') :
    Leased (before ++ k' :: after, x') := by
  obtain ⟨hlease, hn⟩ := leaseMove_of_move (h0.named k (mem_focus.mpr (.inl rfl))) hm
  refine ⟨?_, ?_⟩
  · -- the call stands first, in the registry and among the leases
    have hold := h0.active.trans (List.perm_middle.filterMap lease?)
    refine List.Perm.trans ?_ (List.perm_middle.filterMap lease?).symm
    rw [List.filterMap_cons] at hold ⊢
    generalize k.lease? = o at hlease hold
    generalize k'.lease? = o' at hlease
    generalize x'.registry = r' at hlease
    cases hlease with
    | same => exact hold
    | taken _ hactive =>
        rw [hactive]
        exact hold.cons _
    | given =>
        have := hold.erase k.heal.session
        rwa [List.erase_cons_head] at this
  · intro g hg
    rcases mem_focus.mp hg with rfl | hg
    · exact hn
    · exact h0.named g (mem_focus.mpr (.inr hg))

/-- What the moves of a call did that has done nothing but be turned away. -/
def Spotless (ts : List Turn) (ks : List HealCall) : Prop :=
  ∀ t ∈ ts, ∀ k, ks[t.call]? = some k → k.heal.activity.isIdle = true → t.after = t.before

theorem spotless_move (h0 : Spotless ts (before ++ k :: after)) (hm : Move k x k' x') :
    Spotless (⟨before.length, x, x'⟩ :: ts) (before ++ k' :: after) := by
  intro t ht g hg hi
  by_cases hown : t.call = before.length
  · rw [hown, getElem?_focus] at hg
    obtain rfl := Option.some.inj hg
    obtain ⟨hk, hx⟩ := idle_of_move hm hi
    rcases List.mem_cons.mp ht with rfl | ht
    · exact hx
    · exact h0 t ht k (hown ▸ getElem?_focus) hk
  · rcases List.mem_cons.mp ht with rfl | ht
    · exact absurd rfl hown
    · rw [getElem?_other hown] at hg
      exact h0 t ht g hg hi

theorem spotless_interleaving (h : Interleaving Move y ts z) : Spotless ts z.1 := by
  induction h with
  | refl => exact fun t ht => by cases ht
  | move _ hm ih => exact spotless_move ih hm

/-! ## Exclusion -/

/-- What holds of calls at a moment, with the moves that led there. -/
structure Exclusive (ts : List Turn) (ks : List HealCall) (x : HealShared) : Prop where
  /-- The registry holds the leases of the calls, and each session once. -/
  active : x.registry.active.Perm (ks.filterMap lease?)
  isActive : ∀ session, x.registry.isActive session = true ↔ ∃ k ∈ ks, k.lease? = some session
  /-- Two calls that have a lease of one session are one call. -/
  alone : ∀ i j : Nat, ∀ k k' session, ks[i]? = some k → ks[j]? = some k' →
    k.lease? = some session → k'.lease? = some session → i = j
  /-- No move of a call that was turned away changed anything that is shared. -/
  rejected : ∀ t ∈ ts, ∀ k, ks[t.call]? = some k → k.isRejected = true → t.after = t.before
  /-- A call that begins is turned away if its session is leased, and has the lease otherwise. -/
  admitted : ∀ k ∈ ks, k.heal.activity = .unstarted → ∀ w k' x', Step w k x k' x' →
    if x.registry.isActive k.heal.session then k'.isRejected = true ∧ x' = x
    else k'.lease? = some k.heal.session ∧ x'.registry.isActive k.heal.session = true
  /-- A move after which a call has its lease no longer gives it back. -/
  released : ∀ k ∈ ks, ∀ k' x' session, k.lease? = some session → k'.lease? = none →
    Move k x k' x' → x'.registry.isActive session = false
  empty : (∀ k ∈ ks, k.isOver = true) → x.registry.active = []

/-- Two places at which a list says the same are one place, if it says each thing once. -/
theorem filterMap_alone {α β : Type} {f : α → Option β} {as : List α} {b : β} {i j : Nat} {c d : α}
    (hn : (as.filterMap f).Nodup) (hi : as[i]? = some c) (hj : as[j]? = some d) (hc : f c = some b)
    (hd : f d = some b) : i = j := by
  have hp := List.pairwise_iff_getElem.mp (List.pairwise_filterMap.mp hn)
  obtain ⟨hil, rfl⟩ := List.getElem?_eq_some_iff.mp hi
  obtain ⟨hjl, rfl⟩ := List.getElem?_eq_some_iff.mp hj
  rcases Nat.lt_trichotomy i j with hlt | he | hlt
  · exact absurd rfl (hp i j hil hjl hlt b hc b hd)
  · exact he
  · exact absurd rfl (hp j i hjl hil hlt b hd b hc)

theorem isActive_iff (h0 : Leased (ks, x)) :
    x.registry.isActive session = true ↔ ∃ k ∈ ks, k.lease? = some session := by
  unfold Registry.isActive
  rw [List.contains_iff_mem, h0.active.mem_iff, List.mem_filterMap]

/-- How a call begins. -/
theorem admitted (hk : k.heal.activity = .unstarted) (hs : Step w k x k' x') :
    if x.registry.isActive k.heal.session then k'.isRejected = true ∧ x' = x
    else k'.lease? = some k.heal.session ∧ x'.registry.isActive k.heal.session = true := by
  obtain ⟨hs⟩ := hs
  obtain ⟨⟨name, a'⟩, y, hd, rfl, hstep, rfl, rfl⟩ := step?_eq_some hs
  rw [hk] at hstep
  cases hstep with
  | turnedAway he =>
      unfold Registry.lease at he
      split at he
      · rename_i hm
        have hbusy : x.registry.isActive k.heal.session = true := List.contains_iff_mem.mpr hm
        rw [if_pos hbusy]
        exact ⟨rfl, share_view⟩
      · cases he
  | leased hl =>
      have hactive := Registry.isActive_lease hl k.heal.session
      rw [beq_self_eq_true, Bool.true_or] at hactive
      unfold Registry.lease at hl
      split at hl
      · cases hl
      · rename_i hm
        have hfree : x.registry.isActive k.heal.session ≠ true :=
          fun hc => hm (List.contains_iff_mem.mp hc)
        rw [if_neg hfree]
        exact ⟨lease?_live hd, hactive⟩

/-- **One heal at a time for each session.** Of calls of heals on one registry, with their moves in any
order, no two have a lease of one session at the same time. The registry holds just the leases of the calls
that are under way. Who is turned away changes nothing, every call gives its lease back in the end, and when
all calls have ended or were dropped no session is leased. -/
theorem session_exclusion {calls ks : List HealCall} {x₀ x : HealShared} {ts : List Turn}
    (hx : x₀.registry.active = []) (hk : ∀ k ∈ calls, k.heal.activity = .unstarted)
    (h : Interleaving Move (calls, x₀) ts (ks, x)) : Exclusive ts ks x := by
  have hleased : Leased (ks, x) :=
    interleaving_induction (P := Leased) (fun _ _ _ _ _ _ h0 hm => leased_move h0 hm) h
      (leased_start hx hk)
  have honce : (ks.filterMap lease?).Nodup := hleased.active.nodup_iff.mp x.registry.distinct
  have hspotless : Spotless ts ks := spotless_interleaving h
  refine ⟨hleased.active, fun _ => isActive_iff hleased, ?_, ?_, ?_, ?_, ?_⟩
  · intro i j k k' session hi hj hs hs'
    exact filterMap_alone honce hi hj hs hs'
  -- who is turned away has changed nothing
  · intro t ht k hk hr
    refine hspotless t ht k hk ?_
    unfold isRejected at hr
    split at hr
    · rename_i he
      rw [he]
      rfl
    · cases hr
  · intro k _ hk w k' x' hs
    exact admitted hk hs
  -- a lease goes back in the move that ends its call
  · intro k hm k' x' session hs hs' hmove
    obtain ⟨hlease, _⟩ := leaseMove_of_move (hleased.named k hm) hmove
    rw [hs, hs'] at hlease
    generalize x'.registry = r' at hlease
    cases hlease
    rw [Registry.isActive_release]
    simp
  · intro hover
    have : ks.filterMap lease? = [] := by
      rw [List.filterMap_eq_nil_iff]
      exact fun k hm => lease?_isOver (hover k hm)
    have hp := hleased.active
    rw [this] at hp
    exact hp.eq_nil

/-- A call of a heal that has not begun. -/
def early : HealCall where
  heal := { session := "s" }
  prompt := "an app"
  files := .ofList []

/-- Of two calls of a session the first is dropped after the second was turned away. -/
theorem session_exclusion_dropped :
    ∃ ts k k' x, Interleaving Move ([early, early], {}) ts ([k, k'], x) ∧ Exclusive ts [k, k'] x ∧
      k.dropped = true ∧ k'.isRejected = true ∧ ts.length = 3 ∧ x.registry.active = [] := by
  have hleased : Interleaving Move ([early, early], {}) _ (_, _) :=
    @Interleaving.move Move _ _ [] [early] early _ _ _ .refl
      (.step (@Step.mk Heals.faltering 0 _ _ _ _ rfl))
  have hrejected := @Interleaving.move Move _ _ [_] [] _ _ _ _ hleased
    (.step (@Step.mk Heals.faltering 0 _ _ _ _ rfl))
  have hdropped := @Interleaving.move Move _ _ [] [_] _ _ _ _ hrejected (.drop rfl)
  exact ⟨_, _, _, _, hdropped, session_exclusion rfl (by simp [early]) hdropped, rfl, rfl, rfl, rfl⟩

end HealCall

end AppMend
