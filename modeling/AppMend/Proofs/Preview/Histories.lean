import AppMend.Proofs.Preview.Interleaving

/-!
# What became of pages and documents

The log of a preview service tells what became of the page and of the document of each call. Seen from one
call there are only a few histories, and which of them is possible is known from how far the call got:
`History` lists them.

A hop of a call takes it from one history to the next one (`history_hop`) and adds nothing to that of any
other call, so in every interleaving each call has its history (`kept_interleaving`).
-/

namespace AppMend

/-- Whether a browser gives an error for a page. -/
def Browser.Reports (b : Browser) (e : String) : Prop :=
  b.openError = some e ∨ ∃ document, (b.page document).loading = .failed e

/-- Whether there was no browser, or it could not be closed. -/
def PreviewFailure.IsOfBrowser (e : PreviewFailure) : Prop :=
  (∃ detail, e = .launch detail) ∨ ∃ detail, e = .unavailable detail

namespace Preview

open Relation (ReflTransGen TransGen)
open Incident (documentMade documentRemoved pageOpened pageClosed)

/-- What became of the page and of the document of a call. -/
def Service.historyOf (s : Service) (n : Nat) : List Incident := s.log.filter (·.call? = some n)

def Job.isRender : Job → Bool
  | .render .. => true
  | .launch | .shutdown => false

/-- What comes of a page that was opened; an error is one of those that browsers give. -/
def OfPage (E : String → Prop) (r : Outcome) : Prop :=
  (∃ v, r = .ok (some v)) ∨ ∃ e, E e ∧ r = .error (.page e)

/-- What comes of starting and closing browsers. -/
def OfBrowser (r : Outcome) : Prop := r = .ok none ∨ ∃ e, r = .error e ∧ e.IsOfBrowser

/-- What can have become of the page and of the document of a call: by how far it got, and whether its page
is left open. -/
inductive History (E : String → Prop) (job : Job) (n : Nat) : Standing → Bool → List Incident → Prop where
  | asking : History E job n (.live .asking) false []
  | queued : History E job n (.live .queued) false []
  | launching {deadline : Nat} {started : Except PreviewFailure Unit} :
      (∀ e, started = .error e → e.IsOfBrowser) →
      History E job n (.live (.launching deadline started)) false []
  | retiring {browser : Nat} : History E job n (.live (.retiring browser)) false []
  | closing {deadline : Nat} {outcome : Outcome} : OfBrowser outcome →
      History E job n (.live (.closing deadline outcome)) false []
  | writing : job.isRender = true → History E job n (.live .writing) false [documentMade n]
  | opening {deadline : Nat} : job.isRender = true →
      History E job n (.live (.opening deadline)) false [documentMade n]
  | loading {deadline : Nat} {loaded : Except PreviewFailure Bool} {p : PageBehaviour} :
      job.isRender = true → (∀ e, loaded = .error e → OfPage E (.error e)) →
      History E job n (.live (.loading deadline loaded (.holding p))) false [documentMade n, pageOpened n]
  | settling {deadline : Nat} {p : PageBehaviour} : job.isRender = true →
      History E job n (.live (.settling deadline (.holding p))) false [documentMade n, pageOpened n]
  | looking {deadline : Nat} {outcome : Outcome} {p : PageBehaviour} :
      job.isRender = true → OfPage E outcome →
      History E job n (.live (.looking deadline outcome (.holding p))) false
        [documentMade n, pageOpened n]
  | leaving {deadline : Nat} {outcome : Outcome} : job.isRender = true → OfPage E outcome →
      History E job n (.live (.leaving deadline outcome)) false
        [documentMade n, pageOpened n, pageClosed n]
  | noDocument {outcome : Outcome} :
      OfBrowser outcome ∨ (∃ detail, outcome = .error (.harness detail)) →
      History E job n (.ended outcome) false []
  | noPage {outcome : Outcome} :
      (∃ detail, outcome = .error (.harness detail)) ∨ (∃ e, E e ∧ outcome = .error (.page e)) →
      History E job n (.ended outcome) false [documentMade n, documentRemoved n]
  | ended {outcome : Outcome} : OfPage E outcome →
      History E job n (.ended outcome) false
        [documentMade n, pageOpened n, pageClosed n, documentRemoved n]
  | givenUp : History E job n .givenUp false []
  | givenUpWithDocument : History E job n .givenUp false [documentMade n, documentRemoved n]
  /-- Its page is to be closed. -/
  | givenUpWithPage : History E job n .givenUp true [documentMade n, pageOpened n, documentRemoved n]
  | givenUpThenClosed :
      History E job n .givenUp false [documentMade n, pageOpened n, documentRemoved n, pageClosed n]
  | givenUpLeaving :
      History E job n .givenUp false [documentMade n, pageOpened n, pageClosed n, documentRemoved n]

variable {c : PreviewConfig} {B : Browser → Prop} {E : String → Prop} {b : Browser} {job : Job} {n : Nat}
  {x y : Scene} {s s' t : Service} {before after ks : List Call} {k k' : Call} {phase phase' : Phase}
  {left : Bool} {own own' es : List Incident} {standing : Standing}

/-! ## What is added to the histories -/

/-- What a call adds to its own history; it adds nothing to that of any other call. -/
structure Adds (n : Nat) (s s' : Service) (own : List Incident) : Prop where
  mine : s'.historyOf n = s.historyOf n ++ own
  others : ∀ m, m ≠ n → s'.historyOf m = s.historyOf m

theorem historyOf_append (hlog : s'.log = s.log ++ es) (m : Nat) :
    s'.historyOf m = s.historyOf m ++ es.filter (·.call? = some m) := by
  unfold Service.historyOf
  rw [hlog, List.filter_append]

/-- Incidents of browsers belong to no history. -/
theorem adds_nil (n : Nat) (hlog : s'.log = s.log ++ es) (hes : ∀ i ∈ es, i.call? = none) :
    Adds n s s' [] := by
  have hnone (m : Nat) : es.filter (·.call? = some m) = [] :=
    List.filter_eq_nil_iff.mpr fun i hi => by simp [hes i hi]
  refine ⟨?_, fun m _ => ?_⟩
  · rw [historyOf_append hlog, hnone]
  · rw [historyOf_append hlog, hnone, List.append_nil]

theorem adds_aside (n : Nat) (hlog : s'.log = s.log) : Adds n s s' [] :=
  adds_nil n (by rw [hlog, List.append_nil]) fun _ hi => absurd hi List.not_mem_nil

theorem adds_one {i : Incident} (hi : i.call? = some n) (hlog : s'.log = s.log ++ [i]) :
    Adds n s s' [i] := by
  refine ⟨?_, fun m hm => ?_⟩
  · rw [historyOf_append hlog, List.filter_cons_of_pos (by simp [hi]), List.filter_nil]
  · rw [historyOf_append hlog, List.filter_cons_of_neg (by simp [hi, Ne.symm hm]), List.filter_nil,
      List.append_nil]

theorem Adds.trans (h : Adds n s t own) (h' : Adds n t s' own') : Adds n s s' (own ++ own') where
  mine := by rw [h'.mine, h.mine, List.append_assoc]
  others := fun m hm => (h'.others m hm).trans (h.others m hm)

/-! ## Hops -/

/-- With a browser a call goes on to its document, or it is done and has none. -/
theorem history_withBrowser (E : String → Prop) (b : Browser) (n : Nat) (job : Job) (s : Service) :
    ∃ own, Adds n s (s.withBrowser b n job).2 own ∧ (s.withBrowser b n job).2.leftOpen = s.leftOpen ∧
      History E job n (.ofPhase (s.withBrowser b n job).1) false own := by
  unfold Service.withBrowser
  cases job with
  | render bundle entry =>
      dsimp only
      split
      · exact ⟨_, adds_aside n rfl, rfl, .noDocument (.inr ⟨_, rfl⟩)⟩
      · exact ⟨_, adds_one rfl rfl, rfl, .writing rfl⟩
      · exact ⟨_, adds_one rfl rfl, rfl, .writing rfl⟩
  | launch | shutdown => exact ⟨_, adds_aside n rfl, rfl, .noDocument (.inl (.inl rfl))⟩

theorem isOfBrowser_of_start {e : PreviewFailure} (he : (Service.start c b).2 = .error e) :
    e.IsOfBrowser := by
  unfold Service.start at he
  cases hl : b.launch with
  | done =>
      rw [hl] at he
      dsimp only at he
      split at he <;> cases he
      exact .inl ⟨_, rfl⟩
  | failed detail =>
      rw [hl] at he
      dsimp only at he
      split at he <;> cases he <;> exact .inl ⟨_, rfl⟩
  | missing =>
      rw [hl] at he
      cases he
      exact .inr ⟨_, rfl⟩
  | endless =>
      rw [hl] at he
      cases he
      exact .inl ⟨_, rfl⟩

theorem ofPage_of_load {p : PageBehaviour} {e : PreviewFailure} (hE : ∀ e, p.loading = .failed e → E e)
    (he : (Service.load c p).2 = .error e) : OfPage E (.error e) := by
  unfold Service.load at he
  cases hl : p.loading with
  | done =>
      rw [hl] at he
      dsimp only at he
      split at he <;> cases he
  | failed detail =>
      rw [hl] at he
      dsimp only at he
      split at he <;> cases he
      exact .inr ⟨detail, hE detail hl, rfl⟩
  | endless =>
      rw [hl] at he
      cases he

theorem ofBrowser_closeOutcome (b : Browser) : OfBrowser (Service.closeOutcome b) := by
  unfold Service.closeOutcome
  cases b.closeError with
  | none => exact .inl rfl
  | some e => exact .inr ⟨_, rfl, .inl ⟨e, rfl⟩⟩

/-- **A hop takes a call from one history to the next one.** -/
theorem history_hop {r r' : Phase × Service} (hE : ∀ e, b.Reports e → E e)
    (h : History E job n (.live r.1) left own) (hop : Service.Hop c b n job r r') :
    ∃ own', Adds n r.2 r'.2 own' ∧ r'.2.leftOpen = r.2.leftOpen ∧
      History E job n (.ofPhase r'.1) left (own ++ own') := by
  have letGo (s : Service) : (s.letGo n .empty).leftOpen = s.leftOpen := List.append_nil _
  have browser {s t : Service} (ht : Adds n s t []) (hl : t.leftOpen = s.leftOpen) :
      ∃ own', Adds n s (t.withBrowser b n job).2 own' ∧
        (t.withBrowser b n job).2.leftOpen = s.leftOpen ∧
        History E job n (.ofPhase (t.withBrowser b n job).1) false ([] ++ own') := by
    obtain ⟨own', hadds, hleft, hnext⟩ := history_withBrowser E b n job t
    exact ⟨own', ht.trans hadds, hleft.trans hl, hnext⟩
  cases hop with
  -- on the way to a browser
  | given =>
      cases h
      exact ⟨[], adds_aside n rfl, rfl, .queued⟩
  | enqueued =>
      cases h
      exact ⟨[], adds_aside n rfl, rfl, .queued⟩
  | found =>
      cases h
      exact browser (adds_aside n (Service.pass_log _)) (Service.pass_leftOpen _)
  | missing =>
      cases h
      exact ⟨[], adds_aside n (Service.pass_log _), Service.pass_leftOpen _,
        .noDocument (.inl (.inr ⟨_, rfl, .inr ⟨_, rfl⟩⟩))⟩
  | tried =>
      cases h
      exact ⟨[], adds_nil n rfl (by simp [Incident.call?]), rfl, .launching fun _ => isOfBrowser_of_start⟩
  | started =>
      cases h
      exact browser (adds_nil n (Service.pass_log _) (by simp [Incident.call?])) (Service.pass_leftOpen _)
  | unstarted =>
      cases h with
      | launching hs =>
          exact ⟨[], adds_nil n (Service.pass_log _) (by simp [Incident.call?]), Service.pass_leftOpen _,
            .noDocument (.inl (.inr ⟨_, rfl, hs _ rfl⟩))⟩
  -- a shutdown
  | idle =>
      cases h
      exact ⟨[], adds_aside n (Service.pass_log _), Service.pass_leftOpen _, .noDocument (.inl (.inl rfl))⟩
  | takenOut =>
      cases h
      exact ⟨[], adds_aside n (Service.pass_log _), Service.pass_leftOpen _, .retiring⟩
  | retired =>
      cases h
      exact ⟨[], adds_nil n rfl (by simp [Incident.call?]), rfl, .closing (ofBrowser_closeOutcome b)⟩
  | shut =>
      cases h with
      | closing ho => exact ⟨[], adds_aside n rfl, rfl, .noDocument (.inl ho)⟩
  -- a render that has a document, and no page yet
  | unwritten =>
      cases h
      exact ⟨_, adds_one rfl rfl, letGo _, .noPage (.inl ⟨_, rfl⟩)⟩
  | written =>
      cases h with
      | writing hj => exact ⟨[], adds_aside n rfl, rfl, .opening hj⟩
  | unopened he =>
      cases h with
      | opening hj => exact ⟨_, adds_one rfl rfl, letGo _, .noPage (.inr ⟨_, hE _ (.inl he), rfl⟩)⟩
  | opened =>
      cases h with
      | opening hj =>
          refine ⟨_, adds_one rfl rfl, rfl, .loading hj fun e he => ofPage_of_load (fun e hl => ?_) he⟩
          exact hE e (.inr ⟨_, hl⟩)
  -- a render that has a page
  | loaded =>
      cases h with
      | loading hj => exact ⟨[], adds_aside n rfl, rfl, .settling hj⟩
  | late =>
      cases h with
      | loading hj => exact ⟨_, adds_one rfl rfl, rfl, .leaving hj (.inl ⟨_, rfl⟩)⟩
  | unloaded =>
      cases h with
      | loading hj hl => exact ⟨_, adds_one rfl rfl, rfl, .leaving hj (hl _ rfl)⟩
  | settled =>
      cases h with
      | settling hj => exact ⟨[], adds_aside n rfl, rfl, .looking hj (.inl ⟨_, rfl⟩)⟩
  | looked =>
      cases h with
      | looking hj ho => exact ⟨_, adds_one rfl rfl, rfl, .leaving hj ho⟩
  | left =>
      cases h with
      | leaving hj ho => exact ⟨_, adds_one rfl rfl, letGo _, .ended ho⟩
  -- phases that no history leads to
  | pageless hn =>
      obtain ⟨_, rfl⟩ | ⟨_, rfl⟩ := hn <;> cases h
  | departed hc =>
      obtain ⟨_, _, rfl, _⟩ | ⟨_, rfl⟩ := hc <;> cases h

/-- **A call that is given up lets go of what it has**; only its page may be left open. -/
theorem history_abandon (h : History E job n (.live phase) left own) (hs : phase.isSuspended = true) :
    ∃ own', Adds n s (s.abandon n phase) own' ∧
      ((s.abandon n phase).leftOpen = s.leftOpen ∧ History E job n .givenUp false (own ++ own') ∨
        (s.abandon n phase).leftOpen = s.leftOpen ++ [n] ∧
          History E job n .givenUp true (own ++ own')) := by
  have document (g : PageGuard) : Adds n s (s.letGo n g) [documentRemoved n] := adds_one rfl rfl
  have hleft : (s.letGo n .empty).leftOpen = s.leftOpen := List.append_nil _
  cases h with
  | asking => exact ⟨[], adds_aside n rfl, .inl ⟨rfl, .givenUp⟩⟩
  | queued =>
      exact ⟨[], adds_aside n (Service.withdraw_log ..), .inl ⟨Service.withdraw_leftOpen .., .givenUp⟩⟩
  | launching =>
      exact ⟨[], adds_nil n (Service.withdraw_log ..) (by simp [Incident.call?]),
        .inl ⟨Service.withdraw_leftOpen .., .givenUp⟩⟩
  | retiring => cases hs
  | closing => exact ⟨[], adds_aside n rfl, .inl ⟨rfl, .givenUp⟩⟩
  | writing | opening => exact ⟨_, document _, .inl ⟨hleft, .givenUpWithDocument⟩⟩
  | loading | settling | looking => exact ⟨_, document _, .inr ⟨rfl, .givenUpWithPage⟩⟩
  | leaving => exact ⟨_, document _, .inl ⟨hleft, .givenUpLeaving⟩⟩

theorem History.eq_false_of_live (h : History E job n (.live phase) left own) : left = false := by
  cases h <;> rfl

/-- A page that was left open is closed once. -/
theorem History.close (h : History E job n standing true own) :
    History E job n standing false (own ++ [pageClosed n]) := by
  cases h with
  | givenUpWithPage => exact .givenUpThenClosed

/-! ## All calls -/

/-- Every call has its history, and nobody else has one. -/
structure Kept (E : String → Prop) (x : Scene) : Prop where
  history : ∀ k ∈ x.1, History E k.job k.number k.standing (decide (k.number ∈ x.2.leftOpen))
    (x.2.historyOf k.number)
  strangers : ∀ m, (∀ k ∈ x.1, k.number ≠ m) → x.2.historyOf m = []
  leftOpen : ∀ m ∈ x.2.leftOpen, ∃ k ∈ x.1, k.number = m
  distinct : x.2.leftOpen.Nodup

theorem kept_outset (E : String → Prop) (jobs : List Call) : Kept E (outset jobs) where
  history := by
    intro k hk
    rw [standing_outset hk]
    exact .asking
  strangers := fun _ _ => rfl
  leftOpen := fun _ hm => absurd hm List.not_mem_nil
  distinct := .nil

/-- What a call adds to its own history changes nothing for the others. -/
theorem Kept.settle (h : Kept E (before ++ k :: after, s)) (ha : Attended (before ++ k :: after, s))
    (hn : k'.number = k.number) (hadds : Adds k.number s s' own)
    (hk' : History E k'.job k'.number k'.standing (decide (k'.number ∈ s'.leftOpen))
      (s.historyOf k.number ++ own))
    (hleft : ∀ m, m ≠ k.number → (m ∈ s'.leftOpen ↔ m ∈ s.leftOpen)) (hd : s'.leftOpen.Nodup) :
    Kept E (before ++ k' :: after, s') where
  history := by
    intro g hg
    rcases mem_focus.mp hg with rfl | hg
    · have hown : s'.historyOf g.number = s.historyOf k.number ++ own := by rw [hn, hadds.mine]
      exact hown ▸ hk'
    -- the numbers of the calls differ, so nothing of this is in the history of another
    · have hne : g.number ≠ k.number := ha.ne_number hg
      show History _ _ _ _ (decide (g.number ∈ s'.leftOpen)) (s'.historyOf g.number)
      rw [hadds.others _ hne, decide_eq_decide.mpr (hleft _ hne)]
      exact h.history g (mem_focus.mpr (.inr hg))
  strangers := by
    intro m hm
    have hne : m ≠ k.number := fun he => hm k' (mem_focus.mpr (.inl rfl)) (hn.trans he.symm)
    refine (hadds.others m hne).trans (h.strangers m fun g hg => ?_)
    rcases mem_focus.mp hg with rfl | hg
    · exact hne.symm
    · exact hm g (mem_focus.mpr (.inr hg))
  leftOpen := by
    intro m hm
    by_cases he : m = k.number
    · exact ⟨k', mem_focus.mpr (.inl rfl), hn.trans he.symm⟩
    · obtain ⟨g, hg, hgm⟩ := h.leftOpen m ((hleft m he).mp hm)
      rcases mem_focus.mp hg with rfl | hg
      · exact absurd hgm.symm he
      · exact ⟨g, mem_focus.mpr (.inr hg), hgm⟩
  distinct := hd

/-- **Every change keeps every history.** -/
theorem kept_change (hE : ∀ b, B b → ∀ e, b.Reports e → E e) (ha : Attended x) (h : Kept E x)
    (hc : Change c B x y) : Kept E y := by
  cases hc with
  | @hop before after k phase phase' s s' b hb hk hop =>
      have hown := h.history k (mem_focus.mpr (.inl rfl))
      rw [hk] at hown
      obtain ⟨own', hadds, hleft, hnext⟩ := history_hop (r := (phase, s)) (hE b hb) hown hop
      refine h.settle ha rfl hadds ?_ (fun m _ => by rw [hleft]) (hleft ▸ h.distinct)
      rw [hleft]
      exact hnext
  | @giveUp before after k phase s hk hsuspended =>
      have hown := h.history k (mem_focus.mpr (.inl rfl))
      rw [hk] at hown
      have hclosed : k.number ∉ s.leftOpen := of_decide_eq_false hown.eq_false_of_live
      rw [hown.eq_false_of_live] at hown
      obtain ⟨own', hadds, ⟨hleft, hnext⟩ | ⟨hleft, hnext⟩⟩ := history_abandon (s := s) hown hsuspended
      · refine h.settle ha rfl hadds ?_ (fun m _ => by rw [hleft]) (hleft ▸ h.distinct)
        rw [hleft, decide_eq_false hclosed]
        exact hnext
      · refine h.settle ha rfl hadds ?_ (fun m hm => by rw [hleft]; simp [hm]) ?_
        · rw [hleft, decide_eq_true (List.mem_append_right _ (List.mem_singleton_self _))]
          exact hnext
        · rw [hleft]
          exact List.nodup_append.mpr ⟨h.distinct, by simp, by
            intro m hm m' hm'
            rw [List.mem_singleton.mp hm']
            exact fun he => hclosed (he ▸ hm)⟩
  | @close ks s n hn =>
      -- it is the page of one of the calls, which was given up
      obtain ⟨k, hk, rfl⟩ := h.leftOpen n hn
      obtain ⟨before, after, rfl⟩ := List.append_of_mem hk
      have hown := h.history k hk
      rw [decide_eq_true hn] at hown
      have he : s.closeLeft k.number =
          { s with leftOpen := s.leftOpen.erase k.number }.note [pageClosed k.number] := if_pos hn
      have hadds : Adds k.number s (s.closeLeft k.number) [pageClosed k.number] :=
        adds_one rfl (by rw [he]; rfl)
      have hleft : (s.closeLeft k.number).leftOpen = s.leftOpen.erase k.number := by rw [he]; rfl
      refine h.settle ha rfl hadds ?_ (fun m hm => ?_) (hleft ▸ h.distinct.erase _)
      · rw [hleft, decide_eq_false (h.distinct.not_mem_erase)]
        exact hown.close
      · rw [hleft, List.mem_erase_of_ne hm]

/-- **So does every interleaving.** -/
theorem kept_interleaving (hE : ∀ b, B b → ∀ e, b.Reports e → E e) (h : Interleaving c B x y)
    (ha : Attended x) (hk : Kept E x) : Attended y ∧ Kept E y :=
  interleaving_induction (P := fun x => Attended x ∧ Kept E x)
    (fun _ _ hx hc => ⟨attended_change hx.1 hc, kept_change hE hx.1 hx.2 hc⟩) h ⟨ha, hk⟩

end Preview

end AppMend
