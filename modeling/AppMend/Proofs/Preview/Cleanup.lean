import AppMend.Proofs.Preview.Histories
import Mathlib.Data.List.Nodup

/-!
# No page and no document is left behind

What the histories of calls say in the end: a rendering has its document removed, and a page that it opened
is closed, once and after it was opened. Only a rendering that was given up may leave its page open, and
then the page is closed later (`pages_and_documents_let_go`).

It does come to an end: as long as a call is under way, one of them can take a step (`exists_move`).
-/

namespace AppMend

namespace Preview

open Incident (documentMade documentRemoved pageOpened pageClosed)

variable {c : PreviewConfig} {B : Browser → Prop} {E : String → Prop} {b : Browser} {job : Job} {n : Nat}
  {x : Scene} {s : Service} {ks : List Call} {k : Call} {phase : Phase} {left : Bool}
  {own : List Incident} {standing : Standing}

/-! ## What the histories say -/

theorem mem_historyOf {i : Incident} (hi : i.call? = some n) : i ∈ s.historyOf n ↔ i ∈ s.log := by
  simp [Service.historyOf, hi]

theorem count_historyOf {i : Incident} (hi : i.call? = some n) :
    (s.historyOf n).count i = s.log.count i :=
  List.count_filter (by simpa using hi)

theorem History.count_le_one (h : History E job n standing left own) (i : Incident) :
    own.count i ≤ 1 := by
  refine List.nodup_iff_count_le_one.mp ?_ i
  cases h <;> simp

/-- A call that is over has closed its page, unless it left it open. -/
theorem History.closed (h : History E job n standing left own) (hover : ∀ phase, standing ≠ .live phase)
    (hopened : pageOpened n ∈ own) :
    [pageOpened n, pageClosed n].Sublist own ∧ left = false ∨
      standing = .givenUp ∧ pageClosed n ∉ own ∧ left = true := by
  cases h with
  | ended => exact .inl ⟨by simp, rfl⟩
  | givenUpThenClosed => exact .inl ⟨by simp, rfl⟩
  | givenUpLeaving => exact .inl ⟨by simp, rfl⟩
  | givenUpWithPage => exact .inr ⟨rfl, by simp, rfl⟩
  | noDocument | noPage | givenUp | givenUpWithDocument => simp at hopened
  | _ => exact absurd rfl (hover _)

/-- In the end every document is removed, and what was opened is closed or left open. -/
theorem History.balance (h : History E job n standing left own) (hover : ∀ phase, standing ≠ .live phase) :
    own.count (pageOpened n) = own.count (pageClosed n) + (if left = true then 1 else 0) ∧
      own.count (documentMade n) = own.count (documentRemoved n) := by
  cases h with
  | noDocument | noPage | ended | givenUp | givenUpWithDocument | givenUpWithPage
  | givenUpThenClosed | givenUpLeaving => simp
  | _ => exact absurd rfl (hover _)

/-- Without a browser or a document there is no page. -/
theorem History.not_opened {e : PreviewFailure} (h : History E job n (.ended (.error e)) left own)
    (he : e.IsOfBrowser ∨ ∃ detail, e = .harness detail) : pageOpened n ∉ own := by
  cases h with
  | noDocument | noPage => simp
  | ended ho =>
      -- what comes of a page is an error of the page
      obtain ⟨v, hv⟩ | ⟨detail, _, hd⟩ := ho
      · cases hv
      · cases hd
        obtain (⟨_, hd⟩ | ⟨_, hd⟩) | ⟨_, hd⟩ := he <;> cases hd

/-- An error of a page is one that a browser gave. -/
theorem History.reported {detail : String}
    (h : History E job n (.ended (.error (.page detail))) left own) : E detail := by
  have ofPage (ho : ∃ e, E e ∧ (.error (.page detail) : Outcome) = .error (.page e)) : E detail := by
    obtain ⟨e, he, hd⟩ := ho
    cases hd
    exact he
  cases h with
  | noDocument ho =>
      obtain (hd | ⟨e, hd, ⟨_, he⟩ | ⟨_, he⟩⟩) | ⟨_, hd⟩ := ho
      · cases hd
      · subst he; cases hd
      · subst he; cases hd
      · cases hd
  | noPage ho =>
      obtain ⟨_, hd⟩ | ho := ho
      · cases hd
      · exact ofPage ho
  | ended ho =>
      obtain ⟨v, hv⟩ | ho := ho
      · cases hv
      · exact ofPage ho

/-- The page that a phase needs. -/
def Phase.guard? : Phase → Option PageGuard
  | .loading _ _ guard | .settling _ guard | .looking _ _ guard => some guard
  | .asking | .queued | .launching .. | .writing | .opening _ | .leaving .. | .retiring _
  | .closing .. | .done _ => none

/-- Whoever needs its page holds it. -/
theorem History.holds {guard : PageGuard} (h : History E job n standing left own)
    (hg : standing.phase.guard? = some guard) : ∃ p, guard.get = .ok p := by
  cases h with
  | loading | settling | looking =>
      cases hg
      exact ⟨_, rfl⟩
  | _ => cases hg

/-! ## Counts over all calls -/

/-- The calls that incidents of one kind are about. -/
def callsOf (kind : Nat → Incident) (l : List Incident) : List Nat :=
  l.filterMap fun i => i.call?.filter (i = kind ·)

theorem count_callsOf {kind : Nat → Incident} (hkind : ∀ n, (kind n).call? = some n)
    (l : List Incident) (n : Nat) : (callsOf kind l).count n = l.count (kind n) := by
  unfold callsOf
  rw [List.count_filterMap]
  refine List.countP_congr fun i _ => ?_
  have hi : i = kind n → i.call? = some n := fun he => he ▸ hkind n
  simp only [beq_iff_eq, Option.filter_eq_some_iff, decide_eq_true_eq]
  exact ⟨fun h => h.2, fun h => ⟨hi h, h⟩⟩

theorem length_callsOf {kind : Nat → Incident} {p : Incident → Bool}
    (hkind : ∀ n, (kind n).call? = some n) (hp : ∀ i, p i = true ↔ ∃ n, i = kind n)
    (l : List Incident) : (callsOf kind l).length = (l.filter p).length := by
  unfold callsOf
  rw [List.length_filterMap_eq_countP, ← List.countP_eq_length_filter]
  refine List.countP_congr fun i _ => ?_
  rw [hp, Option.isSome_iff_exists]
  constructor
  · rintro ⟨n, hn⟩
    exact ⟨n, of_decide_eq_true (Option.filter_eq_some_iff.mp hn).2⟩
  · rintro ⟨n, rfl⟩
    exact ⟨n, Option.filter_eq_some_iff.mpr ⟨hkind n, decide_eq_true rfl⟩⟩

/-- What balances for each call balances in all. -/
theorem length_filter_eq_add (kind kind' : Nat → Incident) (rest : List Nat)
    {p p' : Incident → Bool} {l : List Incident} (hkind : ∀ n, (kind n).call? = some n)
    (hkind' : ∀ n, (kind' n).call? = some n) (hp : ∀ i, p i = true ↔ ∃ n, i = kind n)
    (hp' : ∀ i, p' i = true ↔ ∃ n, i = kind' n)
    (h : ∀ n, l.count (kind n) = l.count (kind' n) + rest.count n) :
    (l.filter p).length = (l.filter p').length + rest.length := by
  have hperm : (callsOf kind l).Perm (callsOf kind' l ++ rest) := by
    refine List.perm_iff_count.mpr fun n => ?_
    rw [List.count_append, count_callsOf hkind, count_callsOf hkind', h]
  rw [← length_callsOf hkind hp, ← length_callsOf hkind' hp', ← List.length_append]
  exact hperm.length_eq

/-- Each call balances, if it is over. -/
theorem Kept.balance (h : Kept E x) (hover : ∀ k ∈ x.1, k.isLive = false) (n : Nat) :
    x.2.log.count (pageOpened n) = x.2.log.count (pageClosed n) + x.2.leftOpen.count n ∧
      x.2.log.count (documentMade n) = x.2.log.count (documentRemoved n) := by
  rw [← count_historyOf (i := pageOpened n) rfl, ← count_historyOf (i := pageClosed n) rfl,
    ← count_historyOf (i := documentMade n) rfl, ← count_historyOf (i := documentRemoved n) rfl]
  by_cases hn : ∃ k ∈ x.1, k.number = n
  · obtain ⟨k, hk, rfl⟩ := hn
    have hnot : ∀ phase, k.standing ≠ .live phase := by
      intro phase he
      have := hover k hk
      unfold Call.isLive at this
      rw [he] at this
      cases this
    rw [h.distinct.count]
    have := (h.history k hk).balance hnot
    simpa using this
  · have hstranger : ∀ k ∈ x.1, k.number ≠ n := fun k hk he => hn ⟨k, hk, he⟩
    have hclosed : n ∉ x.2.leftOpen := fun hm => hn (h.leftOpen n hm)
    rw [h.strangers n hstranger, List.count_eq_zero_of_not_mem hclosed]
    exact ⟨rfl, rfl⟩

theorem Kept.opened_eq (h : Kept E x) (hover : ∀ k ∈ x.1, k.isLive = false) :
    x.2.opened = x.2.closed + x.2.leftOpen.length :=
  length_filter_eq_add pageOpened pageClosed x.2.leftOpen (fun _ => rfl) (fun _ => rfl)
    (fun i => by cases i <;> simp) (fun i => by cases i <;> simp) fun n => (h.balance hover n).1

theorem Kept.documentsMade_eq (h : Kept E x) (hover : ∀ k ∈ x.1, k.isLive = false) :
    x.2.documentsMade = x.2.documentsRemoved :=
  length_filter_eq_add documentMade documentRemoved [] (fun _ => rfl) (fun _ => rfl)
    (fun i => by cases i <;> simp) (fun i => by cases i <;> simp) fun n => (h.balance hover n).2

/-! ## Every interleaving can be brought to its end -/

/-- How many hops calls take at most until all are over. -/
def hopsLeft (ks : List Call) : Nat := total (·.standing.phase.stepsLeft) ks

/-- A call that does not wait for the slot can take a step in time. -/
theorem History.exists_step? (c : PreviewConfig) (b : Browser) (s : Service)
    (h : History E job n (.live phase) left own) (hslot : phase = .queued → s.holder = some n) :
    ∃ now r, s.step? c b now n job phase = some r := by
  have hdue (deadline : Nat) (r : Phase × Service) : Service.due deadline deadline r = some r :=
    if_pos (Nat.le_refl deadline)
  have hrender (hj : job.isRender = true) : ∃ bundle entry, job = .render bundle entry := by
    cases job with
    | render bundle entry => exact ⟨bundle, entry, rfl⟩
    | launch | shutdown => cases hj
  cases h with
  | asking =>
      refine ⟨0, ?_⟩
      unfold Service.step?
      dsimp only
      split <;> exact ⟨_, rfl⟩
  | queued => exact ⟨0, _, if_pos (hslot rfl)⟩
  | retiring => exact ⟨0, _, rfl⟩
  | launching | closing => exact ⟨_, _, hdue _ _⟩
  | writing hj =>
      obtain ⟨bundle, entry, rfl⟩ := hrender hj
      exact ⟨0, _, rfl⟩
  | opening hj | loading hj _ | settling hj | looking hj _ | leaving hj _ =>
      obtain ⟨bundle, entry, rfl⟩ := hrender hj
      exact ⟨_, _, hdue _ _⟩

/-- **While a call is under way, one of them can take a step.** -/
theorem exists_move (hb : B b) (ha : Attended x) (hk : Kept E x) (hm : k ∈ x.1)
    (hlive : k.standing = .live phase) : ∃ y, Move c B x y ∧ hopsLeft y.1 < hopsLeft x.1 := by
  -- one that does not wait for the slot
  have goesOn (g : Call) (hg : g ∈ x.1) (phase : Phase) (hlive : g.standing = .live phase)
      (hslot : phase = .queued → x.2.holder = some g.number) :
      ∃ y, Move c B x y ∧ hopsLeft y.1 < hopsLeft x.1 := by
    obtain ⟨ks, s⟩ := x
    obtain ⟨before, after, rfl⟩ := List.append_of_mem hg
    have hown := hk.history g hg
    rw [hlive] at hown
    obtain ⟨now, r, hr⟩ := hown.exists_step? c b s hslot
    have hstep : g.step? c b now s = some ({ g with standing := .ofPhase r.1 }, r.2) := by
      unfold Call.step?
      rw [hlive]
      exact Option.map_eq_some_iff.mpr ⟨r, hr, rfl⟩
    refine ⟨_, .step hb hstep, ?_⟩
    have hlt : r.1.stepsLeft < phase.stepsLeft := Service.stepsLeft_step hr
    have hphase : g.standing.phase.stepsLeft = phase.stepsLeft := by rw [hlive]; rfl
    have hphase' : (Standing.ofPhase r.1).phase.stepsLeft = r.1.stepsLeft := by
      rw [Standing.phase_ofPhase]
    simp only [hopsLeft, total_focus]
    omega
  by_cases hslot : phase = .queued → x.2.holder = some k.number
  · exact goesOn k hm phase hlive hslot
  · -- it waits in the queue, and who has the slot goes on
    have hwaits : k.number ∈ x.2.waiting := by
      have hp := ha.placed k hm
      rw [hlive, (Classical.not_imp.mp hslot).1] at hp
      exact hp
    obtain ⟨n, hn, hholder⟩ := ha.orderly.holder_of_waiting hwaits
    obtain ⟨g, hg, rfl⟩ := ha.heard n hn
    have hgwaits : g.standing.phase.waits = true := (ha.placed g hg).waits hn
    cases hstanding : g.standing with
    | live phase' => exact goesOn g hg phase' hstanding fun _ => hholder
    | ended | givenUp =>
        rw [hstanding] at hgwaits
        cases hgwaits

/-- Pages that were left open can be closed one after another. -/
theorem exists_closed (ks : List Call) (s : Service) :
    ∃ t, Interleaving c B (ks, s) (ks, t) ∧ t.leftOpen = [] := by
  generalize hl : s.leftOpen = l
  induction l generalizing s with
  | nil => exact ⟨s, .refl, hl⟩
  | cons n l ih =>
      have hn : n ∈ s.leftOpen := by rw [hl]; exact List.mem_cons_self
      have hnext : (s.closeLeft n).leftOpen = l := by
        unfold Service.closeLeft
        rw [if_pos hn]
        show s.leftOpen.erase n = l
        rw [hl, List.erase_cons_head]
      obtain ⟨t, ht, hnil⟩ := ih (s.closeLeft n) hnext
      exact ⟨t, .head (.close hn) ht, hnil⟩

/-- **Every interleaving can be carried on until all calls are over and no page is left open.** -/
theorem exists_completion (hE : ∀ b, B b → ∀ e, b.Reports e → E e) (hb : B b) (ha : Attended x)
    (hk : Kept E x) :
    ∃ y, Interleaving c B x y ∧ (∀ k ∈ y.1, k.isLive = false) ∧ y.2.leftOpen = [] := by
  generalize hn : hopsLeft x.1 = n
  induction n using Nat.strongRecOn generalizing x with
  | ind n ih =>
      by_cases hover : ∀ k ∈ x.1, k.isLive = false
      · obtain ⟨t, ht, hnil⟩ := exists_closed (c := c) (B := B) x.1 x.2
        exact ⟨(x.1, t), ht, hover, hnil⟩
      · obtain ⟨k, hm, hlive⟩ : ∃ k ∈ x.1, k.isLive = true := by simpa using hover
        obtain ⟨phase, hphase⟩ : ∃ phase, k.standing = .live phase := by
          unfold Call.isLive at hlive
          cases hs : k.standing with
          | live phase => exact ⟨phase, rfl⟩
          | ended | givenUp => rw [hs] at hlive; cases hlive
        obtain ⟨y, hmove, hlt⟩ := exists_move (c := c) hb ha hk hm hphase
        obtain ⟨hay, hky⟩ := kept_interleaving hE (.single hmove) ha hk
        obtain ⟨z, hz, hend⟩ := ih (hopsLeft y.1) (hn ▸ hlt) hay hky rfl
        exact ⟨z, .head hmove hz, hend⟩

/-- What becomes of the page and of the document of a call, if nothing is left behind. -/
structure LetsGo (B : Browser → Prop) (s : Service) (k : Call) : Prop where
  opened_once : s.log.count (pageOpened k.number) ≤ 1
  closed_once : s.log.count (pageClosed k.number) ≤ 1
  /-- A page is closed after it was opened and before the call is over, unless the call is given up: then
  the page may be left open for now. -/
  closed : k.isLive = false → pageOpened k.number ∈ s.log →
    [pageOpened k.number, pageClosed k.number].Sublist s.log ∧ k.number ∉ s.leftOpen ∨
      k.standing = .givenUp ∧ pageClosed k.number ∉ s.log ∧ k.number ∈ s.leftOpen
  /-- A call that has no browser or no document opens no page. -/
  not_opened : ∀ e, k.standing = .ended (.error e) → e.IsOfBrowser ∨ (∃ detail, e = .harness detail) →
    pageOpened k.number ∉ s.log
  document : pageOpened k.number ∈ s.log → documentMade k.number ∈ s.log
  /-- The document is removed before the call is over. -/
  removed : k.isLive = false →
    s.log.count (documentMade k.number) = s.log.count (documentRemoved k.number)
  /-- A page is held as long as it is needed, so none is found to be closed already. -/
  held : ∀ guard, k.standing.phase.guard? = some guard → ∃ p, guard.get = .ok p
  /-- Every error of a page is one that a browser gave. -/
  reported : ∀ detail, k.standing = .ended (.error (.page detail)) → ∃ b, B b ∧ b.Reports detail

theorem not_live_of_isLive (h : k.isLive = false) (phase : Phase) : k.standing ≠ .live phase := by
  intro he
  unfold Call.isLive at h
  rw [he] at h
  cases h

theorem History.document (h : History E job n standing left own) (hopened : pageOpened n ∈ own) :
    documentMade n ∈ own := by
  cases h with
  | asking | queued | launching | retiring | closing | writing | opening | noDocument | noPage
  | givenUp | givenUpWithDocument => simp at hopened
  | _ => exact List.mem_cons_self

theorem Kept.letsGo (h : Kept (fun e => ∃ b, B b ∧ b.Reports e) (ks, s)) (hk : k ∈ ks) :
    LetsGo B s k := by
  have hown := h.history k hk
  have mem {i : Incident} (hi : i.call? = some k.number) : i ∈ s.historyOf k.number ↔ i ∈ s.log :=
    mem_historyOf hi
  have count {i : Incident} (hi : i.call? = some k.number) :
      (s.historyOf k.number).count i = s.log.count i := count_historyOf hi
  constructor
  case opened_once => exact count (i := pageOpened k.number) rfl ▸ hown.count_le_one _
  case closed_once => exact count (i := pageClosed k.number) rfl ▸ hown.count_le_one _
  case closed =>
    intro hover hopened
    rcases hown.closed (not_live_of_isLive hover) ((mem rfl).mpr hopened) with ⟨hs, hl⟩ | ⟨hg, hc, hl⟩
    · exact .inl ⟨hs.trans List.filter_sublist, of_decide_eq_false hl⟩
    · exact .inr ⟨hg, fun hm => hc ((mem rfl).mpr hm), of_decide_eq_true hl⟩
  case not_opened =>
    intro e he hnone hm
    rw [he] at hown
    exact hown.not_opened hnone ((mem rfl).mpr hm)
  case document => exact fun hm => (mem rfl).mp (hown.document ((mem rfl).mpr hm))
  case removed =>
    intro hover
    have := (hown.balance (not_live_of_isLive hover)).2
    rwa [count rfl, count rfl] at this
  case held => exact fun guard hg => hown.holds hg
  case reported =>
    intro detail he
    rw [he] at hown
    exact hown.reported

theorem History.givenUp_of_left (h : History E job n standing true own) : standing = .givenUp := by
  cases h
  rfl

/-- **No page and no document is left behind**, whatever browsers do and wherever calls are given up. In
every interleaving each call lets go of what it has (`LetsGo`). When all calls are over, as many pages were
opened as are closed or left to be closed, and as many documents made as removed; a page is left open only
by a call that was given up. And all calls can come to their end, with no page left open. -/
theorem pages_and_documents_let_go {jobs : List Call} (h : Interleaving c B (outset jobs) (ks, s)) :
    (∀ k ∈ ks, LetsGo B s k) ∧
    ((∀ k ∈ ks, k.isLive = false) →
      s.opened = s.closed + s.leftOpen.length ∧ s.documentsMade = s.documentsRemoved) ∧
    ((∀ k ∈ ks, k.standing ≠ .givenUp) → s.leftOpen = []) ∧
    (∀ b, B b → ∃ ks' s', Interleaving c B (ks, s) (ks', s') ∧ (∀ k ∈ ks', k.isLive = false) ∧
      s'.leftOpen = []) := by
  have hE : ∀ b, B b → ∀ e, b.Reports e → ∃ b, B b ∧ b.Reports e := fun b hb e he => ⟨b, hb, he⟩
  obtain ⟨ha, hk⟩ : Attended (ks, s) ∧ Kept (fun e => ∃ b, B b ∧ b.Reports e) (ks, s) :=
    kept_interleaving hE h (attended_outset jobs) (kept_outset _ jobs)
  refine ⟨fun k hm => hk.letsGo hm, fun hover => ⟨hk.opened_eq hover, hk.documentsMade_eq hover⟩, ?_, ?_⟩
  · intro hnone
    refine List.eq_nil_iff_forall_not_mem.mpr fun n hn => ?_
    obtain ⟨k, hm, rfl⟩ := hk.leftOpen n hn
    have hown := hk.history k hm
    rw [decide_eq_true hn] at hown
    exact hnone k hm hown.givenUp_of_left
  · intro b hb
    obtain ⟨⟨ks', s'⟩, hrun, hover, hnil⟩ := exists_completion (c := c) hE hb ha hk
    exact ⟨ks', s', hrun, hover, hnil⟩

/-- A browser with pages that are never loaded. -/
def stuckBrowser : Browser where
  page _ := { loading := .endless }

/-- Two renderings in it, one of which is given up. -/
def stuckRenderings : List Call :=
  [{ job := .render "" "App.tsx" }, { job := .render "" "App.tsx", limit := some 5 }]

theorem pages_and_documents_let_go_stuck :
    let x := (outset stuckRenderings).2.run {} stuckBrowser 20 0 (outset stuckRenderings).1
    (∀ k ∈ x.1, LetsGo (· = stuckBrowser) x.2 k) ∧ x.2.opened = 2 ∧ x.2.closed = 2 := by
  intro x
  have h : Interleaving {} (· = stuckBrowser) (outset stuckRenderings) (x.1, x.2) :=
    interleaving_run_outset (B := (· = stuckBrowser)) stuckRenderings 20 rfl
  exact ⟨(pages_and_documents_let_go h).1, by decide +kernel, by decide +kernel⟩

end Preview

end AppMend
