import AppMend.Proofs.Preview.Books
import Mathlib.Data.List.Nodup

/-!
# One browser at a time

In the books of a preview service the browsers that were started are accounted for, each once. What calls do
next to the slot follows from their entries: a start that fails leaves it empty, a shutdown empties it, and
nothing fills it but a start by a call that needs a browser (`one_browser_at_a_time`).
-/

namespace AppMend.Preview

variable {c : PreviewConfig} {B : Browser → Prop} {b : Browser} {job : Job} {n : Nat} {x y : Scene}
  {s s' : Service} {ks : List Call} {k k' : Call} {phase : Phase}

/-! ## Steps with the slot -/

/-- Whether the next step of a call is one with the slot. -/
def Call.TakesSlot (k : Call) (s : Service) : Prop :=
  k.standing = .live .asking ∧ s.holder = none ∨
    k.standing = .live .queued ∧ s.holder = some k.number

theorem step?_of_takesSlot {now : Nat} (h : k.TakesSlot s) (hs : k.step? c b now s = some (k', s')) :
    ∃ r, r = ({ s with holder := some k.number } : Service).useSlot c b now k.number k.job ∧
      k' = { k with standing := .ofPhase r.1 } ∧ s' = r.2 := by
  unfold Call.step? at hs
  rcases h with ⟨hk, hh⟩ | ⟨hk, hh⟩
  · rw [hk] at hs
    simp only [Service.step?, hh, Option.map_some, Option.some.injEq, Prod.mk.injEq] at hs
    exact ⟨_, rfl, hs.1.symm, hs.2.symm⟩
  · have hsame : ({ s with holder := some k.number } : Service) = s := by rw [← hh]
    rw [hk] at hs
    simp only [Service.step?, hh, if_pos, Option.map_some, Option.some.injEq, Prod.mk.injEq] at hs
    rw [hsame]
    exact ⟨_, rfl, hs.1.symm, hs.2.symm⟩

theorem takeOut_browser (s : Service) :
    s.takeOut.2.browser = none ∧ s.takeOut.2.launched = s.launched := by
  unfold Service.takeOut
  cases hb : s.browser with
  | none => exact ⟨(Service.pass_browser s).trans hb, congrArg Books.launched (books_pass s)⟩
  | some n =>
      exact ⟨Service.pass_browser _, congrArg Books.launched (books_pass { s with browser := none })⟩

theorem books_afterStart_tried (started : Except PreviewFailure Unit) (call : Nat) :
    (s.afterStart b call job started).2.launches = s.launches := by
  show (s.afterStart b call job started).2.books.tried = s.books.tried
  cases started with
  | ok =>
      show (s.install.pass.withBrowser b call job).2.books.tried = _
      rw [books_withBrowser, books_pass, books_install]
  | error e =>
      show (s.note [.launchFailed]).pass.books.tried = _
      rw [books_pass, books_failed]

/-- Whoever needs a browser takes the one that is in the slot, or has one started. -/
theorem acquire_books (now call : Nat) (job : Job) :
    if s.running = true then (s.acquire c b now call job).2.books = s.books
    else if b.launch = .missing then s.acquire c b now call job = (.done (.error .noBrowser), s.pass)
    else (s.acquire c b now call job).2.launches = s.launches + 1 := by
  unfold Service.acquire
  split
  · rw [books_withBrowser, books_pass]
  · split
    · rfl
    · have htried : (s.note [.launchTried]).launches = s.launches + 1 :=
        congrArg Books.tried (books_tried s)
      unfold Service.pause
      split
      · rw [books_afterStart_tried, htried]
      · exact htried

/-! ## What a move can do to the slot -/

/-- Nothing is done by a call that is done. -/
theorem not_isDone_of_hop {r r' : Phase × Service} (hop : Service.Hop c b n job r r') :
    r.1.isDone = false := by
  have hlt := Service.stepsLeft_hop hop
  cases hr : r.1 with
  | done =>
      rw [hr] at hlt
      exact absurd hlt (Nat.not_lt_zero _)
  | _ => rfl

/-- A step in which a start comes to nothing leaves the slot empty. -/
theorem browser_of_failed {now : Nat} {r : Phase × Service}
    (hs : s.step? c b now n job phase = some r) (hb : phase.isLaunching = true → s.browser = none)
    (hf : s.failedLaunches < r.2.failedLaunches) : r.2.browser = none := by
  have hend : r.2.failedLaunches = s.failedLaunches ∧ (r.1.isLaunching = true → r.2.browser = none) ∨
      r.1.isDone = true ∧ r.2.browser = none := by
    refine Service.step_induction (P := fun phase t =>
      t.failedLaunches = s.failedLaunches ∧ (phase.isLaunching = true → t.browser = none) ∨
        phase.isDone = true ∧ t.browser = none) ?_ (.inl ⟨rfl, hb⟩) hs
    rintro phase t phase' t' (⟨hsame, hb⟩ | ⟨hd, _⟩) hop
    · rcases (entry_hop hop).failed_or hb with ⟨hf, hb'⟩ | hend
      · exact .inl ⟨hf.trans hsame, hb'⟩
      · exact .inr hend
    · rw [not_isDone_of_hop hop] at hd
      cases hd
  rcases hend with ⟨hsame, _⟩ | ⟨_, hb⟩
  · exact absurd hsame (Nat.ne_of_gt hf)
  · exact hb

/-- A step of a shutdown puts nothing into the slot. -/
theorem browser_of_shutdown {now : Nat} {r : Phase × Service}
    (hs : s.step? c b now n .shutdown phase = some r) (hl : phase.isLaunching = false)
    (hb : s.browser = none) : r.2.browser = none := by
  have hend : r.1.isLaunching = false ∧ r.2.browser = none := by
    refine Service.step_induction (P := fun phase t => phase.isLaunching = false ∧ t.browser = none) ?_
      ⟨hl, hb⟩ hs
    rintro phase t phase' t' ⟨hl, hb⟩ hop
    refine ⟨?_, (entry_hop hop).browser_eq_none hl hb⟩
    cases hl' : phase'.isLaunching with
    | false => rfl
    | true => exact absurd rfl ((entry_hop hop).starting hl').1
  exact hend.2

theorem abandon_browser (call : Nat) (s : Service) (phase : Phase) :
    (s.abandon call phase).browser = s.browser := by
  cases phase with
  | queued => exact Service.withdraw_browser ..
  | launching => exact Service.withdraw_browser ..
  | _ => rfl

/-- What is in the slot after any moves was there before or was started since. -/
theorem browser_or_interleaving (h : Interleaving c B x y) (hb : x.2.browser = none) :
    x.2.launched <+: y.2.launched ∧
      (y.2.browser ≠ none → x.2.launched.length < y.2.launched.length) := by
  refine interleaving_induction (P := fun y => x.2.launched <+: y.2.launched ∧
    (y.2.browser ≠ none → x.2.launched.length < y.2.launched.length)) ?_ h
    ⟨List.prefix_refl _, fun hne => absurd hb hne⟩
  rintro y z ⟨hbefore, hlt⟩ hc
  rcases entry_change hc with ⟨_, hv⟩ | ⟨_, _, _, _, _, _, _, he⟩
  · have hl : z.2.launched = y.2.launched := congrArg Books.launched hv
    have hbrowser : z.2.browser = y.2.browser := congrArg Books.browser hv
    rw [hl, hbrowser]
    exact ⟨hbefore, hlt⟩
  · have hgrows : y.2.launched <+: z.2.launched := he.launched_prefix
    refine ⟨hbefore.trans hgrows, fun hne => ?_⟩
    rcases he.browser_or hne with hne | hlt'
    · exact Nat.lt_of_lt_of_le (hlt hne) hgrows.length_le
    · exact Nat.lt_of_le_of_lt hbefore.length_le hlt'

/-! ## One browser at a time -/

/-- What is true of the browsers of a service at any moment, and of what can happen next. -/
structure OneBrowser (c : PreviewConfig) (B : Browser → Prop) (ks : List Call) (s : Service) : Prop where
  /-- As many browsers were started as were closed, are still to be closed by a shutdown, or are in the
  slot. -/
  balance : s.launched.length =
    s.browsersClosed.length + ks.countP (·.takenOut?.isSome) + if s.running = true then 1 else 0
  /-- They are the same ones, and none is closed twice or closed and still there. -/
  accounted : s.launched.Perm (s.browsersClosed ++ ks.filterMap (·.takenOut?) ++ s.browser.toList)
  distinct : s.launched.Nodup
  closed_once : ∀ n, s.log.count (.browserClosed n) ≤ 1
  /-- Every start that was tried gave a browser, failed, or is waited for. -/
  attempts : s.launches = s.launched.length + s.failedLaunches + ks.countP (·.isLaunching)
  /-- One call at a time waits for a start, and only while there is no browser. -/
  lone : ks.countP (·.isLaunching) ≤ if s.running = true then 0 else 1
  /-- So without shutdowns a browser is started once, however many calls need it at first. -/
  first_uses : (∀ k ∈ ks, k.job ≠ .shutdown) → s.launches ≤ s.failedLaunches + 1 ∧
    ((∃ k ∈ ks, k.isServed = true) → s.launches = s.failedLaunches + 1 ∧ s.running = true)
  /-- A start that fails or takes too long leaves the slot empty. -/
  failed : ∀ y, Move c B (ks, s) y → s.failedLaunches < y.2.failedLaunches → y.2.browser = none
  /-- Whoever gets the slot and needs a browser takes the one that is there. If there is none, one more
  start is tried. -/
  used : ∀ k ∈ ks, k.TakesSlot s → k.job ≠ .shutdown → ∀ b now k' s',
    k.step? c b now s = some (k', s') →
    if s.running = true then s'.launches = s.launches ∧ s'.browser = s.browser
    else if b.launch = .missing then k'.standing = .ended (.error .noBrowser) ∧ s'.browser = none
    else s'.launches = s.launches + 1
  /-- A shutdown that gets the slot leaves it empty, whatever comes of closing the browser. -/
  shutDown : ∀ k ∈ ks, k.TakesSlot s → k.job = .shutdown → ∀ b now k' s',
    k.step? c b now s = some (k', s') → s'.browser = none ∧ s'.launched = s.launched
  /-- An empty slot stays empty until a browser is started. -/
  empty : s.browser = none → ∀ y, Interleaving c B (ks, s) y → y.2.launched = s.launched →
    y.2.browser = none
  /-- Only a launch or a rendering fills it. -/
  filled : s.browser = none → ∀ y, Move c B (ks, s) y → y.2.browser ≠ none →
    ∃ k ∈ ks, k.job ≠ .shutdown ∧ ∃ b now k', k.step? c b now s = some (k', y.2)

theorem Balanced.length_eq (h : Balanced ks s.books) :
    s.launched.length =
      s.browsersClosed.length + ks.countP (·.takenOut?.isSome) + if s.running = true then 1 else 0 := by
  have hslot : s.browser.toList.length = if s.running = true then 1 else 0 := by
    unfold Service.running
    cases s.browser <;> rfl
  have hlength := h.balance.length_eq
  rw [List.length_append, List.length_append, List.length_filterMap_eq_countP] at hlength
  rw [← hslot]
  exact hlength

theorem Balanced.distinct (h : Balanced ks s.books) : s.launched.Nodup := by
  have hnumbered : s.launched = List.range s.launched.length := h.numbered
  rw [hnumbered]
  exact List.nodup_range

theorem Balanced.closed_once (h : Balanced ks s.books) (n : Nat) :
    s.log.count (.browserClosed n) ≤ 1 := by
  have hclosed : s.browsersClosed.Nodup :=
    ((h.balance.nodup_iff.mp h.distinct).sublist (List.sublist_append_left ..)).sublist
      (List.sublist_append_left ..)
  have hcount : s.browsersClosed.count n = s.log.count (.browserClosed n) := by
    unfold Service.browsersClosed
    rw [List.count_filterMap]
    refine List.countP_congr fun i _ => ?_
    cases i <;> simp [Incident.browserClosed?]
  rw [← hcount]
  exact List.nodup_iff_count_le_one.mp hclosed n

/-- Two calls do not wait for a start at once, and none does while there is a browser. -/
theorem Balanced.lone (h : Balanced ks s.books) (ha : Attended (ks, s)) :
    ks.countP (·.isLaunching) ≤ if s.running = true then 0 else 1 := by
  by_cases hnone : ∀ k ∈ ks, k.isLaunching = false
  · rw [List.countP_eq_zero.mpr fun k hk => by simp [hnone k hk]]
    exact Nat.zero_le _
  · obtain ⟨k, hk, hl⟩ : ∃ k ∈ ks, k.isLaunching = true := by simpa using hnone
    have hempty : s.running = false := by
      have hb : s.browser = none := (h.starting k hk hl).2
      unfold Service.running
      rw [hb]
      rfl
    obtain ⟨before, after, rfl⟩ := List.append_of_mem hk
    rw [List.perm_middle.countP_eq, List.countP_cons_of_pos hl,
      List.countP_eq_zero.mpr fun g hg => by simp [ha.lone hl g hg], hempty]
    exact Nat.le_refl 1

theorem Balanced.first_uses (h : Balanced ks s.books) (ha : Attended (ks, s))
    (hnone : ∀ k ∈ ks, k.job ≠ .shutdown) :
    s.launches ≤ s.failedLaunches + 1 ∧
      ((∃ k ∈ ks, k.isServed = true) → s.launches = s.failedLaunches + 1 ∧ s.running = true) := by
  -- nothing was taken out of the slot
  have hclosed : s.browsersClosed = [] := by
    by_contra hc
    obtain ⟨k, hk, hj⟩ := h.shut hc
    exact hnone k hk hj
  have htaken : ks.countP (·.takenOut?.isSome) = 0 := by
    refine List.countP_eq_zero.mpr fun k hk ht => ?_
    exact hnone k hk (h.retiring k hk (Option.isSome_iff_ne_none.mp ht))
  have hlength := h.length_eq
  have hlone := h.lone ha
  have hattempts : s.launches = s.launched.length + s.failedLaunches + ks.countP (·.isLaunching) :=
    h.attempts
  rw [hclosed, htaken, List.length_nil] at hlength
  cases hr : s.running with
  | true =>
      rw [hr, if_pos rfl] at hlength hlone
      exact ⟨by omega, fun _ => ⟨by omega, rfl⟩⟩
  | false =>
      rw [hr, if_neg Bool.false_ne_true] at hlength hlone
      refine ⟨by omega, fun ⟨k, hk, hs⟩ => ?_⟩
      exact absurd (List.length_eq_zero_iff.mp hlength) (h.served k hk hs)

theorem isLaunching_of_live (hk : k.standing = .live phase) : k.isLaunching = phase.isLaunching := by
  unfold Call.isLaunching
  rw [hk]
  rfl

/-- A move by which a start fails leaves the slot empty. -/
theorem Balanced.failed_move (h : Balanced ks s.books) (hmove : Move c B (ks, s) y)
    (hf : s.failedLaunches < y.2.failedLaunches) : y.2.browser = none := by
  have hstarting {k : Call} {phase : Phase} (hk : k ∈ ks) (hphase : k.standing = .live phase)
      (hl : phase.isLaunching = true) : s.browser = none :=
    (h.starting k hk ((isLaunching_of_live hphase).trans hl)).2
  cases hmove with
  | step hb hs =>
      obtain ⟨phase, r, hphase, hr, -, rfl⟩ := step?_eq_some hs
      exact browser_of_failed hr (hstarting (mem_focus.mpr (.inl rfl)) hphase) hf
  | @giveUp before after k k' _ s' hs =>
      obtain ⟨phase, hphase, hsuspended, -, rfl⟩ := giveUp?_eq_some hs
      have hend := (entry_abandon k.job s k.number hsuspended).failed_or
        (hstarting (mem_focus.mpr (.inl rfl)) hphase)
      rcases hend with ⟨hsame, _⟩ | ⟨_, hb⟩
      · exact absurd hsame (Nat.ne_of_gt hf)
      · exact hb
  | close hn => exact absurd (congrArg Books.failed (books_closeLeft hn)) (Nat.ne_of_gt hf)

/-- A move that fills the slot is a step of a launch or of a rendering. -/
theorem Balanced.filled_move (h : Balanced ks s.books) (hb : s.browser = none)
    (hmove : Move c B (ks, s) y) (hne : y.2.browser ≠ none) :
    ∃ k ∈ ks, k.job ≠ .shutdown ∧ ∃ b now k', k.step? c b now s = some (k', y.2) := by
  cases hmove with
  | @step before after k k' _ s' b now _ hs =>
      have hk : k ∈ before ++ k :: after := mem_focus.mpr (.inl rfl)
      refine ⟨k, hk, fun hj => hne ?_, b, now, k', hs⟩
      obtain ⟨phase, r, hphase, hr, -, rfl⟩ := step?_eq_some hs
      rw [hj] at hr
      refine browser_of_shutdown hr ?_ hb
      cases hl : phase.isLaunching with
      | false => rfl
      | true => exact absurd hj (h.starting k hk ((isLaunching_of_live hphase).trans hl)).1
  | giveUp hs =>
      obtain ⟨phase, -, -, -, rfl⟩ := giveUp?_eq_some hs
      exact absurd ((abandon_browser ..).trans hb) hne
  | close hn => exact absurd ((congrArg Books.browser (books_closeLeft hn)).trans hb) hne

/-- What a launch or a rendering does that gets the slot. -/
theorem used_of_takesSlot {now : Nat} (hslot : k.TakesSlot s) (hj : k.job ≠ .shutdown)
    (hs : k.step? c b now s = some (k', s')) :
    if s.running = true then s'.launches = s.launches ∧ s'.browser = s.browser
    else if b.launch = .missing then k'.standing = .ended (.error .noBrowser) ∧ s'.browser = none
    else s'.launches = s.launches + 1 := by
  obtain ⟨r, hr, rfl, rfl⟩ := step?_of_takesSlot hslot hs
  generalize ht : ({ s with holder := some k.number } : Service) = t at hr
  have hacquire : r = t.acquire c b now k.number k.job := by
    rw [hr]
    unfold Service.useSlot
    cases hjob : k.job with
    | shutdown => exact absurd hjob hj
    | launch | render => rfl
  have hbooks := acquire_books (c := c) (b := b) (s := t) now k.number k.job
  rw [← hacquire] at hbooks
  subst ht
  -- holding the slot is not in the books
  have hrunning : ({ s with holder := some k.number } : Service).running = s.running := rfl
  rw [hrunning] at hbooks
  split at hbooks
  · rename_i hrun
    rw [if_pos hrun]
    exact ⟨congrArg Books.tried hbooks, congrArg Books.browser hbooks⟩
  · rename_i hrun
    rw [if_neg hrun]
    split at hbooks
    · rename_i hm
      have hb : s.browser = none := by simpa [Service.running] using hrun
      rw [if_pos hm, hbooks]
      exact ⟨rfl, (Service.pass_browser _).trans hb⟩
    · rename_i hm
      rw [if_neg hm]
      exact hbooks

theorem shutDown_of_takesSlot {now : Nat} (hslot : k.TakesSlot s) (hj : k.job = .shutdown)
    (hs : k.step? c b now s = some (k', s')) : s'.browser = none ∧ s'.launched = s.launched := by
  obtain ⟨r, rfl, rfl, rfl⟩ := step?_of_takesSlot hslot hs
  rw [hj]
  exact takeOut_browser _

/-- **There is one browser at a time**, in every interleaving of calls and whatever comes of each start. -/
theorem one_browser_at_a_time {jobs : List Call} (h : Interleaving c B (outset jobs) (ks, s)) :
    OneBrowser c B ks s := by
  obtain ⟨ha, hbalanced⟩ := balanced_interleaving h
  constructor
  case balance => exact hbalanced.length_eq
  case accounted => exact hbalanced.balance
  case distinct => exact hbalanced.distinct
  case closed_once => exact hbalanced.closed_once
  case attempts => exact hbalanced.attempts
  case lone => exact hbalanced.lone ha
  case first_uses => exact hbalanced.first_uses ha
  case failed => exact fun y => hbalanced.failed_move
  case used => exact fun k _ hslot hj b now k' s' => used_of_takesSlot hslot hj
  case shutDown => exact fun k _ hslot hj b now k' s' => shutDown_of_takesSlot hslot hj
  case empty =>
    intro hb y hrun hsame
    by_contra hne
    have hlt := (browser_or_interleaving hrun hb).2 hne
    rw [hsame] at hlt
    exact Nat.lt_irrefl _ hlt
  case filled => exact fun hb y => hbalanced.filled_move hb

/-- A browser that takes a while to start. -/
def slowBrowser : Browser where
  launchMs := 5
  page _ := {}

/-- Two renderings, and a shutdown between them. -/
def renderingsAndShutdown : List Call :=
  [{ job := .render "" "App.tsx" }, { job := .shutdown }, { job := .render "" "App.tsx" }]

theorem one_browser_at_a_time_shutdown :
    let x := (outset renderingsAndShutdown).2.run {} slowBrowser 20 0 (outset renderingsAndShutdown).1
    OneBrowser {} (· = slowBrowser) x.1 x.2 ∧ x.2.launches = 2 ∧ x.2.browsersClosed = [0] ∧
      x.2.browser = some 1 := by
  intro x
  have h : Interleaving {} (· = slowBrowser) (outset renderingsAndShutdown) (x.1, x.2) :=
    interleaving_run_outset (c := {}) (b := slowBrowser) (B := (· = slowBrowser)) renderingsAndShutdown
      20 rfl
  exact ⟨one_browser_at_a_time h, by decide +kernel, by decide +kernel, by decide +kernel⟩

end AppMend.Preview
