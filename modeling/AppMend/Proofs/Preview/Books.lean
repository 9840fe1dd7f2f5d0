import AppMend.Proofs.Preview.Interleaving

/-!
# What became of browsers

The browser is started under the slot and closed after the slot has gone on, so a new one can be started
while an old one is closed. The books of a service (`Service.books`) say what was started and what was
closed; each hop makes one entry in them (`Entry`). In every interleaving the books balance
(`balanced_interleaving`): the browsers that were started are those that were closed, those that calls have
taken out to close them, and the one in the slot.
-/

namespace AppMend.Preview

/-- What was done to browsers, and the one that is in the slot. -/
structure Books where
  browser : Option Nat
  /-- The browsers that started. -/
  launched : List Nat
  /-- Those that were closed. -/
  closed : List Nat
  /-- How many starts were tried. -/
  tried : Nat
  /-- How many came to nothing. -/
  failed : Nat

def Incident.launched? : Incident → Option Nat
  | .launched n => some n
  | _ => none

def Incident.browserClosed? : Incident → Option Nat
  | .browserClosed n => some n
  | _ => none

namespace Service

def launched (s : Service) : List Nat := s.log.filterMap (·.launched?)

def browsersClosed (s : Service) : List Nat := s.log.filterMap (·.browserClosed?)

def failedLaunches (s : Service) : Nat := s.log.count .launchFailed

def books (s : Service) : Books :=
  ⟨s.browser, s.launched, s.browsersClosed, s.launches, s.failedLaunches⟩

end Service

/-- Whether a call waits for a browser to start. -/
def Phase.isLaunching : Phase → Bool
  | .launching .. => true
  | .asking | .queued | .writing | .opening _ | .loading .. | .settling .. | .looking .. | .leaving ..
  | .retiring _ | .closing .. | .done _ => false

/-- The browser that a call has taken out and not closed yet. -/
def Phase.takenOut? : Phase → Option Nat
  | .retiring n => some n
  | .asking | .queued | .launching .. | .writing | .opening _ | .loading .. | .settling ..
  | .looking .. | .leaving .. | .closing .. | .done _ => none

/-- Whether a call got what it asked for: a rendering has its document then. -/
def Phase.isServed : Phase → Bool
  | .writing | .opening _ | .loading .. | .settling .. | .looking .. | .leaving .. | .closing ..
  | .done (.ok _) => true
  | .asking | .queued | .launching .. | .retiring _ | .done (.error _) => false

/-- Whether a call in a phase has to do with no browser but the one in the slot. -/
def Phase.isAside (phase : Phase) : Bool := !phase.isLaunching && phase.takenOut?.isNone

/-- What a hop of a call enters in the books. -/
inductive Entry (job : Job) : Phase → Books → Phase → Books → Prop where
  | aside {phase phase' : Phase} {v : Books} : phase.isAside = true → phase'.isAside = true →
      (job ≠ .shutdown → phase'.isServed = true → phase.isServed = true) → Entry job phase v phase' v
  | found {phase phase' : Phase} {v : Books} : phase.isAside = true → phase'.isAside = true →
      v.browser ≠ none → Entry job phase v phase' v
  | tried {phase : Phase} {v : Books} {deadline : Nat} {started : Except PreviewFailure Unit} :
      phase.isAside = true → job ≠ .shutdown → v.browser = none →
      Entry job phase v (.launching deadline started) { v with tried := v.tried + 1 }
  | launched {phase' : Phase} {v : Books} {deadline : Nat} {started : Except PreviewFailure Unit} :
      phase'.isAside = true →
      Entry job (.launching deadline started) v phase'
        { v with
          browser := some v.launched.length
          launched := v.launched ++ [v.launched.length] }
  | failed {v : Books} {deadline : Nat} {started : Except PreviewFailure Unit} {e : PreviewFailure} :
      Entry job (.launching deadline started) v (.done (.error e)) { v with failed := v.failed + 1 }
  | takenOut {phase : Phase} {v : Books} {n : Nat} : phase.isAside = true → job = .shutdown →
      v.browser = some n → Entry job phase v (.retiring n) { v with browser := none }
  | closed {v : Books} {n deadline : Nat} {outcome : Outcome} :
      Entry job (.retiring n) v (.closing deadline outcome) { v with closed := v.closed ++ [n] }

variable {c : PreviewConfig} {B : Browser → Prop} {b : Browser} {job : Job} {n : Nat} {x y : Scene}
  {s s' : Service} {before after ks : List Call} {k k' : Call} {phase phase' : Phase}

/-! ## Hops -/

theorem nextBrowser_eq (s : Service) : s.nextBrowser = s.launched.length := by
  unfold Service.nextBrowser Service.launched
  rw [List.length_filterMap_eq_countP, ← List.countP_eq_length_filter]
  exact List.countP_congr fun i _ => by cases i <;> rfl

theorem books_pass (s : Service) : s.pass.books = s.books := by
  rw [Service.pass_eq]
  rfl

theorem books_note (s : Service) (es : List Incident) :
    (s.note es).books =
      ⟨s.browser, s.launched ++ es.filterMap (·.launched?),
        s.browsersClosed ++ es.filterMap (·.browserClosed?), s.launches + es.count .launchTried,
        s.failedLaunches + es.count .launchFailed⟩ := by
  simp [Service.books, Service.note, Service.launched, Service.browsersClosed, Service.launches,
    Service.failedLaunches]

/-- What is noted of the page or the document of a call is not in the books. -/
theorem books_aside {i : Incident} (hi : i.call? = some n) (hlog : s'.log = s.log ++ [i])
    (hbrowser : s'.browser = s.browser) : s'.books = s.books := by
  cases i <;> cases hi <;>
    simp [Service.books, Service.launched, Service.browsersClosed, Service.launches,
      Service.failedLaunches, hlog, hbrowser, Incident.launched?, Incident.browserClosed?]

theorem books_tried (s : Service) :
    (s.note [.launchTried]).books = { s.books with tried := s.books.tried + 1 } := by
  rw [books_note]
  simp [Service.books, Incident.launched?, Incident.browserClosed?]

theorem books_install (s : Service) :
    s.install.books =
      { s.books with
        browser := some s.books.launched.length
        launched := s.books.launched ++ [s.books.launched.length] } := by
  unfold Service.install
  rw [books_note, nextBrowser_eq]
  simp [Service.books, Service.launched, Service.browsersClosed, Service.launches,
    Service.failedLaunches, Incident.launched?, Incident.browserClosed?]

theorem books_failed (s : Service) :
    (s.note [.launchFailed]).books = { s.books with failed := s.books.failed + 1 } := by
  rw [books_note]
  simp [Service.books, Incident.launched?, Incident.browserClosed?]

theorem books_withBrowser (b : Browser) (call : Nat) (job : Job) (s : Service) :
    (s.withBrowser b call job).2.books = s.books := by
  unfold Service.withBrowser
  cases job with
  | render bundle entry =>
      dsimp only
      split
      · rfl
      · exact books_aside (n := call) rfl rfl rfl
      · exact books_aside (n := call) rfl rfl rfl
  | launch | shutdown => rfl

theorem isAside_withBrowser (b : Browser) (call : Nat) (job : Job) (s : Service) :
    (s.withBrowser b call job).1.isAside = true := by
  unfold Service.withBrowser
  cases job with
  | render bundle entry => cases b.writing <;> rfl
  | launch | shutdown => rfl

/-- **Each hop makes one entry.** -/
theorem entry_hop {r r' : Phase × Service} (hop : Service.Hop c b n job r r') :
    Entry job r.1 r.2.books r'.1 r'.2.books := by
  have page {s s' : Service} {phase phase' : Phase} {i : Incident} (hi : i.call? = some n)
      (hlog : s'.log = s.log ++ [i]) (hbrowser : s'.browser = s.browser)
      (hphase : phase.isAside = true) (hphase' : phase'.isAside = true)
      (hserved : phase'.isServed = true → phase.isServed = true) :
      Entry job phase s.books phase' s'.books := by
    rw [books_aside hi hlog hbrowser]
    exact .aside hphase hphase' fun _ => hserved
  cases hop with
  | given | enqueued | written | loaded | settled | shut =>
      exact .aside rfl rfl (by simp [Phase.isServed])
  | @found s hc hj hr =>
      rw [books_withBrowser, books_pass]
      exact .found rfl (isAside_withBrowser ..) (Option.isSome_iff_ne_none.mp hr)
  | missing hc hj hr hm =>
      rw [books_pass]
      exact .aside rfl rfl (by simp [Phase.isServed])
  | @tried s deadline hc hj hr hm =>
      rw [books_tried]
      have hnone : s.browser = none := by simpa [Service.running] using hr
      exact .tried rfl hj hnone
  | started =>
      rw [books_withBrowser, books_pass, books_install]
      exact .launched (isAside_withBrowser ..)
  | @unstarted s deadline e =>
      rw [books_pass, books_failed]
      exact .failed
  | idle hc hj hb =>
      rw [books_pass]
      exact .aside rfl rfl fun hne => absurd hj hne
  | takenOut hc hj hb =>
      rw [books_pass]
      exact .takenOut rfl hj hb
  | @retired s m deadline =>
      have he : (s.note [.browserClosed m]).books = { s.books with closed := s.books.closed ++ [m] } := by
        rw [books_note]
        simp [Service.books, Incident.launched?, Incident.browserClosed?]
      rw [he]
      exact .closed
  | unwritten | unopened => exact page rfl rfl rfl rfl rfl (by simp [Phase.isServed])
  | opened | late | unloaded | looked | left =>
      exact page rfl rfl rfl rfl rfl (by simp [Phase.isServed])
  | pageless hn =>
      obtain ⟨_, rfl⟩ | ⟨_, rfl⟩ := hn <;>
        exact page rfl rfl rfl rfl rfl (by simp [Phase.isServed])
  | departed hc =>
      obtain ⟨_, _, rfl, rfl⟩ | ⟨_, rfl⟩ := hc <;>
        exact page rfl rfl rfl rfl rfl (by simp [Phase.isServed])

/-- A call that is given up enters that its browser did not start, if it waited for one. -/
theorem entry_abandon (job : Job) (s : Service) (call : Nat) (hs : phase.isSuspended = true) :
    Entry job phase s.books (.done (.error default)) (s.abandon call phase).books := by
  have withdraw (s : Service) : (s.withdraw call).books = s.books := by
    simp [Service.books, Service.launched, Service.browsersClosed, Service.launches,
      Service.failedLaunches, Service.withdraw_log, Service.withdraw_browser]
  have letGo (g : PageGuard) : (s.letGo call g).books = s.books :=
    books_aside (i := .documentRemoved call) rfl rfl rfl
  cases phase with
  | asking | closing => exact .aside rfl rfl (by simp [Phase.isServed])
  | queued =>
      show Entry _ _ _ _ (s.withdraw call).books
      rw [withdraw]
      exact .aside rfl rfl (by simp [Phase.isServed])
  | launching =>
      show Entry _ _ _ _ ((s.note [.launchFailed]).withdraw call).books
      rw [withdraw, books_failed]
      exact .failed
  | writing | opening | loading | settling | looking | leaving =>
      show Entry _ _ _ _ (s.letGo call _).books
      rw [letGo]
      exact .aside rfl rfl (by simp [Phase.isServed])
  | retiring | done => cases hs

theorem books_closeLeft (hn : n ∈ s.leftOpen) : (s.closeLeft n).books = s.books := by
  unfold Service.closeLeft
  rw [if_pos hn]
  exact books_aside (i := .pageClosed n) rfl rfl rfl

/-- What a change enters in the books is an entry of one of the calls, or nothing. -/
theorem entry_change (hc : Change c B x y) :
    (y.1 = x.1 ∧ y.2.books = x.2.books) ∨
      ∃ before k k' after, x.1 = before ++ k :: after ∧ y.1 = before ++ k' :: after ∧ k'.job = k.job ∧
        Entry k.job k.standing.phase x.2.books k'.standing.phase y.2.books := by
  cases hc with
  | @hop before after k phase phase' s s' b hb hk hop =>
      refine .inr ⟨before, k, _, after, rfl, rfl, rfl, ?_⟩
      rw [hk, Standing.phase_ofPhase]
      exact entry_hop hop
  | @giveUp before after k phase s hk hs =>
      refine .inr ⟨before, k, _, after, rfl, rfl, rfl, ?_⟩
      rw [hk]
      exact entry_abandon k.job s k.number hs
  | @close ks s n hn =>
      exact .inl ⟨rfl, books_closeLeft hn⟩

/-! ## The books balance -/

namespace Call

def isLaunching (k : Call) : Bool := k.standing.phase.isLaunching

def takenOut? (k : Call) : Option Nat := k.standing.phase.takenOut?

/-- Whether a launch or a rendering got its browser. -/
def isServed (k : Call) : Bool := k.job ≠ .shutdown && k.standing.phase.isServed

end Call

/-- The books balance with what calls are doing. -/
structure Balanced (ks : List Call) (v : Books) : Prop where
  numbered : v.launched = List.range v.launched.length
  /-- What was started was closed, or is to be closed, or is in the slot. -/
  balance : v.launched.Perm (v.closed ++ ks.filterMap (·.takenOut?) ++ v.browser.toList)
  attempts : v.tried = v.launched.length + v.failed + ks.countP (·.isLaunching)
  /-- While a browser is started there is none in the slot. -/
  starting : ∀ k ∈ ks, k.isLaunching = true → k.job ≠ .shutdown ∧ v.browser = none
  retiring : ∀ k ∈ ks, k.takenOut? ≠ none → k.job = .shutdown
  /-- Only a shutdown closes a browser. -/
  shut : v.closed ≠ [] → ∃ k ∈ ks, k.job = .shutdown
  served : ∀ k ∈ ks, k.isServed = true → v.launched ≠ []

theorem isServed_eq_true : k.isServed = true ↔ k.job ≠ .shutdown ∧ k.standing.phase.isServed = true := by
  simp [Call.isServed]

/-- In what order the calls stand does not matter. -/
theorem Balanced.perm {gs : List Call} {v : Books} (h : Balanced ks v) (hp : ks.Perm gs) :
    Balanced gs v where
  numbered := h.numbered
  balance := h.balance.trans ((((hp.filterMap _).append_left _)).append_right _)
  attempts := by rw [← hp.countP_eq]; exact h.attempts
  starting := fun k hk => h.starting k (hp.mem_iff.mpr hk)
  retiring := fun k hk => h.retiring k (hp.mem_iff.mpr hk)
  shut := by
    intro hc
    obtain ⟨k, hk, hj⟩ := h.shut hc
    exact ⟨k, hp.mem_iff.mp hk, hj⟩
  served := fun k hk => h.served k (hp.mem_iff.mpr hk)

theorem balanced_outset (jobs : List Call) : Balanced (outset jobs).1 (outset jobs).2.books := by
  have hphase {k : Call} (hk : k ∈ (outset jobs).1) : k.standing.phase = .asking := by
    rw [standing_outset hk]
    rfl
  have hlaunching {k : Call} (hk : k ∈ (outset jobs).1) : k.isLaunching = false := by
    unfold Call.isLaunching
    rw [hphase hk]
    rfl
  have htaken {k : Call} (hk : k ∈ (outset jobs).1) : k.takenOut? = none := by
    unfold Call.takenOut?
    rw [hphase hk]
    rfl
  constructor
  case numbered => rfl
  case balance =>
    rw [List.filterMap_eq_nil_iff.mpr fun k hk => htaken hk]
    exact .refl _
  case attempts =>
    rw [List.countP_eq_zero.mpr fun k hk => by simp [hlaunching hk]]
    rfl
  case starting => exact fun k hk hl => absurd hl (by simp [hlaunching hk])
  case retiring => exact fun k hk ht => absurd (htaken hk) ht
  case shut => exact fun hc => absurd rfl hc
  case served =>
    intro k hk hs
    have := (isServed_eq_true.mp hs).2
    rw [hphase hk] at this
    cases this

/-! ### What an entry does to each part of the balance -/

section Entry

variable {v v' : Books} {rest : List Nat} {others : Nat}

theorem isAside_iff : phase.isAside = true ↔ phase.isLaunching = false ∧ phase.takenOut? = none := by
  simp [Phase.isAside]

theorem Entry.numbered (he : Entry job phase v phase' v')
    (h : v.launched = List.range v.launched.length) :
    v'.launched = List.range v'.launched.length := by
  cases he with
  | launched =>
      show v.launched ++ _ = _
      rw [List.length_append, List.length_singleton, List.range_succ, ← h]
  | _ => exact h

theorem Entry.balance (he : Entry job phase v phase' v')
    (hstarting : phase.isLaunching = true → v.browser = none)
    (h : v.launched.Perm (v.closed ++ (phase.takenOut?.toList ++ rest) ++ v.browser.toList)) :
    v'.launched.Perm (v'.closed ++ (phase'.takenOut?.toList ++ rest) ++ v'.browser.toList) := by
  cases he with
  | aside ha ha' | found ha ha' =>
      rw [(isAside_iff.mp ha).2] at h
      rw [(isAside_iff.mp ha').2]
      exact h
  | tried ha =>
      rw [(isAside_iff.mp ha).2] at h
      exact h
  | launched ha' =>
      rw [hstarting rfl] at h
      rw [(isAside_iff.mp ha').2]
      simpa [Phase.takenOut?] using h.append_right [v.launched.length]
  | failed => exact h
  | @takenOut _ _ n ha _ hb =>
      -- it goes from the slot to the call
      rw [(isAside_iff.mp ha).2, hb] at h
      refine h.trans ?_
      have hswap : (rest ++ [n]).Perm ([n] ++ rest) := List.perm_append_comm
      simpa [Phase.takenOut?] using hswap.append_left v.closed
  | closed =>
      -- it goes from the call to those that are closed
      simpa [Phase.takenOut?] using h

theorem Entry.attempts (he : Entry job phase v phase' v')
    (h : v.tried = v.launched.length + v.failed + (phase.isLaunching.toNat + others)) :
    v'.tried = v'.launched.length + v'.failed + (phase'.isLaunching.toNat + others) := by
  cases he with
  | aside ha ha' | found ha ha' =>
      rw [(isAside_iff.mp ha).1] at h
      rw [(isAside_iff.mp ha').1]
      exact h
  | tried ha =>
      rw [(isAside_iff.mp ha).1] at h
      have : v.tried = v.launched.length + v.failed + (0 + others) := h
      show v.tried + 1 = v.launched.length + v.failed + (1 + others)
      omega
  | launched ha' =>
      rw [(isAside_iff.mp ha').1]
      have : v.tried = v.launched.length + v.failed + (1 + others) := h
      simp
      omega
  | failed =>
      have : v.tried = v.launched.length + v.failed + (1 + others) := h
      show v.tried = v.launched.length + (v.failed + 1) + (0 + others)
      omega
  | takenOut ha =>
      rw [(isAside_iff.mp ha).1] at h
      exact h
  | closed => exact h

/-- A call that waits for a start found no browser, and is not there to close one. -/
theorem Entry.starting (he : Entry job phase v phase' v') (hl : phase'.isLaunching = true) :
    job ≠ .shutdown ∧ v'.browser = none := by
  cases he with
  | aside _ ha' | found _ ha' | launched ha' => simp [(isAside_iff.mp ha').1] at hl
  | tried _ hj hb => exact ⟨hj, hb⟩
  | failed | takenOut | closed => cases hl

/-- Only a call that waited for a start puts a browser into the slot. -/
theorem Entry.browser_eq_none (he : Entry job phase v phase' v') (hl : phase.isLaunching = false)
    (hb : v.browser = none) : v'.browser = none := by
  cases he with
  | launched => cases hl
  | takenOut => rfl
  | _ => exact hb

theorem Entry.retiring (he : Entry job phase v phase' v') (ht : phase'.takenOut? ≠ none) :
    job = .shutdown := by
  cases he with
  | aside _ ha' | found _ ha' | launched ha' => exact absurd (isAside_iff.mp ha').2 ht
  | tried | failed | closed => exact absurd rfl ht
  | takenOut _ hj => exact hj

theorem Entry.closed_ne_nil (he : Entry job phase v phase' v') (hc : v'.closed ≠ []) :
    v.closed ≠ [] ∨ phase.takenOut? ≠ none := by
  cases he with
  | closed => exact .inr (by simp [Phase.takenOut?])
  | _ => exact .inl hc

/-- A launch or a rendering is served by the browser that it finds or starts. -/
theorem Entry.served (he : Entry job phase v phase' v') (hj : job ≠ .shutdown)
    (hs : phase'.isServed = true) :
    phase.isServed = true ∨ phase.takenOut? ≠ none ∨ v.browser ≠ none ∨ v'.launched ≠ [] := by
  cases he with
  | aside _ _ h => exact .inl (h hj hs)
  | found _ _ hb => exact .inr (.inr (.inl hb))
  | launched => exact .inr (.inr (.inr (by simp)))
  | closed => exact .inr (.inl (by simp [Phase.takenOut?]))
  | tried | failed | takenOut => cases hs

/-- A start that came to nothing leaves the slot empty, and its call is done. -/
theorem Entry.failed_or (he : Entry job phase v phase' v')
    (hb : phase.isLaunching = true → v.browser = none) :
    v'.failed = v.failed ∧ (phase'.isLaunching = true → v'.browser = none) ∨
      phase'.isDone = true ∧ v'.browser = none := by
  cases he with
  | aside _ ha' | found _ ha' | launched ha' =>
      exact .inl ⟨rfl, fun hl => by rw [(isAside_iff.mp ha').1] at hl; cases hl⟩
  | tried _ _ hnone => exact .inl ⟨rfl, fun _ => hnone⟩
  | failed => exact .inr ⟨rfl, hb rfl⟩
  | takenOut | closed => exact .inl ⟨rfl, fun hl => by cases hl⟩

/-- What is in the slot was there before or was started. -/
theorem Entry.browser_or (he : Entry job phase v phase' v') (hb : v'.browser ≠ none) :
    v.browser ≠ none ∨ v.launched.length < v'.launched.length := by
  cases he with
  | launched => exact .inr (by simp)
  | takenOut => exact absurd rfl hb
  | _ => exact .inl hb

theorem Entry.launched_prefix (he : Entry job phase v phase' v') : v.launched <+: v'.launched := by
  cases he with
  | launched => exact List.prefix_append ..
  | _ => exact List.prefix_refl _

end Entry

theorem filterMap_takenOut?_cons (k : Call) (ks : List Call) :
    (k :: ks).filterMap (·.takenOut?) =
      k.standing.phase.takenOut?.toList ++ ks.filterMap (·.takenOut?) := by
  rw [List.filterMap_cons, Call.takenOut?]
  cases k.standing.phase.takenOut? <;> rfl

theorem countP_isLaunching_cons (k : Call) (ks : List Call) :
    (k :: ks).countP (·.isLaunching) =
      k.standing.phase.isLaunching.toNat + ks.countP (·.isLaunching) := by
  rw [List.countP_cons, Nat.add_comm, Call.isLaunching]
  cases k.standing.phase.isLaunching <;> rfl

/-- **Every entry keeps the balance**, as long as one call at a time waits for a start. -/
theorem Balanced.enter {v v' : Books} (h : Balanced (k :: ks) v)
    (hlone : k.isLaunching = true → ∀ g ∈ ks, g.isLaunching = false)
    (hjob : k'.job = k.job) (he : Entry k.job k.standing.phase v k'.standing.phase v') :
    Balanced (k' :: ks) v' := by
  obtain ⟨hstarting, hstartings⟩ := List.forall_mem_cons.mp h.starting
  obtain ⟨hretiring, hretirings⟩ := List.forall_mem_cons.mp h.retiring
  obtain ⟨hserved, hserveds⟩ := List.forall_mem_cons.mp h.served
  have hbalance := h.balance
  have hattempts := h.attempts
  rw [filterMap_takenOut?_cons] at hbalance
  rw [countP_isLaunching_cons] at hattempts
  have grows (hne : v.launched ≠ []) : v'.launched ≠ [] := fun hnil =>
    hne (List.prefix_nil.mp (hnil ▸ he.launched_prefix))
  constructor
  case numbered => exact he.numbered h.numbered
  case balance =>
    rw [filterMap_takenOut?_cons]
    exact he.balance (fun hl => (hstarting hl).2) hbalance
  case attempts =>
    rw [countP_isLaunching_cons]
    exact he.attempts hattempts
  case starting =>
    refine List.forall_mem_cons.mpr ⟨fun hl => hjob ▸ he.starting hl, fun g hg hl => ?_⟩
    obtain ⟨hj, hb⟩ := hstartings g hg hl
    refine ⟨hj, he.browser_eq_none ?_ hb⟩
    -- the start that `g` waits for is the only one
    cases hk : k.isLaunching with
    | false => exact hk
    | true => rw [hlone hk g hg] at hl; cases hl
  case retiring => exact List.forall_mem_cons.mpr ⟨fun ht => hjob.trans (he.retiring ht), hretirings⟩
  case shut =>
    intro hc
    have hjobs : ∃ g ∈ k :: ks, g.job = .shutdown := by
      rcases he.closed_ne_nil hc with hc | ht
      · exact h.shut hc
      · exact ⟨k, List.mem_cons_self, hretiring ht⟩
    obtain ⟨g, hg, hj⟩ := hjobs
    rcases List.mem_cons.mp hg with rfl | hg
    · exact ⟨k', List.mem_cons_self, hjob.trans hj⟩
    · exact ⟨g, List.mem_cons_of_mem _ hg, hj⟩
  case served =>
    refine List.forall_mem_cons.mpr ⟨fun hs => ?_, fun g hg hs => grows (hserveds g hg hs)⟩
    obtain ⟨hj, hs⟩ := isServed_eq_true.mp hs
    rw [hjob] at hj
    rcases he.served hj hs with hs | ht | hb | hl
    · exact grows (hserved (isServed_eq_true.mpr ⟨hj, hs⟩))
    · exact absurd (hretiring ht) hj
    · -- what is in the slot was started
      obtain ⟨n, hn⟩ := Option.ne_none_iff_exists'.mp hb
      have hm : n ∈ v.launched := hbalance.mem_iff.mpr (by simp [hn])
      exact grows (List.ne_nil_of_mem hm)
    · exact hl

/-- A call that waits for a start has the slot, so no other one does. -/
theorem Attended.lone (h : Attended (before ++ k :: after, s)) (hl : k.isLaunching = true) :
    ∀ g ∈ before ++ after, g.isLaunching = false := by
  have holder {g : Call} (hg : g ∈ before ++ k :: after) (hl : g.isLaunching = true) :
      s.holder = some g.number := by
    have hp := h.placed g hg
    unfold Call.isLaunching at hl
    cases hphase : g.standing.phase with
    | launching =>
        rw [hphase] at hp
        exact hp
    | _ => rw [hphase] at hl; cases hl
  intro g hg
  cases hgl : g.isLaunching with
  | false => rfl
  | true =>
      have hk := holder (mem_focus.mpr (.inl rfl)) hl
      have hg' := holder (mem_focus.mpr (.inr hg)) hgl
      exact absurd (Option.some.inj (hg'.symm.trans hk)) (h.ne_number hg)

/-- **Every change keeps the balance.** -/
theorem balanced_change (ha : Attended x) (h : Balanced x.1 x.2.books) (hc : Change c B x y) :
    Balanced y.1 y.2.books := by
  rcases entry_change hc with ⟨hks, hv⟩ | ⟨before, k, k', after, hx, hy, hjob, he⟩
  · rw [hks, hv]
    exact h
  · obtain ⟨ks, s⟩ := x
    subst hx
    rw [hy]
    exact ((h.perm List.perm_middle).enter ha.lone hjob he).perm List.perm_middle.symm

theorem balanced_interleaving {jobs : List Call} (h : Interleaving c B (outset jobs) x) :
    Attended x ∧ Balanced x.1 x.2.books :=
  interleaving_induction (P := fun x => Attended x ∧ Balanced x.1 x.2.books)
    (fun _ _ hx hc => ⟨attended_change hx.1 hc, balanced_change hx.1 hx.2 hc⟩) h
    ⟨attended_outset jobs, balanced_outset jobs⟩

end AppMend.Preview
