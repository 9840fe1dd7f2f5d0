import AppMend.Proofs.Heal.Journal

/-!
# The events of a heal are its log

A heal tells of each step of its state when it takes it, and the state keeps a log of the same steps.
What is told can be computed from the log alone (`eventsOfLog`): it is one event for each record, in
order, with the attempt that was begun last by then.

An operation of a session makes one step at most and tells of just that step (`eventsOfLog_recorded`), so
the log and the events agree after everything that can happen to a session (`events_of_diary`). A failed
attempt leaves a message in the state, but the next step comes with a reason of its own and tells that.
-/

namespace AppMend

namespace HealState

variable {name : String} {bound : Nat} {a b : HealState} {ts : List Transition} {t : Transition}
  {told : List HealEvent}

/-- The greatest number of an attempt that a log has the beginning of. -/
def largestBegun (ts : List Transition) : Nat := (ts.filterMap Transition.begun?).foldl max 0

/-- What there is to tell of each record of a log. -/
def eventsOfLog (name : String) (bound : Nat) (ts : List Transition) : List HealEvent :=
  ts.mapIdx fun i t => ⟨name, largestBegun (ts.take (i + 1)), bound, t.target, t.reason⟩

/-- One more record is one more event, and those before it stay as they are. -/
theorem eventsOfLog_concat (name : String) (bound : Nat) (ts : List Transition) (t : Transition) :
    eventsOfLog name bound (ts ++ [t]) =
      eventsOfLog name bound ts ++ [⟨name, largestBegun (ts ++ [t]), bound, t.target, t.reason⟩] := by
  unfold eventsOfLog
  rw [List.mapIdx_concat, List.take_of_length_le (by simp)]
  congr 1
  -- an event looks only at the records up to its own
  refine List.mapIdx_eq_mapIdx_iff.mpr fun i hi => ?_
  rw [List.take_append_of_le_length hi]

theorem session_of_mem_eventsOfLog {e : HealEvent} (h : e ∈ eventsOfLog name bound ts) :
    e.session = name := by
  obtain ⟨i, hi, rfl⟩ := List.mem_mapIdx.mp h
  rfl

theorem foldl_max_range' (n : Nat) : (List.range' 1 n).foldl max 0 = n := by
  induction n with
  | zero => rfl
  | succ n ih =>
      rw [List.range'_concat, List.foldl_append, ih]
      show max n (1 + 1 * n) = n + 1
      omega

/-- The counter of a heal is the attempt that was begun last. -/
theorem Chronicle.largestBegun_eq (h : Chronicle bound a) :
    largestBegun a.transitions = a.attemptNumber := by
  rw [largestBegun, h.begun, foldl_max_range']

/-- **What is told of a step is what its record says.** -/
theorem eventsOfLog_recorded (h : Recorded name a b told) (hb : Chronicle bound b) :
    eventsOfLog name bound b.transitions = eventsOfLog name bound a.transitions ++ told := by
  rcases h with ⟨rfl, rfl⟩ | ⟨target, reason, _, rfl, rfl⟩
  · rw [List.append_nil]
  · have hlast := hb.largestBegun_eq
    have hbound := hb.bound
    simp only [moved] at hlast hbound ⊢
    rw [eventsOfLog_concat, hlast, ← hbound]
    rfl

end HealState

namespace Session

open HealState (eventsOfLog Recorded)

variable {c : Config} {name prompt : String} {files : FileSet} {os : List Occurrence} {asking : Bool}
  {s t : Session}

theorem Standing.chronicle {n : Nat} (h : Standing c s n) :
    HealState.Chronicle c.heal.maxAttempts s.state := by
  cases h <;> assumption

/-- **The events that were told are those of the log**, at any moment. -/
theorem events_of_diary (h : Diary c (begin c name prompt files) os asking s) :
    s.name = name ∧
      (eventsOf os).reverse = eventsOfLog name c.heal.maxAttempts s.state.transitions := by
  -- what happens at each place of the diary, when the log was the events up to there
  have next {o : Occurrence} {os : List Occurrence} {asking : Bool} {s t : Session}
      (hd : Diary c (begin c name prompt files) (o :: os) asking t)
      (hr : Recorded s.name s.state t.state o.told) (hn : t.name = s.name)
      (ih : s.name = name ∧
        (eventsOf os).reverse = eventsOfLog name c.heal.maxAttempts s.state.transitions) :
      t.name = name ∧
        (eventsOf (o :: os)).reverse = eventsOfLog name c.heal.maxAttempts t.state.transitions := by
    obtain ⟨hname, hlog⟩ := ih
    obtain ⟨n, hstand, _⟩ := standing_of_diary hd (standing_begin c name prompt files)
    refine ⟨hn.trans hname, ?_⟩
    rw [HealState.eventsOfLog_recorded (hname ▸ hr) hstand.chronicle, ← hlog, eventsOf,
      List.flatMap_cons, List.reverse_append, List.reverse_reverse]
    rfl
  induction h with
  | start => exact ⟨rfl, rfl⟩
  | passed hd hp hres hpass ih =>
      obtain ⟨hr, state, fix, phase, rfl, _⟩ := onPass_eq_ok hpass
      exact next (.passed hd hp hres hpass) hr rfl ih
  | asked hd hp ih => exact ih
  | answered answer hd hp hgen ih =>
      cases ha : answer.checked with
      | ok files =>
          obtain ⟨hr, state, rfl⟩ := onGenerated_eq_ok ha hgen
          exact next (.answered answer hd hp hgen) hr rfl ih
      | error e =>
          obtain ⟨hr, state, phase, rfl, _⟩ := onGenerated_eq_error ha hgen
          exact next (.answered answer hd hp hgen) hr rfl ih
  | calledOff hd hp hoff ih =>
      obtain ⟨hr, state, rfl⟩ := onCalledOff_eq_ok hoff
      exact next (.calledOff hd hp hoff) hr rfl ih

/-- What was told of a session: its log, and two events for each attempt at most and one for the end. -/
structure Announced (c : Config) (name : String) (s : Session) (es : List HealEvent) : Prop where
  log : es = eventsOfLog name c.heal.maxAttempts s.state.transitions
  length_le : es.length ≤ 2 * c.heal.maxAttempts + 1

theorem announced_of_diary (h : Diary c (begin c name prompt files) os asking s) :
    Announced c name s (eventsOf os).reverse := by
  obtain ⟨n, _, _, hle⟩ := standing_of_diary h (standing_begin c name prompt files)
  refine ⟨(events_of_diary h).2, ?_⟩
  rw [List.length_reverse]
  exact Nat.le_trans (Nat.le_add_right _ _) hle

end Session

namespace Heals

open HealState (eventsOfLog)
open Session (Occurrence eventsOf)

variable {w : HealWorld} {x : HealShared} {sessions : List String} {journal : List (Nat × Occurrence)}
  {i : Nat} {name : String} {s : Session}

/-- Each event in a journal is of the session whose heal told it. -/
theorem Recorded.session_eq (h : Recorded w x sessions journal) {e : Nat × Occurrence}
    (he : e ∈ journal) {event : HealEvent} (hm : event ∈ e.2.told) :
    sessions[e.1]? = some event.session := by
  have hi := List.getElem?_eq_getElem (h.own e he)
  obtain ⟨asking, s, hd, _⟩ := h.diary e.1 _ hi
  have hmine : e.2 ∈ notesOf e.1 journal :=
    List.mem_map.mpr ⟨e, List.mem_filter.mpr ⟨he, beq_self_eq_true _⟩, rfl⟩
  have hevent : event ∈ (eventsOf (notesOf e.1 journal)).reverse :=
    List.mem_reverse.mpr (List.mem_flatMap.mpr ⟨e.2, hmine, List.mem_reverse.mpr hm⟩)
  rw [(Session.events_of_diary hd).2] at hevent
  rw [HealState.session_of_mem_eventsOfLog hevent]
  exact hi

/-- When no two heals are of one session, a heal has told all events of its session. -/
theorem filter_eventsOf (hd : sessions.Nodup) (hi : sessions[i]? = some name)
    (h : ∀ e ∈ journal, ∀ event ∈ e.2.told, sessions[e.1]? = some event.session) :
    (eventsOf (journal.map (·.2))).filter (·.session == name) = eventsOf (notesOf i journal) := by
  induction journal with
  | nil => rfl
  | cons e journal ih =>
      have hhead := h e List.mem_cons_self
      have hrest := ih fun e he => h e (List.mem_cons_of_mem _ he)
      have hsplit : eventsOf ((e :: journal).map (·.2)) =
          e.2.told.reverse ++ eventsOf (journal.map (·.2)) := rfl
      rw [hsplit, List.filter_append, hrest]
      by_cases he : e.1 = i
      · have hall : ∀ event ∈ e.2.told.reverse, (event.session == name) = true := by
          intro event hm
          have := hhead event (List.mem_reverse.mp hm)
          rw [he, hi] at this
          exact beq_iff_eq.mpr (Option.some.inj this).symm
        have hnotes : notesOf i (e :: journal) = e.2 :: notesOf i journal := by
          rw [notesOf, List.filter_cons_of_pos (by simp [he])]
          rfl
        rw [List.filter_eq_self.mpr hall, hnotes]
        rfl
      · have hnone : ∀ event ∈ e.2.told.reverse, ¬ (event.session == name) = true := by
          intro event hm heq
          have hj := hhead event (List.mem_reverse.mp hm)
          rw [beq_iff_eq.mp heq, ← hi] at hj
          -- a name stands at one place of the sessions
          obtain ⟨hlt, _⟩ := List.getElem?_eq_some_iff.mp hi
          exact he ((List.getElem?_inj hlt hd).mp hj.symm).symm
        have hnotes : notesOf i (e :: journal) = notesOf i journal := by
          rw [notesOf, List.filter_cons_of_neg (by simp [he])]
          rfl
        rw [List.filter_eq_nil_iff.mpr hnone, hnotes, List.nil_append]

/-- **A heal tells the log of its state, record by record.** This is so at every moment of a run of a
session. When heals run together, a journal has what each of them told; and when they are of different
sessions, these are all events of its session on the bus. -/
theorem announced :
    (∀ (c : Config) (name prompt : String) (files : FileSet) (n : Nat) (es : List HealEvent)
      (rs : List RegenerationRequest) (s : Session),
      Session.Run c (Session.begin c name prompt files) n es rs s → s.Announced c name es) ∧
    (∀ (w : HealWorld) (x : HealShared) (sessions : List String),
      ∃ journal, Recorded w x sessions journal ∧
        ∀ i name s, sessions[i]? = some name → resultAt w x sessions i = some (.ok s) →
          s.Announced w.config name (eventsOf (notesOf i journal)).reverse) ∧
    (∀ (w : HealWorld) (x : HealShared) (sessions : List String), sessions.Nodup →
      ∃ new, (runBatch w x sessions).2.bus.told = new ++ x.bus.told ∧
        ∀ i name s, sessions[i]? = some name → resultAt w x sessions i = some (.ok s) →
          s.Announced w.config name (new.filter (·.session == name)).reverse) := by
  have together (w : HealWorld) (x : HealShared) (sessions : List String) :
      ∃ journal, Recorded w x sessions journal ∧
        ∀ i name s, sessions[i]? = some name → resultAt w x sessions i = some (.ok s) →
          s.Announced w.config name (eventsOf (notesOf i journal)).reverse := by
    obtain ⟨journal, hj⟩ := journal_runBatch w x sessions
    exact ⟨journal, hj, fun i name s hi hs => Session.announced_of_diary (hj.diary_of_ok hi hs)⟩
  refine ⟨?_, together, ?_⟩
  · intro c name prompt files n es rs s hr
    obtain ⟨os, hd, hes, _⟩ := Session.diary_of_run hr
    have := Session.announced_of_diary hd
    rwa [hes, List.reverse_reverse] at this
  · intro w x sessions hdistinct
    obtain ⟨journal, hj, hall⟩ := together w x sessions
    refine ⟨eventsOf (journal.map (·.2)), hj.told, fun i name s hi hs => ?_⟩
    rw [filter_eventsOf hdistinct hi fun e he event hm => hj.session_eq he hm]
    exact hall i name s hi hs

/-- The four events of a heal whose first attempt failed. -/
theorem announced_faltering :
    ["s"].Nodup ∧ ∃ s, resultAt faltering {} ["s"] 0 = some (.ok s) ∧
      s.state.transitions.map (·.target) = [.healing 1, .healing 2, .revalidating 2, .healed] ∧
      s.Announced faltering.config "s" (runBatch faltering {} ["s"]).2.bus.told.reverse := by
  have hrun : (resultAt faltering {} ["s"] 0).map (fun r => r.toOption.map fun s =>
        s.state.transitions.map (·.target)) =
      some (some [.healing 1, .healing 2, .revalidating 2, .healed]) := by
    decide +kernel
  have hown : ∀ e ∈ (runBatch faltering {} ["s"]).2.bus.told, (e.session == "s") = true := by
    decide +kernel
  have hdistinct : ["s"].Nodup := by decide
  obtain ⟨s, hs, htargets⟩ := exists_session_of_resultAt hrun
  obtain ⟨new, htold, hall⟩ := announced.2.2 faltering {} ["s"] hdistinct
  rw [show (({} : HealShared).bus.told) = [] from rfl, List.append_nil] at htold
  have hlog := hall 0 "s" s rfl hs
  rw [← htold, List.filter_eq_self.mpr hown] at hlog
  exact ⟨hdistinct, s, hs, htargets, hlog⟩

end Heals

end AppMend
