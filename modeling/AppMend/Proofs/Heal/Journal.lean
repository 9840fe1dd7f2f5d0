import AppMend.Proofs.Heal.Batch
import AppMend.Proofs.Heal.Diary

/-!
# Journals of heals that run together

Heals that run together take turns, so what they tell and ask for is mixed on the bus and with the
generator. A journal of them is one list of all that happens to any of them, each entry with the number
of the heal. What it has of one heal is a diary of its session, and what it has of all heals together are
the events on the bus and the requests made, in their order (`Journal`).

A step of a heal puts at most a request and an answer to the journal (`noted_step`); so there is a
journal of every batch (`journal_runBatch`), and what is proved of all diaries is true of all heals.
-/

namespace AppMend

open Session (Diary Occurrence eventsOf requestsOf)

namespace Heal

variable {w : HealWorld} {now : Nat} {x x' : HealShared} {name : String} {a a' : Activity}
  {os : List Occurrence} {requests : List RegenerationRequest}

/-! ## What a heal notes -/

/-- The answer that comes of a reply, whenever the request was made. -/
def answerOf (w : HealWorld) (r : Reply) : Generated := (answerAt w 0 r).2

theorem snd_answerAt (w : HealWorld) (now : Nat) (r : Reply) :
    (answerAt w now r).2 = answerOf w r := by
  unfold answerOf answerAt
  dsimp only
  split <;> rfl

/-- The generator gave this answer to a request, which is one of those made. -/
def Answered (w : HealWorld) (requests : List RegenerationRequest) (r : RegenerationRequest)
    (answer : Generated) : Prop :=
  ∃ later earlier, requests = later ++ r :: earlier ∧ answer = answerOf w (w.reply earlier.length r)

theorem Answered.mono {r : RegenerationRequest} {answer : Generated} (h : Answered w requests r answer)
    (more : List RegenerationRequest) : Answered w (more ++ requests) r answer := by
  obtain ⟨later, earlier, rfl, ha⟩ := h
  exact ⟨more ++ later, earlier, (List.append_assoc ..).symm, ha⟩

/-- What a heal is doing, seen from the diary of its session. -/
inductive Noted (w : HealWorld) (requests : List RegenerationRequest) (name : String)
    (os : List Occurrence) : Activity → Prop where
  | unstarted : os = [] → Noted w requests name os .unstarted
  | turnedAway {e : SessionBusy} : os = [] → Noted w requests name os (.ended (.error (.busy e)))
  | ready {s : Session} : Diary w.config (first w name) os false s →
      Noted w requests name os (.ready s)
  | rendering {s : Session} {off : Stage → Bool} {p : Pass} {code entry : String} {call : Nat}
      {phase : Preview.Phase} : Diary w.config (first w name) os false s → s.phase = .checking →
      Pass.upToPreview w.config off s.state.attemptNumber s.working = .ok (.toRender p code entry) →
      Noted w requests name os (.rendering s p code entry call phase)
  | awaiting {s : Session} {d : Diagnosis} {deadline : Nat} {answer : Generated} :
      Diary w.config (first w name) os true s → s.phase = .regenerating d →
      Answered w requests (s.request d) answer →
      Noted w requests name os (.awaiting s d deadline answer)
  | ended {s : Session} : Diary w.config (first w name) os false s → s.phase = .over →
      Noted w requests name os (.ended (.ok s))

theorem Noted.mono (h : Noted w requests name os a) (more : List RegenerationRequest) :
    Noted w (more ++ requests) name os a := by
  cases h with
  | unstarted ho => exact .unstarted ho
  | turnedAway ho => exact .turnedAway ho
  | ready hd => exact .ready hd
  | rendering hd hp hu => exact .rendering hd hp hu
  | awaiting hd hp ha => exact .awaiting hd hp (ha.mono more)
  | ended hd hp => exact .ended hd hp

/-- All answers among some occurrences are of the generator. -/
def Genuine (w : HealWorld) (requests : List RegenerationRequest) (os : List Occurrence) : Prop :=
  ∀ r answer told, .answered r answer told ∈ os → Answered w requests r answer

/-- What comes of a step of a heal: it notes something more, and what that tells and asks for is shared. -/
structure Notes (w : HealWorld) (name : String) (os : List Occurrence) (x x' : HealShared)
    (a' : Activity) (new : List Occurrence) : Prop where
  noted : Noted w x'.requests name (new ++ os) a'
  told : x'.bus.told = eventsOf new ++ x.bus.told
  requests : x'.requests = requestsOf new ++ x.requests
  genuine : Genuine w x'.requests new

/-- A heal goes on and nothing happens to its session. -/
theorem notes_aside (h : Noted w x.requests name os a') (hb : x'.bus = x.bus)
    (hr : x'.requests = x.requests) : Notes w name os x x' a' [] where
  noted := by rw [hr]; exact h
  told := by rw [hb]; rfl
  requests := hr
  genuine := fun _ _ _ hm => by cases hm

/-- A heal goes on after something happened to its session, and perhaps a request before. -/
theorem notes_after (o : Occurrence) (before : List Occurrence) {r : SessionStep} {session : String}
    {t : Session} (hd : Diary w.config (first w name) (o :: before ++ os) false t)
    (hr : r = .ok (t, o.told)) (hb : x'.bus = x.bus)
    (hq : x'.requests = requestsOf (o :: before) ++ x.requests) (hbefore : eventsOf before = [])
    (hg : Genuine w x'.requests (o :: before)) :
    Notes w name os x (after x' session r).2 (after x' session r).1 (o :: before) := by
  subst hr
  refine ⟨.ready hd, ?_, hq, hg⟩
  show (x'.publish o.told).bus.told = _
  rw [told_publish, hb]
  show _ = (o.told.reverse ++ eventsOf before) ++ x.bus.told
  rw [hbefore, List.append_nil]

/-- Where no answer is, none has to be of the generator. -/
theorem genuine_of_none (h : ∀ r answer told, .answered r answer told ∉ os) :
    Genuine w requests os := fun r answer told hm => absurd hm (h r answer told)

/-- Where a session stands after a diary. -/
theorem standing_of_noted {asking : Bool} {s : Session}
    (h : Diary w.config (first w name) os asking s) : ∃ n, Session.Standing w.config s n := by
  obtain ⟨n, hstand, _⟩ := Session.standing_of_diary h (Session.standing_begin w.config name _ _)
  exact ⟨n, hstand⟩

theorem notes_passed {s : Session} {p : Pass} (hd : Diary w.config (first w name) os false s)
    (hp : s.phase = .checking) (hres : Pass.Result w.config s.state.attemptNumber s.working (.ok p)) :
    ∃ new, Notes w name os x (after x s.name (s.onPass p)).2 (after x s.name (s.onPass p)).1 new := by
  obtain ⟨n, hstand⟩ := standing_of_noted hd
  obtain ⟨t, es, ht, _⟩ := Session.standing_onPass hstand hp hres
  have hd' : Diary w.config (first w name) (.passed p es :: os) false t := .passed hd hp hres ht
  exact ⟨_, notes_after (.passed p es) [] hd' ht rfl rfl rfl
    (genuine_of_none (by simp))⟩

theorem notes_calledOff (before : List Occurrence) {s : Session} {asking : Bool}
    (hd : Diary w.config (first w name) (before ++ os) asking s) (hne : s.phase ≠ .over)
    (during : String) (hb : x'.bus = x.bus) (hq : x'.requests = requestsOf before ++ x.requests)
    (hbefore : ∀ o ∈ before, ∃ working request, o = .asked working request) :
    ∃ new, Notes w name os x (after x' s.name (s.onCalledOff during)).2
      (after x' s.name (s.onCalledOff during)).1 new := by
  obtain ⟨n, hstand⟩ := standing_of_noted hd
  obtain ⟨t, es, ht, _⟩ := Session.standing_onCalledOff hstand hne during
  -- a request tells nothing and is no answer
  have hquiet : eventsOf before = [] := by
    refine List.flatMap_eq_nil_iff.mpr fun o ho => ?_
    obtain ⟨working, request, rfl⟩ := hbefore o ho
    rfl
  refine ⟨_, notes_after (.calledOff es) before (.calledOff hd hne ht) ht hb hq hquiet
    (genuine_of_none fun r answer told hm => ?_)⟩
  rcases List.mem_cons.mp hm with he | hm
  · cases he
  · obtain ⟨working, request, he⟩ := hbefore _ hm
    cases he

/-- **Every step of a heal is noted.** -/
theorem noted_step (h : Noted w x.requests name os a) (hs : Step w now name x a a' x') :
    ∃ new, Notes w name os x x' a' new := by
  have none_before (o : Occurrence) (ho : o ∈ ([] : List Occurrence)) :
      ∃ working request, o = .asked working request := by cases ho
  cases hs with
  | turnedAway =>
      cases h with
      | unstarted ho => exact ⟨[], notes_aside (.turnedAway ho) rfl rfl⟩
  | leased =>
      cases h with
      | unstarted ho =>
          subst ho
          exact ⟨[], notes_aside (.ready .start) rfl rfl⟩
  | finished hp =>
      cases h with
      | ready hd => exact ⟨[], notes_aside (.ended hd hp) rfl rfl⟩
  | passCalledOff hp =>
      cases h with
      | ready hd => exact notes_calledOff [] hd (by rw [hp]; simp) _ rfl rfl none_before
  | passed hp hu =>
      cases h with
      | ready hd => exact notes_passed hd hp (.unrendered hu)
  | toRender hp hu =>
      cases h with
      | ready hd => exact ⟨[], notes_aside (.rendering hd hp hu) rfl rfl⟩
  | @asked s d hp =>
      cases h with
      | ready hd =>
          -- the answer is fixed with the request, though it comes later
          refine ⟨[.asked s.working (s.request d)], .awaiting (.asked hd hp) hp ?_, rfl, rfl, ?_⟩
          · exact ⟨[], x.requests, rfl, snd_answerAt ..⟩
          · exact genuine_of_none (by simp)
  | @askedCalledOff s d hp =>
      cases h with
      | ready hd =>
          refine notes_calledOff [.asked s.working (s.request d)] (.asked hd hp)
            (by rw [hp]; simp) _ rfl rfl ?_
          intro o ho
          exact ⟨_, _, List.mem_singleton.mp ho⟩
  | rendered =>
      cases h with
      | rendering hd hp hu => exact notes_passed hd hp (.rendered _ hu)
  | previewCalledOff =>
      cases h with
      | rendering hd hp => exact notes_calledOff [] hd (by rw [hp]; simp) _ rfl rfl none_before
  | previewed =>
      cases h with
      | rendering hd hp hu => exact ⟨[], notes_aside (.rendering hd hp hu) rfl rfl⟩
  | answerCalledOff =>
      cases h with
      | awaiting hd hp => exact notes_calledOff [] hd (by rw [hp]; simp) _ rfl rfl none_before
  | @answered s d deadline answer =>
      cases h with
      | awaiting hd hp ha =>
          obtain ⟨n, hstand⟩ := standing_of_noted hd
          obtain ⟨t, es, ht, _⟩ := Session.standing_onGenerated hstand hp answer
          refine ⟨_, notes_after (.answered (s.request d) answer es) []
            (.answered answer hd hp ht) ht rfl rfl rfl ?_⟩
          intro r' answer' told hm
          cases List.mem_singleton.mp hm
          exact ha

end Heal

namespace Heals

variable {w : HealWorld} {now : Nat} {x x' x₀ : HealShared} {h h' : Heal} {before after hs : List Heal}
  {journal : List (Nat × Occurrence)} {new : List Occurrence} {i j : Nat}

/-! ## What heals note together -/

/-- What a journal has of one heal. -/
def notesOf (i : Nat) (journal : List (Nat × Occurrence)) : List Occurrence :=
  (journal.filter (·.1 == i)).map (·.2)

/-- A journal of heals since a state: it has a diary of each, and what all of them told and asked for. -/
structure Journal (w : HealWorld) (x₀ x : HealShared) (hs : List Heal)
    (journal : List (Nat × Occurrence)) : Prop where
  noted : ∀ i h, hs[i]? = some h →
    Heal.Noted w x.requests h.session (notesOf i journal) h.activity
  /-- Nothing is of anyone else. -/
  own : ∀ e ∈ journal, e.1 < hs.length
  told : x.bus.told = eventsOf (journal.map (·.2)) ++ x₀.bus.told
  requests : x.requests = requestsOf (journal.map (·.2)) ++ x₀.requests
  genuine : Heal.Genuine w x.requests (journal.map (·.2))

theorem notesOf_append (i : Nat) (js ks : List (Nat × Occurrence)) :
    notesOf i (js ++ ks) = notesOf i js ++ notesOf i ks := by
  rw [notesOf, List.filter_append, List.map_append]
  rfl

/-- A heal has its own notes, and no others. -/
theorem notesOf_map (i j : Nat) (new : List Occurrence) :
    notesOf i (new.map (j, ·)) = if j = i then new else [] := by
  unfold notesOf
  split
  · rename_i he
    rw [List.filter_eq_self.mpr (by simp [he]), List.map_map]
    exact List.map_id' new
  · rename_i he
    rw [List.filter_eq_nil_iff.mpr (by simp [he])]
    rfl

theorem journal_start (w : HealWorld) (x : HealShared) (sessions : List String) :
    Journal w x x (sessions.map fun session => { session }) [] := by
  refine ⟨?_, by simp, rfl, rfl, fun _ _ _ hm => by cases hm⟩
  intro i h hi
  obtain ⟨session, _, rfl⟩ := List.mem_map.mp (List.mem_of_getElem? hi)
  exact .unstarted rfl

/-- **A step of one heal adds to the journal of all.** -/
theorem Journal.step (h0 : Journal w x₀ x (before ++ h :: after) journal)
    (hs : h.step? w now x = some (h', x')) :
    ∃ journal', Journal w x₀ x' (before ++ h' :: after) journal' := by
  obtain ⟨hn, hstep⟩ := Heal.step_of_step? hs
  have hmid : (before ++ h :: after)[before.length]? = some h := by simp
  obtain ⟨new, hnotes⟩ := Heal.noted_step (h0.noted _ h hmid) hstep
  have hset : before ++ h' :: after = (before ++ h :: after).set before.length h' := by simp
  refine ⟨new.map (before.length, ·) ++ journal, ?_, ?_, ?_, ?_, ?_⟩
  · intro i g hi
    rw [hset, List.getElem?_set] at hi
    rw [notesOf_append, notesOf_map]
    split at hi
    · rename_i he
      subst he
      rw [if_pos (by simp)] at hi
      obtain rfl := Option.some.inj hi
      rw [if_pos rfl, hn]
      exact hnotes.noted
    · -- the other heals have what they had
      rename_i hne
      rw [if_neg hne, List.nil_append, hnotes.requests]
      exact (h0.noted i g hi).mono _
  · intro e he
    rw [hset, List.length_set]
    rcases List.mem_append.mp he with he | he
    · obtain ⟨o, _, rfl⟩ := List.mem_map.mp he
      simp
    · exact h0.own e he
  · rw [hnotes.told, h0.told, ← List.append_assoc]
    simp [eventsOf, List.flatMap_append, Function.comp_def]
  · rw [hnotes.requests, h0.requests, ← List.append_assoc]
    simp [requestsOf, List.filterMap_append, Function.comp_def]
  · intro r answer told hm
    rw [List.map_append, List.mem_append] at hm
    rcases hm with hm | hm
    · refine hnotes.genuine r answer told ?_
      simpa using hm
    · rw [hnotes.requests]
      exact (h0.genuine r answer told hm).mono _

/-! ## The journal of a batch -/

/-- What the heal at a place of a batch ended with. -/
def resultAt (w : HealWorld) (x : HealShared) (sessions : List String) (i : Nat) :
    Option (Except HealFailure Session) :=
  ((runBatch w x sessions).1[i]?).join

/-- A journal of a batch: a diary of each of its sessions, and all that they told and asked for. -/
structure Recorded (w : HealWorld) (x : HealShared) (sessions : List String)
    (journal : List (Nat × Occurrence)) : Prop where
  told : (runBatch w x sessions).2.bus.told = eventsOf (journal.map (·.2)) ++ x.bus.told
  requests : (runBatch w x sessions).2.requests = requestsOf (journal.map (·.2)) ++ x.requests
  own : ∀ e ∈ journal, e.1 < sessions.length
  genuine : Heal.Genuine w (runBatch w x sessions).2.requests (journal.map (·.2))
  /-- Each heal has a diary of a session, the one it comes to if it ends with one. -/
  diary : ∀ i name, sessions[i]? = some name → ∃ asking s,
    Diary w.config (Heal.first w name) (notesOf i journal) asking s ∧
    ∀ t, resultAt w x sessions i = some (.ok t) → asking = false ∧ s = t ∧ t.phase = .over
  /-- A heal that is turned away has nothing to note. -/
  turnedAway : ∀ i e, resultAt w x sessions i = some (.error e) → notesOf i journal = []

theorem journal_lastOf (w : HealWorld) (x : HealShared) (sessions : List String) :
    ∃ journal, Journal w x (lastOf w x sessions).2 (lastOf w x sessions).1 journal := by
  refine run_induction (P := fun x' hs => ∃ journal, Journal w x x' hs journal) ?_ _ 0
    ⟨[], journal_start w x sessions⟩
  rintro now x' before h after h' x'' ⟨journal, hj⟩ hs
  exact hj.step hs

/-- What is noted of a heal is a diary of its session. -/
theorem diary_of_noted {requests : List RegenerationRequest} {name : String} {os : List Occurrence}
    {a : Activity} (h : Heal.Noted w requests name os a) :
    ∃ asking s, Diary w.config (Heal.first w name) os asking s ∧
      ∀ t, a = .ended (.ok t) → asking = false ∧ s = t ∧ t.phase = .over := by
  cases h with
  | unstarted ho => subst ho; exact ⟨false, _, .start, fun t he => by cases he⟩
  | turnedAway ho => subst ho; exact ⟨false, _, .start, fun t he => by cases he⟩
  | ready hd => exact ⟨false, _, hd, fun t he => by cases he⟩
  | rendering hd => exact ⟨false, _, hd, fun t he => by cases he⟩
  | awaiting hd => exact ⟨true, _, hd, fun t he => by cases he⟩
  | ended hd hp =>
      refine ⟨false, _, hd, fun t he => ?_⟩
      cases he
      exact ⟨rfl, rfl, hp⟩

/-- What a heal comes to is what it ended with. -/
theorem exists_of_resultAt {r : Except HealFailure Session} {sessions : List String}
    (hr : resultAt w x sessions i = some r) :
    ∃ h, (lastOf w x sessions).1[i]? = some h ∧ h.activity = .ended r := by
  rw [resultAt, runBatch_eq, List.getElem?_map] at hr
  cases hl : (lastOf w x sessions).1[i]? with
  | none => rw [hl] at hr; cases hr
  | some h =>
      rw [hl, Option.map_some, Option.join_some] at hr
      unfold result? at hr
      split at hr
      · rename_i he
        exact ⟨h, rfl, he.trans (congrArg _ (Option.some.inj hr))⟩
      · cases hr

/-- **There is a journal of every batch.** -/
theorem journal_runBatch (w : HealWorld) (x : HealShared) (sessions : List String) :
    ∃ journal, Recorded w x sessions journal := by
  obtain ⟨journal, hj⟩ := journal_lastOf w x sessions
  have hnames := map_session_lastOf w x sessions
  have hlength : (lastOf w x sessions).1.length = sessions.length := by
    rw [← hnames, List.length_map, hnames]
  refine ⟨journal, hj.told, hj.requests, fun e he => hlength ▸ hj.own e he, hj.genuine, ?_, ?_⟩
  · intro i name hi
    rw [← hnames, List.getElem?_map] at hi
    obtain ⟨h, hh, rfl⟩ := Option.map_eq_some_iff.mp hi
    obtain ⟨asking, s, hd, hend⟩ := diary_of_noted (hj.noted i h hh)
    refine ⟨asking, s, hd, fun t ht => ?_⟩
    obtain ⟨h', hh', ha⟩ := exists_of_resultAt ht
    rw [hh] at hh'
    cases hh'
    exact hend t ha
  · intro i e hi
    obtain ⟨h, hh, ha⟩ := exists_of_resultAt hi
    have hnoted := hj.noted i h hh
    rw [ha] at hnoted
    cases hnoted with
    | turnedAway ho => exact ho

/-- What was noted of a heal is a diary of the session it ends with. -/
theorem Recorded.diary_of_ok {sessions : List String} {name : String} {s : Session}
    (h : Recorded w x sessions journal) (hi : sessions[i]? = some name)
    (hs : resultAt w x sessions i = some (.ok s)) :
    Diary w.config (Heal.first w name) (notesOf i journal) false s := by
  obtain ⟨asking, s', hd, hend⟩ := h.diary i name hi
  obtain ⟨rfl, rfl, _⟩ := hend s hs
  exact hd

/-- A script with a quote of the wrong kind and no style sheet, and a generator that answers without
files at first and with the style sheet after that. -/
def faltering : HealWorld where
  config := { analyzer := .heuristic, entry := some "a.css", bundle := { strategy := .fileMap } }
  browser := { page := fun _ => {} }
  prompt := "an app"
  files := .ofList [.of "b.js" "import './a.css\";\n", .of "notes.txt" "n"]
  reply n _ := { answer := .ok (if n = 0 then [] else [.of "./a.css" ""]) }

/-- What is computed of a session that a heal ends with is so of some session. -/
theorem exists_session_of_resultAt {α : Type} {f : Session → α} {a : α} {sessions : List String}
    (h : (resultAt w x sessions i).map (fun r => r.toOption.map f) = some (some a)) :
    ∃ s, resultAt w x sessions i = some (.ok s) ∧ f s = a := by
  obtain ⟨r, hr, hmap⟩ := Option.map_eq_some_iff.mp h
  obtain ⟨s, hs, hf⟩ := Option.map_eq_some_iff.mp hmap
  cases r with
  | error => cases hs
  | ok => cases hs; exact ⟨s, hr, hf⟩

end Heals

end AppMend
