import AppMend.Proofs.Preview.Phrases
import AppMend.Proofs.Preview.Promise

/-!
# Verdicts and what they tell

The verdict on a page has an issue for a load that took too long, then one for each fault that the page
reported, in the order of the reports, and last one for what the page shows, if it was loaded in time and
looks failed (`Judged`). What the page reported is told whether it was loaded in time or not.

A rendering that reaches its page comes to the verdict on it (`outcomeOf_of_reaches`), and one that breaks
off comes to the failure that it broke off with (`outcomeOf_of_breaks`); there is nothing else
(`reaches_or_breaks`).
-/

namespace AppMend.Preview

variable {c : PreviewConfig} {b : Browser} {bundle entry : String} {running : Bool} {p : PageBehaviour}
  {dom : Except String DomSnapshot} {i : PreviewIssue}

/-! ## What a page reports -/

/-- The issue of a reported event. -/
inductive Told (c : PreviewConfig) (entry : String) : PageEvent → PreviewIssue → Prop where
  | consoleError (text : String) : Told c entry (.console .error text) ⟨.consoleError, text, entry⟩
  | exception (message : String) :
      Told c entry (.exception message) ⟨.uncaughtException, message, entry⟩
  /-- A host that is forgiven is not told of. -/
  | requestFailed {url error : String} : c.isCdn url = false →
      Told c entry (.requestFailed url error) ⟨.networkError, s!"Failed to load {url}: {error}", url⟩

/-- One issue for each event that has one, in the order of the events. -/
inductive Tells (c : PreviewConfig) (entry : String) : List PageEvent → List PreviewIssue → Prop where
  | nil : Tells c entry [] []
  | fault {e : PageEvent} {i : PreviewIssue} {es : List PageEvent} {is : List PreviewIssue} :
      Told c entry e i → Tells c entry es is → Tells c entry (e :: es) (i :: is)
  | other {e : PageEvent} {es : List PageEvent} {is : List PreviewIssue} :
      (∀ i, ¬Told c entry e i) → Tells c entry es is → Tells c entry (e :: es) is

theorem told_iff {e : PageEvent} : Told c entry e i ↔ issueOf? c entry e = some i := by
  constructor
  · intro h
    cases h with
    | consoleError | exception => rfl
    | requestFailed hc => exact if_neg (by simp [hc])
  · intro h
    cases e with
    | console level text =>
        cases level with
        | error => cases h; exact .consoleError text
        | _ => cases h
    | exception message => cases h; exact .exception message
    | requestFailed url error =>
        simp only [issueOf?] at h
        split at h
        · cases h
        · rename_i hc
          cases h
          exact .requestFailed (by simpa using hc)

theorem tells_filterMap (es : List PageEvent) : Tells c entry es (es.filterMap (issueOf? c entry)) := by
  induction es with
  | nil => exact .nil
  | cons e es ih =>
      cases h : issueOf? c entry e with
      | none =>
          rw [List.filterMap_cons_none h]
          exact .other (fun i hi => by rw [told_iff, h] at hi; cases hi) ih
      | some i =>
          rw [List.filterMap_cons_some h]
          exact .fault (told_iff.mpr h) ih

/-- Whether an event is a message of the console. -/
def reportsMessage : PageEvent → Bool
  | .console .. => true
  | .exception _ | .requestFailed .. => false

/-- The event that reported a message. -/
def reportOf (m : ConsoleMessage) : PageEvent := .console m.level m.text

theorem reportOf_messages (es : List PageEvent) :
    (es.filterMap messageOf?).map reportOf = es.filter reportsMessage := by
  induction es with
  | nil => rfl
  | cons e es ih =>
      cases e with
      | console level text => exact congrArg (.console level text :: ·) ih
      | exception | requestFailed => exact ih

/-- The warnings are the messages of that level. -/
theorem warnings_eq (es : List PageEvent) :
    es.filterMap warningOf? =
      ((es.filterMap messageOf?).filter (·.level = .warning)).map (·.text) := by
  induction es with
  | nil => rfl
  | cons e es ih =>
      cases e with
      | console level text =>
          cases level with
          | warning => exact congrArg (text :: ·) ih
          | log | debug | info | error => exact ih
      | exception | requestFailed => exact ih

/-! ## What a page shows -/

/-- A page cannot be looked at, or it shows that it failed. -/
inductive LooksFailed (c : PreviewConfig) : Except String DomSnapshot → Prop where
  | unread (e : String) : LooksFailed c (.error e)
  | tripped {dom : DomSnapshot} : dom.boundaryTripped = true → LooksFailed c (.ok dom)
  | marked {dom : DomSnapshot} {rest : List Char} {marker : String} :
      Stripped c.allowedPhrases dom.text.toList rest → marker ∈ c.failureMarkers →
      marker.toList <:+: rest → LooksFailed c (.ok dom)

/-- The issue of a page that looks failed. -/
inductive Shows (c : PreviewConfig) (entry : String) : Except String DomSnapshot → PreviewIssue → Prop where
  | unread (e : String) : Shows c entry (.error e)
      ⟨.rendererFailure, "DOM check did not complete: " ++ (PreviewFailure.page e).message, entry⟩
  | tripped {dom : DomSnapshot} : dom.boundaryTripped = true →
      Shows c entry (.ok dom) ⟨.reactError, "Error boundary rendered its fallback: " ++ quoted dom.text, entry⟩
  /-- The first marker of the list that is there. -/
  | marked {dom : DomSnapshot} {rest : List Char} {before after : List String} {marker : String} :
      dom.boundaryTripped = false → Stripped c.allowedPhrases dom.text.toList rest →
      c.failureMarkers = before ++ marker :: after → (∀ m ∈ before, ¬m.toList <:+: rest) →
      marker.toList <:+: rest → Shows c entry (.ok dom) (markerIssue entry marker)

theorem shows_of_domIssue? (h : domIssue? c entry dom = some i) : Shows c entry dom i := by
  cases dom with
  | error e =>
      cases h
      exact .unread e
  | ok dom =>
      cases ht : dom.boundaryTripped with
      | true =>
          rw [domIssue?, shownIssue?, if_pos ht] at h
          cases h
          exact .tripped ht
      | false =>
          rw [domIssue?, shownIssue?, ht, if_neg Bool.false_ne_true] at h
          obtain ⟨marker, hm, rfl⟩ := Option.map_eq_some_iff.mp h
          obtain ⟨hfound, before, after, hlist, hbefore⟩ := List.find?_eq_some_iff_append.mp hm
          refine .marked ht (stripped_iff.mpr rfl) hlist (fun m hm => ?_) (Text.occursIn_iff.mp hfound)
          rw [← Text.occursIn_iff]
          simpa using hbefore m hm

theorem Shows.looksFailed (h : Shows c entry dom i) : LooksFailed c dom := by
  cases h with
  | unread e => exact .unread e
  | tripped ht => exact .tripped ht
  | marked _ hrest hlist _ hfound =>
      exact .marked hrest (hlist ▸ List.mem_append_right _ List.mem_cons_self) hfound

theorem not_looksFailed (h : domIssue? c entry dom = none) : ¬LooksFailed c dom := by
  intro hfailed
  cases hfailed with
  | unread => cases h
  | tripped ht =>
      rw [domIssue?, shownIssue?, if_pos ht] at h
      cases h
  | @marked dom rest marker hrest hm hfound =>
      cases ht : dom.boundaryTripped with
      | true =>
          rw [domIssue?, shownIssue?, if_pos ht] at h
          cases h
      | false =>
          rw [domIssue?, shownIssue?, ht, if_neg Bool.false_ne_true, Option.map_eq_none_iff,
            marker?_eq_none_iff] at h
          cases stripped_iff.mp hrest
          exact h marker hm hfound

/-! ## Verdicts -/

/-- The loading of a page goes on when the limit is over. -/
def Exceeds (p : PageBehaviour) (limit : Nat) : Prop := p.loading = .endless ∨ limit < p.loadMs

/-- What fails a page: first that it was not loaded in time, then what it reported, then what it shows. -/
inductive Faults (c : PreviewConfig) (entry : String) (p : PageBehaviour) : List PreviewIssue → Prop where
  | late {told : List PreviewIssue} : Exceeds p c.navigationTimeoutMs → Tells c entry p.events told →
      Faults c entry p (timeoutIssue c :: told)
  | sound {told : List PreviewIssue} : ¬Exceeds p c.navigationTimeoutMs → Tells c entry p.events told →
      ¬LooksFailed c p.dom → Faults c entry p told
  | failed {told : List PreviewIssue} {shown : PreviewIssue} : ¬Exceeds p c.navigationTimeoutMs →
      Tells c entry p.events told → LooksFailed c p.dom → Shows c entry p.dom shown →
      Faults c entry p (told ++ [shown])

/-- What the verdict on a page tells of it. -/
structure Judged (c : PreviewConfig) (entry : String) (p : PageBehaviour) (v : Verdict) : Prop where
  errors : Faults c entry p v.errors
  /-- All messages, in their order. -/
  messages : v.messages.map reportOf = p.events.filter reportsMessage
  warnings : v.warnings = (v.messages.filter (·.level = .warning)).map (·.text)
  valid_iff : v.isValid = true ↔ v.errors = []

theorem judged_late (h : Exceeds p c.navigationTimeoutMs) :
    Judged c entry p (inspect c entry false p) where
  errors := by
    show Faults c entry p ([timeoutIssue c] ++ p.events.filterMap (issueOf? c entry) ++ [])
    rw [List.append_nil]
    exact .late h (tells_filterMap p.events)
  messages := reportOf_messages p.events
  warnings := warnings_eq p.events
  valid_iff := List.isEmpty_iff

theorem judged_loaded (h : ¬Exceeds p c.navigationTimeoutMs) :
    Judged c entry p (inspect c entry true p) where
  errors := by
    show Faults c entry p ([] ++ p.events.filterMap (issueOf? c entry) ++ (domIssue? c entry p.dom).toList)
    rw [List.nil_append]
    cases hdom : domIssue? c entry p.dom with
    | none =>
        rw [Option.toList_none, List.append_nil]
        exact .sound h (tells_filterMap p.events) (not_looksFailed hdom)
    | some i =>
        have hshows := shows_of_domIssue? hdom
        exact .failed h (tells_filterMap p.events) hshows.looksFailed hshows
  messages := reportOf_messages p.events
  warnings := warnings_eq p.events
  valid_iff := List.isEmpty_iff

/-! ## Loading -/

theorem load_of_exceeds (h : Exceeds p c.navigationTimeoutMs) : (Service.load c p).2 = .ok false := by
  unfold Service.load
  rcases h with h | h
  · rw [h]
  · have hlate : ¬p.loadMs ≤ c.navigationTimeoutMs := Nat.not_le.mpr h
    cases p.loading with
    | done | failed => simp only [if_neg hlate]
    | endless => rfl

theorem load_in_time (h : ¬Exceeds p c.navigationTimeoutMs) :
    p.loading = .done ∧ (Service.load c p).2 = .ok true ∨
      ∃ e, p.loading = .failed e ∧ (Service.load c p).2 = .error (.page e) := by
  obtain ⟨hends, hin⟩ := not_or.mp h
  have hin : p.loadMs ≤ c.navigationTimeoutMs := Nat.not_lt.mp hin
  unfold Service.load
  cases hl : p.loading with
  | done => exact .inl ⟨rfl, by simp only [if_pos hin]⟩
  | failed e => exact .inr ⟨e, rfl, by simp only [if_pos hin]⟩
  | endless => exact absurd hl hends

/-! ## Renderings -/

/-- A browser runs, or one starts in time. -/
def Starts (c : PreviewConfig) (b : Browser) (running : Bool) : Prop :=
  running = true ∨ b.launch = .done ∧ b.launchMs ≤ c.launchTimeoutMs

/-- A rendering gets to its page, and the loading of it does not end with an error. -/
structure Reaches (c : PreviewConfig) (b : Browser) (running : Bool) (p : PageBehaviour) : Prop where
  started : Starts c b running
  written : b.writing = .done
  opened : b.openError = none
  /-- An error that comes too late is not waited for. -/
  loaded : ∀ e, p.loading = .failed e → Exceeds p c.navigationTimeoutMs

/-- A rendering breaks off with a failure. -/
inductive Breaks (c : PreviewConfig) (b : Browser) (running : Bool) (p : PageBehaviour) :
    PreviewFailure → Prop where
  | missing : running = false → b.launch = .missing → Breaks c b running p .noBrowser
  | unstarted {e : String} : running = false → b.launch = .failed e → b.launchMs ≤ c.launchTimeoutMs →
      Breaks c b running p (.launch e)
  | startedLate : running = false → b.launch ≠ .missing →
      b.launch = .endless ∨ c.launchTimeoutMs < b.launchMs →
      Breaks c b running p (.launchTimeout c.launchTimeoutMs)
  | unwritten {e : String} : Starts c b running → b.writing = .refused e ∨ b.writing = .failed e →
      Breaks c b running p (.harness e)
  | unopened {e : String} : Starts c b running → b.writing = .done → b.openError = some e →
      Breaks c b running p (.page e)
  | unloaded {e : String} : Starts c b running → b.writing = .done → b.openError = none →
      p.loading = .failed e → ¬Exceeds p c.navigationTimeoutMs → Breaks c b running p (.page e)

/-- **A rendering reaches its page or breaks off.** -/
theorem reaches_or_breaks (c : PreviewConfig) (b : Browser) (running : Bool) (p : PageBehaviour) :
    Reaches c b running p ∨ ∃ e, Breaks c b running p e := by
  by_cases hs : Starts c b running
  · cases hw : b.writing with
    | refused e => exact .inr ⟨_, .unwritten hs (.inl hw)⟩
    | failed e => exact .inr ⟨_, .unwritten hs (.inr hw)⟩
    | done =>
        cases ho : b.openError with
        | some e => exact .inr ⟨_, .unopened hs hw ho⟩
        | none =>
            by_cases hl : Exceeds p c.navigationTimeoutMs
            · exact .inl ⟨hs, hw, ho, fun _ _ => hl⟩
            · rcases load_in_time hl with ⟨hdone, _⟩ | ⟨e, hfailed, _⟩
              · exact .inl ⟨hs, hw, ho, fun e he => by rw [hdone] at he; cases he⟩
              · exact .inr ⟨_, .unloaded hs hw ho hfailed hl⟩
  · obtain ⟨hidle, hnot⟩ := not_or.mp hs
    have hidle : running = false := Bool.eq_false_iff.mpr hidle
    cases hl : b.launch with
    | missing => exact .inr ⟨_, .missing hidle hl⟩
    | endless => exact .inr ⟨_, .startedLate hidle (by simp [hl]) (.inl hl)⟩
    | done =>
        exact .inr ⟨_, .startedLate hidle (by simp [hl]) (.inr (Nat.not_le.mp fun hin => hnot ⟨hl, hin⟩))⟩
    | failed e =>
        by_cases hin : b.launchMs ≤ c.launchTimeoutMs
        · exact .inr ⟨_, .unstarted hidle hl hin⟩
        · exact .inr ⟨_, .startedLate hidle (by simp [hl]) (.inr (Nat.not_le.mp hin))⟩

theorem Starts.launches (h : Starts c b running) : Launches c b running := by
  refine h.imp_right fun ⟨hl, hin⟩ => ?_
  unfold Service.start
  simp only [hl, if_pos hin]

/-- **What a rendering comes to that reaches its page**: the verdict on it. -/
theorem outcomeOf_of_reaches (h : Reaches c b running (b.page (harnessPage c bundle entry))) :
    ∃ v, outcomeOf running c b bundle entry = .ok (some v) ∧
      Judged c entry (b.page (harnessPage c bundle entry)) v := by
  obtain ⟨hs, hw, ho, hloaded⟩ := h
  rw [outcomeOf_of_launches hs.launches, rendered_of_page hw ho]
  by_cases hl : Exceeds (b.page (harnessPage c bundle entry)) c.navigationTimeoutMs
  · rw [load_of_exceeds hl]
    exact ⟨_, rfl, judged_late hl⟩
  · rcases load_in_time hl with ⟨_, hload⟩ | ⟨e, hfailed, _⟩
    · rw [hload]
      exact ⟨_, rfl, judged_loaded hl⟩
    · exact absurd (hloaded e hfailed) hl

/-- **What a rendering comes to that breaks off.** -/
theorem outcomeOf_of_breaks {e : PreviewFailure}
    (h : Breaks c b running (b.page (harnessPage c bundle entry)) e) :
    outcomeOf running c b bundle entry = .error e := by
  -- without a browser it comes to what the start comes to
  have hidle (hrun : running = false) (hstart : (Service.start c b).2 = .error e) :
      outcomeOf running c b bundle entry = .error e := by
    rw [outcomeOf, hrun, hstart]
    rfl
  cases h with
  | missing hrun hl =>
      refine hidle hrun ?_
      unfold Service.start
      rw [hl]
  | unstarted hrun hl hin =>
      refine hidle hrun ?_
      unfold Service.start
      simp only [hl, if_pos hin]
  | startedLate hrun hmissing hlate =>
      refine hidle hrun ?_
      unfold Service.start
      rcases hlate with hl | hlate
      · rw [hl]
      · have hlate : ¬b.launchMs ≤ c.launchTimeoutMs := Nat.not_le.mpr hlate
        cases hl : b.launch with
        | done | failed => simp only [if_neg hlate]
        | endless => rfl
        | missing => exact absurd hl hmissing
  | unwritten hs hw =>
      rw [outcomeOf_of_launches hs.launches]
      unfold rendered
      rcases hw with hw | hw <;> rw [hw]
  | unopened hs hw ho =>
      rw [outcomeOf_of_launches hs.launches]
      unfold rendered
      rw [hw, ho]
  | unloaded hs hw ho hfailed hin =>
      rw [outcomeOf_of_launches hs.launches, rendered_of_page hw ho]
      rcases load_in_time hin with ⟨hdone, _⟩ | ⟨e', hfailed', hload⟩
      · rw [hdone] at hfailed
        cases hfailed
      · rw [hfailed'] at hfailed
        cases hfailed
        rw [hload]
        rfl

end AppMend.Preview
