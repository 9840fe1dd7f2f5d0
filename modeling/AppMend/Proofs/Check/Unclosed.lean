import AppMend.Proofs.Check.Tags

/-!
# Which tags are unclosed, and in which order

Said of the events of a text alone: an opening opens its tag, and a closing removes the innermost open tag
of its name. The tags opened inside that one are left behind; they are open no longer, but nothing removed
them (`IsOpen`, `Removed`, `LeftBehind`). A tag that nothing removes is unclosed.

The stack of the scan reports each unclosed tag once (`tracks_run`), but it reports the tags left behind
as they are left and the tags still open in the end last, and sorts them by line only. So on one line a tag
that is left behind overtakes the earlier ones that stay open, and apart from that the tags are in the
order of their openings (`unclosedTags_reported`).
-/

namespace AppMend.Check

variable {es : List TagEvent} {i j k m line : Nat} {name : List Char}

/-! ## Open tags, by the number of the event that opens them -/

/-- The tag that an event opens. -/
def frameAt (es : List TagEvent) (i : Nat) : Frame :=
  match es[i]? with
  | some (.opened name line) => (name, line)
  | _ => ([], 0)

/-- Of the open tags one is the innermost of its name. -/
def Innermost (es : List TagEvent) (isOpen : Nat → Prop) (name : List Char) (j : Nat) : Prop :=
  isOpen j ∧ (frameAt es j).1 = name ∧ ∀ i, j < i → isOpen i → (frameAt es i).1 ≠ name

/-- A tag is open before an event. A closing takes the innermost open tag of its name, and all that were
opened inside it. -/
def IsOpen (es : List TagEvent) : Nat → Nat → Prop
  | 0, _ => False
  | k + 1, i =>
    match es[k]? with
    | some (.opened _ _) => i = k ∨ IsOpen es k i
    | some (.closed name) => IsOpen es k i ∧ ∀ j, Innermost es (IsOpen es k) name j → i < j
    | none => IsOpen es k i

/-- A closing removes a tag. -/
def Removed (es : List TagEvent) (i : Nat) : Prop :=
  ∃ k name, es[k]? = some (.closed name) ∧ Innermost es (IsOpen es k) name i

/-- A closing leaves a tag behind that was opened inside the one that it removes. -/
def LeftBehind (es : List TagEvent) (k i : Nat) : Prop :=
  IsOpen es k i ∧ ∃ name j, es[k]? = some (.closed name) ∧ Innermost es (IsOpen es k) name j ∧ j < i

/-- A tag was opened, and no closing removes it. -/
def Unclosed (es : List TagEvent) (i : Nat) : Prop :=
  (∃ name line, es[i]? = some (.opened name line)) ∧ ¬Removed es i

/-- A tag is left behind while another one stays open. -/
def Overtakes (es : List TagEvent) (i j : Nat) : Prop :=
  ∃ k, LeftBehind es k i ∧ IsOpen es (k + 1) j

/-- Tags are in the order of their openings, unless one overtakes the other. -/
def Sooner (es : List TagEvent) (i j : Nat) : Prop :=
  Overtakes es i j ∨ i < j ∧ ¬Overtakes es j i

/-! ## The life of an open tag -/

theorem isOpen_opened {l : Nat} (h : es[k]? = some (.opened name l)) :
    IsOpen es (k + 1) i ↔ i = k ∨ IsOpen es k i := by
  rw [IsOpen, h]

theorem isOpen_closed (h : es[k]? = some (.closed name)) :
    IsOpen es (k + 1) i ↔ IsOpen es k i ∧ ∀ j, Innermost es (IsOpen es k) name j → i < j := by
  rw [IsOpen, h]

theorem lt_of_isOpen (h : IsOpen es k i) : i < k := by
  induction k with
  | zero => exact h.elim
  | succ k ih =>
      rw [IsOpen] at h
      split at h
      · rcases h with rfl | h
        · exact Nat.lt_succ_self _
        · exact Nat.lt_succ_of_lt (ih h)
      · exact Nat.lt_succ_of_lt (ih h.1)
      · exact Nat.lt_succ_of_lt (ih h)

theorem opened_of_isOpen (h : IsOpen es k i) : ∃ name line, es[i]? = some (.opened name line) := by
  induction k with
  | zero => exact h.elim
  | succ k ih =>
      rw [IsOpen] at h
      split at h
      · rename_i hk
        rcases h with rfl | h
        · exact ⟨_, _, hk⟩
        · exact ih h
      · exact ih h.1
      · exact ih h

/-- A tag that is open was so ever since it was opened. -/
theorem isOpen_of_le (h : IsOpen es k i) (hi : i < m) (hm : m ≤ k) : IsOpen es m i := by
  induction k with
  | zero => exact h.elim
  | succ k ih =>
      rcases Nat.lt_or_eq_of_le hm with hm | rfl
      · refine ih ?_ (Nat.le_of_lt_succ hm)
        rw [IsOpen] at h
        split at h
        · rcases h with rfl | h
          · omega
          · exact h
        · exact h.1
        · exact h
      · exact h

/-- The innermost open tag of a name is one. -/
theorem Innermost.unique {isOpen : Nat → Prop} (h : Innermost es isOpen name i)
    (h' : Innermost es isOpen name j) : i = j := by
  rcases Nat.lt_trichotomy i j with hlt | heq | hlt
  · exact absurd h'.2.1 (h.2.2 j hlt h'.1)
  · exact heq
  · exact absurd h.2.1 (h'.2.2 i hlt h.1)

/-- What a closing removes is open no longer. -/
theorem not_isOpen_of_innermost (hk : es[k]? = some (.closed name))
    (h : Innermost es (IsOpen es k) name i) (hm : k < m) : ¬IsOpen es m i := by
  intro ho
  have := isOpen_of_le ho (Nat.lt_succ_of_lt (lt_of_isOpen h.1)) hm
  exact Nat.lt_irrefl _ (((isOpen_closed hk).mp this).2 i h)

/-- What is left behind is open no longer. -/
theorem LeftBehind.not_isOpen (h : LeftBehind es k i) (hm : k < m) : ¬IsOpen es m i := by
  obtain ⟨hi, name, j, hk, hj, hlt⟩ := h
  intro ho
  have := isOpen_of_le ho (Nat.lt_succ_of_lt (lt_of_isOpen hi)) hm
  exact Nat.lt_asymm hlt (((isOpen_closed hk).mp this).2 j hj)

theorem LeftBehind.lt_length (h : LeftBehind es k i) : k < es.length := by
  obtain ⟨_, name, j, hk, _⟩ := h
  exact (List.getElem?_eq_some_iff.mp hk).1

/-- What stays open is not left behind. -/
theorem not_leftBehind_of_isOpen (h : IsOpen es m i) (hk : k < m) : ¬LeftBehind es k i :=
  fun hl => hl.not_isOpen hk h

/-- What is left behind, nothing removes. -/
theorem LeftBehind.not_removed (h : LeftBehind es k i) : ¬Removed es i := by
  rintro ⟨k', name', hk', hi'⟩
  have h' := h
  obtain ⟨hi, name, j, hk, hj, hlt⟩ := h'
  rcases Nat.lt_trichotomy k k' with hkk | rfl | hkk
  · exact h.not_isOpen hkk hi'.1
  · obtain rfl : name = name' := by
      have := hk.symm.trans hk'
      simpa using this
    exact Nat.ne_of_lt hlt (hj.unique hi')
  · exact not_isOpen_of_innermost hk' hi' hkk hi

/-- What is open in the end, nothing removed. -/
theorem not_removed_of_isOpen (h : IsOpen es es.length i) : ¬Removed es i := by
  rintro ⟨k, name, hk, hi⟩
  exact not_isOpen_of_innermost hk hi (List.getElem?_eq_some_iff.mp hk).1 h

/-- **A tag that was opened is open, or was removed or left behind.** -/
theorem isOpen_or_gone {l : Nat} (h : es[i]? = some (.opened name l)) (hm : i < m) :
    IsOpen es m i ∨ Removed es i ∨ ∃ k < m, LeftBehind es k i := by
  induction m with
  | zero => exact absurd hm (Nat.not_lt_zero _)
  | succ m ih =>
      rcases Nat.lt_or_eq_of_le (Nat.le_of_lt_succ hm) with hlt | rfl
      · rcases ih hlt with ho | hr | ⟨k, hk, hl⟩
        · cases hevent : es[m]? with
          | none =>
              refine .inl ?_
              rw [IsOpen, hevent]
              exact ho
          | some event =>
              cases event with
              | opened => exact .inl ((isOpen_opened hevent).mpr (.inr ho))
              | closed name' =>
                  by_cases hall : ∀ j, Innermost es (IsOpen es m) name' j → i < j
                  · exact .inl ((isOpen_closed hevent).mpr ⟨ho, hall⟩)
                  · obtain ⟨j, hj⟩ := Classical.not_forall.mp hall
                    obtain ⟨hin, hnot⟩ := Classical.not_imp.mp hj
                    rcases Nat.lt_or_eq_of_le (Nat.le_of_not_lt hnot) with hji | rfl
                    · exact .inr (.inr ⟨m, Nat.lt_succ_self _, ho, name', j, hevent, hin, hji⟩)
                    · exact .inr (.inl ⟨m, name', hevent, hin⟩)
        · exact .inr (.inl hr)
        · exact .inr (.inr ⟨k, Nat.lt_succ_of_lt hk, hl⟩)
      · exact .inl ((isOpen_opened h).mpr (.inl rfl))

/-- **Unclosed are the tags that are open in the end, and those left behind.** -/
theorem unclosed_iff :
    Unclosed es i ↔ (∃ k < es.length, LeftBehind es k i) ∨ IsOpen es es.length i := by
  constructor
  · rintro ⟨⟨name, line, hi⟩, hno⟩
    rcases isOpen_or_gone hi (List.getElem?_eq_some_iff.mp hi).1 with ho | hr | hl
    · exact .inr ho
    · exact absurd hr hno
    · exact .inl hl
  · rintro (⟨k, _, hl⟩ | ho)
    · exact ⟨opened_of_isOpen hl.1, hl.not_removed⟩
    · exact ⟨opened_of_isOpen ho, not_removed_of_isOpen ho⟩

/-! ## The order in which tags come to be reported -/

/-- A tag that overtakes another was opened after it. -/
theorem Overtakes.lt (h : Overtakes es i j) : j < i := by
  obtain ⟨k, ⟨_, name, j', hk, hj', hlt⟩, ho⟩ := h
  exact Nat.lt_trans (((isOpen_closed hk).mp ho).2 j' hj') hlt

/-- What is left behind comes before what is open later. -/
theorem LeftBehind.sooner (h : LeftBehind es k i) (ho : IsOpen es m j) (hm : k < m) :
    Sooner es i j := by
  rcases Nat.lt_trichotomy i j with hij | rfl | hij
  · refine .inr ⟨hij, ?_⟩
    rintro ⟨k', hl, hi⟩
    have hk' : k' < k := by
      refine Nat.lt_of_not_le fun hle => ?_
      exact h.not_isOpen (Nat.lt_succ_of_le hle) hi
    exact not_leftBehind_of_isOpen ho (Nat.lt_trans hk' hm) hl
  · exact absurd ho (h.not_isOpen hm)
  · exact .inl ⟨k, h, isOpen_of_le ho (Nat.lt_succ_of_lt (Nat.lt_trans hij (lt_of_isOpen h.1))) hm⟩

/-- What a closing leaves behind is in the order of the openings. -/
theorem sooner_of_leftBehind (h : LeftBehind es k i) (h' : LeftBehind es k j) (hij : i < j) :
    Sooner es i j := by
  refine .inr ⟨hij, ?_⟩
  rintro ⟨k', hl, hi⟩
  rcases Nat.lt_trichotomy k k' with hkk | rfl | hkk
  · exact h'.not_isOpen hkk hl.1
  · exact h.not_isOpen (Nat.lt_succ_self _) hi
  · exact hl.not_isOpen hkk h'.1

/-- What is open in the end is in the order of the openings. -/
theorem sooner_of_isOpen (h : IsOpen es es.length j) (hij : i < j) : Sooner es i j :=
  .inr ⟨hij, fun ⟨_, hl, _⟩ => not_leftBehind_of_isOpen h hl.lt_length hl⟩

/-! ## The stack of the scan -/

/-- A closing of a name that no open tag has changes nothing. -/
theorem step_ignored {t : TagStack} (h : ∀ f ∈ t.frames, f.1 ≠ name) : t.step (.closed name) = t := by
  have hdrop : t.frames.dropWhile (·.1 != name) = [] := by
    rw [← List.append_nil t.frames]
    exact List.dropWhile_append_of_pos fun f hf => bne_iff_ne.mpr (h f hf)
  rw [TagStack.step, hdrop]

/-- A closing takes the innermost tag of its name, and those above it are left. -/
theorem step_closed {t : TagStack} {above outer : List Frame} {f : Frame}
    (h : t.frames = above ++ f :: outer) (hf : f.1 = name) (habove : ∀ g ∈ above, g.1 ≠ name) :
    t.step (.closed name) = ⟨outer, t.left ++ above.reverse⟩ := by
  have hne : ∀ g ∈ above, (g.1 != name) = true := fun g hg => bne_iff_ne.mpr (habove g hg)
  have hdrop : t.frames.dropWhile (·.1 != name) = f :: outer := by
    rw [h, List.dropWhile_append_of_pos hne]
    exact List.dropWhile_cons_of_neg (by simp [hf])
  have htake : t.frames.takeWhile (·.1 != name) = above := by
    rw [h, List.takeWhile_append_of_pos hne]
    exact (congrArg _ (List.takeWhile_cons_of_neg (by simp [hf]))).trans (List.append_nil _)
  rw [TagStack.step, hdrop, htake]

/-- The stack holds the open tags, the innermost first, and those left behind, before an event. -/
structure Tracks (es : List TagEvent) (k : Nat) (t : TagStack) (fs ls : List Nat) : Prop where
  frames : t.frames = fs.map (frameAt es)
  left : t.left = ls.map (frameAt es)
  mem_frames : ∀ i, i ∈ fs ↔ IsOpen es k i
  mem_left : ∀ i, i ∈ ls ↔ ∃ j < k, LeftBehind es j i
  descending : fs.Pairwise (· > ·)
  sooner : ls.Pairwise (Sooner es)

theorem tracks_start (es : List TagEvent) : Tracks es 0 ⟨[], []⟩ [] [] where
  frames := rfl
  left := rfl
  mem_frames i := by simp [IsOpen]
  mem_left i := by simp
  descending := .nil
  sooner := .nil

variable {t : TagStack} {fs ls : List Nat}

theorem Tracks.opened {l : Nat} (h : Tracks es k t fs ls) (hk : es[k]? = some (.opened name l)) :
    Tracks es (k + 1) (t.step (.opened name l)) (k :: fs) ls where
  frames := by
    have : frameAt es k = (name, l) := by rw [frameAt, hk]
    rw [TagStack.step, h.frames, List.map_cons, this]
  left := h.left
  mem_frames i := by rw [List.mem_cons, h.mem_frames, isOpen_opened hk]
  mem_left i := by
    have hnone : ¬LeftBehind es k i := by
      rintro ⟨_, _, _, hclosed, _⟩
      cases hk.symm.trans hclosed
    rw [h.mem_left, Nat.exists_lt_succ_right, or_iff_left hnone]
  descending := by
    refine List.pairwise_cons.mpr ⟨fun i hi => ?_, h.descending⟩
    exact lt_of_isOpen ((h.mem_frames i).mp hi)
  sooner := h.sooner

theorem Tracks.ignored (h : Tracks es k t fs ls) (hk : es[k]? = some (.closed name))
    (hno : ∀ i ∈ fs, (frameAt es i).1 ≠ name) : Tracks es (k + 1) (t.step (.closed name)) fs ls := by
  have hstep : t.step (.closed name) = t := by
    refine step_ignored fun f hf => ?_
    rw [h.frames] at hf
    obtain ⟨i, hi, rfl⟩ := List.mem_map.mp hf
    exact hno i hi
  have hinner : ∀ j, ¬Innermost es (IsOpen es k) name j := fun j hj =>
    hno j ((h.mem_frames j).mpr hj.1) hj.2.1
  rw [hstep]
  refine ⟨h.frames, h.left, fun i => ?_, fun i => ?_, h.descending, h.sooner⟩
  · rw [h.mem_frames, isOpen_closed hk]
    exact ⟨fun ho => ⟨ho, fun j hj => absurd hj (hinner j)⟩, And.left⟩
  · have hnone : ¬LeftBehind es k i := by
      rintro ⟨_, name', j', hclosed, hin, _⟩
      obtain rfl : name = name' := by simpa using hk.symm.trans hclosed
      exact hinner j' hin
    rw [h.mem_left, Nat.exists_lt_succ_right, or_iff_left hnone]

theorem Tracks.closed {above outer : List Nat} (h : Tracks es k t (above ++ j :: outer) ls)
    (hk : es[k]? = some (.closed name)) (hj : (frameAt es j).1 = name)
    (habove : ∀ i ∈ above, (frameAt es i).1 ≠ name) :
    Tracks es (k + 1) (t.step (.closed name)) outer (ls ++ above.reverse) := by
  have hstep : t.step (.closed name) =
      ⟨outer.map (frameAt es), t.left ++ (above.map (frameAt es)).reverse⟩ := by
    refine step_closed (f := frameAt es j) (by rw [h.frames]; simp) hj fun f hf => ?_
    obtain ⟨i, hi, rfl⟩ := List.mem_map.mp hf
    exact habove i hi
  obtain ⟨habove', hcons, hcross⟩ := List.pairwise_append.mp h.descending
  obtain ⟨houter, houter'⟩ := List.pairwise_cons.mp hcons
  -- above it are exactly the tags opened after it
  have hafter : ∀ i, i ∈ above ↔ IsOpen es k i ∧ j < i := by
    intro i
    constructor
    · intro hi
      exact ⟨(h.mem_frames i).mp (List.mem_append_left _ hi), hcross i hi j List.mem_cons_self⟩
    · rintro ⟨ho, hlt⟩
      rcases List.mem_append.mp ((h.mem_frames i).mpr ho) with hi | hi
      · exact hi
      · rcases List.mem_cons.mp hi with rfl | hi
        · exact absurd hlt (Nat.lt_irrefl _)
        · exact absurd hlt (Nat.lt_asymm (houter i hi))
  have hinner : Innermost es (IsOpen es k) name j :=
    ⟨(h.mem_frames j).mp (List.mem_append_right _ List.mem_cons_self), hj,
      fun i hlt ho => habove i ((hafter i).mpr ⟨ho, hlt⟩)⟩
  have hleft : ∀ i, i ∈ above ↔ LeftBehind es k i := by
    intro i
    rw [hafter]
    constructor
    · rintro ⟨ho, hlt⟩
      exact ⟨ho, name, j, hk, hinner, hlt⟩
    · rintro ⟨ho, name', j', hclosed, hin, hlt⟩
      obtain rfl : name = name' := by simpa using hk.symm.trans hclosed
      rw [hin.unique hinner] at hlt
      exact ⟨ho, hlt⟩
  refine ⟨?_, ?_, fun i => ?_, fun i => ?_, houter', ?_⟩
  · rw [hstep]
  · rw [hstep, h.left, List.map_append, List.map_reverse]
  · rw [isOpen_closed hk]
    constructor
    · intro hi
      refine ⟨(h.mem_frames i).mp ?_, fun j' hj' => ?_⟩
      · exact List.mem_append_right _ (List.mem_cons_of_mem _ hi)
      · rw [hj'.unique hinner]
        exact houter i hi
    · rintro ⟨ho, hall⟩
      have hlt := hall j hinner
      rcases List.mem_append.mp ((h.mem_frames i).mpr ho) with hi | hi
      · exact absurd ((hafter i).mp hi).2 (Nat.lt_asymm hlt)
      · rcases List.mem_cons.mp hi with rfl | hi
        · exact absurd hlt (Nat.lt_irrefl _)
        · exact hi
  · rw [List.mem_append, List.mem_reverse, h.mem_left, hleft, Nat.exists_lt_succ_right]
  · refine List.pairwise_append.mpr ⟨h.sooner, ?_, fun i hi i' hi' => ?_⟩
    · refine List.pairwise_reverse.mpr (habove'.imp_of_mem fun ha hb hlt => ?_)
      exact sooner_of_leftBehind ((hleft _).mp hb) ((hleft _).mp ha) hlt
    · obtain ⟨k', hk', hl⟩ := (h.mem_left i).mp hi
      exact hl.sooner ((hleft i').mp (List.mem_reverse.mp hi')).1 hk'

/-- **The stack keeps track of the open tags in every step.** -/
theorem tracks_step {event : TagEvent} (h : Tracks es k t fs ls) (hk : es[k]? = some event) :
    ∃ fs' ls', Tracks es (k + 1) (t.step event) fs' ls' := by
  cases event with
  | opened name line => exact ⟨_, _, h.opened hk⟩
  | closed name =>
      cases hfind : fs.find? fun i => (frameAt es i).1 == name with
      | none =>
          refine ⟨fs, ls, h.ignored hk fun i hi hname => ?_⟩
          exact absurd (beq_iff_eq.mpr hname) (List.find?_eq_none.mp hfind i hi)
      | some j =>
          obtain ⟨hj, above, outer, rfl, habove⟩ := List.find?_eq_some_iff_append.mp hfind
          exact ⟨_, _, h.closed hk (beq_iff_eq.mp hj) fun i hi => by simpa using habove i hi⟩

/-- **And so it does over all events.** -/
theorem tracks_run (es : List TagEvent) : ∀ k ≤ es.length, ∃ fs ls,
    Tracks es k ((es.take k).foldl TagStack.step ⟨[], []⟩) fs ls := by
  intro k
  induction k with
  | zero => exact fun _ => ⟨[], [], tracks_start es⟩
  | succ k ih =>
      intro hk
      obtain ⟨fs, ls, h⟩ := ih (Nat.le_of_succ_le hk)
      rw [List.take_succ_eq_append_getElem hk, List.foldl_append]
      exact tracks_step h (List.getElem?_eq_getElem hk)

/-! ## The report -/

section Sorted

variable {α : Type} {le : α → α → Bool} {l : List α}

/-- A stable sort leaves elements that it does not tell apart in their order. -/
theorem filter_mergeSort (htrans : ∀ a b c, le a b = true → le b c = true → le a c = true)
    (htotal : ∀ a b, (le a b || le b a) = true) {p : α → Bool}
    (hp : ∀ a b, p a = true → p b = true → le a b = true) : (l.mergeSort le).filter p = l.filter p := by
  have hpair : (l.filter p).Pairwise (fun a b => le a b = true) :=
    List.pairwise_of_forall_mem_list fun a ha b hb =>
      hp a b (List.mem_filter.mp ha).2 (List.mem_filter.mp hb).2
  have hsub := (List.sublist_mergeSort htrans htotal hpair List.filter_sublist).filter p
  rw [List.filter_filter] at hsub
  simp only [Bool.and_self] at hsub
  exact (hsub.eq_of_length ((List.mergeSort_perm l le).filter p).length_eq.symm).symm

end Sorted

/-- The tags of a text, in the order in which they stand there. -/
abbrev tagsOf (s : List Char) : List TagEvent := tagEvents s.length ' ' 1 s

/-- The line that is told of an opened tag. -/
def lineOf (es : List TagEvent) (i : Nat) : Nat := (frameAt es i).2

/-- One tag is reported before another: it is on an earlier line, or it comes sooner on the same line. -/
def Before (es : List TagEvent) (i j : Nat) : Prop :=
  lineOf es i < lineOf es j ∨ lineOf es i = lineOf es j ∧ Sooner es i j

/-- **The report of a run is each unclosed tag, in order.** -/
theorem exists_report (es : List TagEvent) : ∃ is : List Nat,
    ((es.foldl TagStack.step ⟨[], []⟩).unclosed.mergeSort fun a b => a.2 ≤ b.2) = is.map (frameAt es) ∧
      (∀ i, i ∈ is ↔ Unclosed es i) ∧ is.Pairwise (Before es) := by
  obtain ⟨fs, ls, h⟩ := tracks_run es es.length (Nat.le_refl _)
  rw [List.take_length] at h
  have hunclosed : (es.foldl TagStack.step ⟨[], []⟩).unclosed = (ls ++ fs.reverse).map (frameAt es) := by
    rw [TagStack.unclosed, h.left, h.frames, List.map_append, List.map_reverse]
  have hmem : ∀ i, i ∈ ls ++ fs.reverse ↔ Unclosed es i := fun i => by
    rw [List.mem_append, List.mem_reverse, h.mem_left, h.mem_frames, unclosed_iff]
  have hsooner : (ls ++ fs.reverse).Pairwise (Sooner es) := by
    refine List.pairwise_append.mpr ⟨h.sooner, ?_, fun i hi j hj => ?_⟩
    · refine List.pairwise_reverse.mpr (h.descending.imp_of_mem fun ha _ hlt => ?_)
      exact sooner_of_isOpen ((h.mem_frames _).mp ha) hlt
    · obtain ⟨k, hk, hl⟩ := (h.mem_left i).mp hi
      exact hl.sooner ((h.mem_frames j).mp (List.mem_reverse.mp hj)) hk
  let le : Nat → Nat → Bool := fun i j => lineOf es i ≤ lineOf es j
  have htrans : ∀ a b c, le a b = true → le b c = true → le a c = true := by
    intro a b c hab hbc
    simp only [le, decide_eq_true_eq] at hab hbc ⊢
    exact Nat.le_trans hab hbc
  have htotal : ∀ a b, (le a b || le b a) = true := by
    intro a b
    simp only [le, Bool.or_eq_true, decide_eq_true_eq]
    exact Nat.le_total _ _
  refine ⟨(ls ++ fs.reverse).mergeSort le, ?_, fun i => ?_, ?_⟩
  · rw [hunclosed]
    exact (List.map_mergeSort (s := fun a b : Frame => a.2 ≤ b.2) fun _ _ _ _ => rfl).symm
  · rw [List.mem_mergeSort, hmem]
  · refine List.pairwise_iff_forall_sublist.mpr fun {i j} hsub => ?_
    have hle : lineOf es i ≤ lineOf es j := by
      have := List.pairwise_iff_forall_sublist.mp (List.pairwise_mergeSort htrans htotal _) hsub
      simpa [le] using this
    rcases Nat.lt_or_eq_of_le hle with hlt | heq
    · exact .inl hlt
    · -- the sort has left the tags of one line as they were
      refine .inr ⟨heq, List.pairwise_iff_forall_sublist.mp hsooner ?_⟩
      have hsub' := hsub.filter fun x => decide (lineOf es x = lineOf es j)
      rw [filter_mergeSort htrans htotal] at hsub'
      · have hpair : [i, j].filter (fun x => decide (lineOf es x = lineOf es j)) = [i, j] := by
          simp [heq]
        rw [hpair] at hsub'
        exact hsub'.trans List.filter_sublist
      · intro a b ha hb
        simp only [decide_eq_true_eq] at ha hb
        simp [le, ha, hb]

/-- No tag comes before itself. -/
theorem nodup_of_before {is : List Nat} (h : is.Pairwise (Before es)) : is.Nodup := by
  refine h.imp fun hb heq => ?_
  subst heq
  rcases hb with hlt | ⟨_, hover | ⟨hlt, _⟩⟩
  · exact Nat.lt_irrefl _ hlt
  · exact Nat.lt_irrefl _ hover.lt
  · exact Nat.lt_irrefl _ hlt

/-! ## Lines ascend in a text -/

variable {ps : List Piece}

theorem le_of_mem_eventsFrom {l : Nat} (h : .opened name l ∈ eventsFrom line ps) : line ≤ l := by
  induction ps generalizing line with
  | nil => cases h
  | cons p ps ih =>
      rcases List.mem_append.mp h with h | h
      · exact Nat.le_of_eq (text_of_opened h).1.symm
      · exact Nat.le_trans (Nat.le_add_right _ _) (ih h)

/-- If both events open a tag, the second one tells of no earlier line. -/
def Ascending (event event' : TagEvent) : Prop :=
  ∀ name l name' l', event = .opened name l → event' = .opened name' l' → l ≤ l'

theorem ascending_eventsFrom (line : Nat) (ps : List Piece) :
    (eventsFrom line ps).Pairwise Ascending := by
  induction ps generalizing line with
  | nil => exact .nil
  | cons p ps ih =>
      refine List.pairwise_append.mpr ⟨?_, ih _, ?_⟩
      · cases p with
        | aside => exact .nil
        | closing =>
            rw [Piece.events]
            split
            · exact List.pairwise_singleton _ _
            · exact .nil
        | opening _ _ selfClosing =>
            cases selfClosing
            · exact List.pairwise_singleton _ _
            · exact .nil
        | endless => exact List.pairwise_singleton _ _
      · rintro event h event' h' name l name' l' rfl rfl
        rw [(text_of_opened h).1]
        exact Nat.le_trans (Nat.le_add_right _ _) (le_of_mem_eventsFrom h')

/-- Of two unclosed tags of a text, the one that stands first is not on a later line. -/
theorem lineOf_le (s : List Char) (hi : Unclosed (tagsOf s) i) (hj : Unclosed (tagsOf s) j)
    (hij : i < j) : lineOf (tagsOf s) i ≤ lineOf (tagsOf s) j := by
  obtain ⟨ps, hps⟩ := exists_isReading s
  obtain ⟨⟨name, l, hi⟩, _⟩ := hi
  obtain ⟨⟨name', l', hj⟩, _⟩ := hj
  have hfi : lineOf (tagsOf s) i = l := by rw [lineOf, frameAt, hi]
  have hfj : lineOf (tagsOf s) j = l' := by rw [lineOf, frameAt, hj]
  have hpair : (tagsOf s).Pairwise Ascending := by
    rw [tagsOf, tagEvents_reading hps]
    exact ascending_eventsFrom 1 ps
  obtain ⟨hilt, hget⟩ := List.getElem?_eq_some_iff.mp hi
  obtain ⟨hjlt, hget'⟩ := List.getElem?_eq_some_iff.mp hj
  rw [hfi, hfj]
  exact List.pairwise_iff_getElem.mp hpair i j hilt hjlt hij name l name' l' hget hget'

/-! ## The report on a text -/

/-- **Each unclosed tag of a text is reported once, in the order of lines; and on one line in the order of
opening, except that a tag left behind comes before those that stayed open around it.** So the whole
report is in the order of opening if and only if no tag overtakes another one on its line. -/
theorem unclosedTags_reported (s : List Char) :
    (∃ ps, IsReading s ps ∧ tagsOf s = eventsFrom 1 ps) ∧
    ∃ is : List Nat, unclosedTags s = is.map (frameAt (tagsOf s)) ∧
      (∀ i, i ∈ is ↔ Unclosed (tagsOf s) i) ∧ is.Nodup ∧ is.Pairwise (Before (tagsOf s)) ∧
      (is.Pairwise (· < ·) ↔ ∀ i j, Unclosed (tagsOf s) i → Unclosed (tagsOf s) j →
        lineOf (tagsOf s) i = lineOf (tagsOf s) j → ¬Overtakes (tagsOf s) i j) := by
  obtain ⟨ps, hps⟩ := exists_isReading s
  obtain ⟨is, hreport, hmem, hbefore⟩ := exists_report (tagsOf s)
  refine ⟨⟨ps, hps, tagEvents_reading hps⟩, is, hreport, hmem, nodup_of_before hbefore, hbefore, ?_⟩
  constructor
  · intro hascending i j hi hj hline hover
    obtain ⟨a, ha, rfl⟩ := List.getElem_of_mem ((hmem i).mpr hi)
    obtain ⟨b, hb, rfl⟩ := List.getElem_of_mem ((hmem j).mpr hj)
    have hba : b < a := by
      rcases Nat.lt_trichotomy a b with hab | rfl | hba
      · exact absurd hover.lt (Nat.lt_asymm (List.pairwise_iff_getElem.mp hascending a b ha hb hab))
      · exact absurd hover.lt (Nat.lt_irrefl _)
      · exact hba
    -- but the one overtaken is not reported first
    rcases List.pairwise_iff_getElem.mp hbefore b a hb ha hba with hlt | ⟨_, hover' | ⟨_, hno⟩⟩
    · exact Nat.lt_irrefl _ (hline ▸ hlt)
    · exact Nat.lt_asymm hover.lt hover'.lt
    · exact hno hover
  · intro hno
    refine hbefore.imp_of_mem fun {i j} hi hj hb => ?_
    rcases hb with hlt | ⟨hline, hover | ⟨hlt, _⟩⟩
    · refine Nat.lt_of_not_le fun hle => ?_
      rcases Nat.lt_or_eq_of_le hle with hji | rfl
      · have := lineOf_le s ((hmem j).mp hj) ((hmem i).mp hi) hji
        omega
      · exact Nat.lt_irrefl _ hlt
    · exact absurd hover (hno i j ((hmem i).mp hi) ((hmem j).mp hj) hline)
    · exact hlt

/-- Three tags on one line, of which a closing leaves the third behind inside the second. -/
def overtaken : List Char := "<A><B><C></B>".toList

/-- The third tag is reported before the first one, although nothing removes either: the report is not the
unclosed tags in the order of opening. -/
theorem not_reported_in_order : unclosedTags overtaken = [("C".toList, 1), ("A".toList, 1)] ∧
    ¬∃ is : List Nat, is.Pairwise (· < ·) ∧ (∀ i, i ∈ is ↔ Unclosed (tagsOf overtaken) i) ∧
      unclosedTags overtaken = is.map (frameAt (tagsOf overtaken)) := by
  have hstack : ((tagsOf overtaken).foldl TagStack.step ⟨[], []⟩).unclosed =
      [("C".toList, 1), ("A".toList, 1)] := by decide +kernel
  have hreport : unclosedTags overtaken = [("C".toList, 1), ("A".toList, 1)] := by
    rw [unclosedTags, hstack]
    exact List.mergeSort_of_pairwise (by decide)
  have hevents : tagsOf overtaken = [.opened "A".toList 1, .opened "B".toList 1,
      .opened "C".toList 1, .closed "B".toList] := by decide +kernel
  refine ⟨hreport, ?_⟩
  rintro ⟨is, hascending, _, his⟩
  rw [hreport, hevents] at his
  rcases is with _ | ⟨i, _ | ⟨j, _ | ⟨_, _⟩⟩⟩
  · simp at his
  · simp at his
  · obtain ⟨_, hj⟩ : ("C".toList, 1) = frameAt _ i ∧ ("A".toList, 1) = frameAt _ j := by
      simpa using his
    have hij : i < j := by simpa using hascending
    -- only the first event opens an `A`
    match j, hj with
    | 0, _ => exact Nat.not_lt_zero _ hij
    | 1, hj | 2, hj | 3, hj => exact absurd hj (by decide +kernel)
    | n + 4, hj => exact absurd hj (by simp [frameAt])
  · simp at his

end AppMend.Check
