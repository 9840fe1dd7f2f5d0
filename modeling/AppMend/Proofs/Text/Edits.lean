import AppMend.Text.Edit

/-!
# Edits made at once

Edits that keep apart (`Edit.Apart`) say what becomes of a text without an order among them: at each place
something may be written, and each character is kept unless an edit replaces it. Copied from left to right in
this way, the text is `Edit.substitute`. Places count characters, so no stretch ends within one.

The edits are made one after another, from the last one to the first. Each of them is made where the text up
to its end is still as it was (`take_foldl_apply`), so its offsets hold; and what was written behind it is not
touched by those to come (`foldl_apply_append`). So they come to the same as all edits at once
(`applyAll_eq_substitute`).
-/

namespace AppMend.Text.Edit

variable {a b e : Edit} {d edits before after : List Edit} {s p m t : List Char} {i k : Nat}

/-! ## Edits that keep apart -/

/-- Whether the stretch of an edit is within a text. -/
def Fits (e : Edit) (s : List Char) : Prop := e.start ≤ e.stop ∧ e.stop ≤ s.length

instance : Decidable (Fits e s) := inferInstanceAs (Decidable (_ ∧ _))

/-- Whether one of two edits stops where the other starts, or before. Two that only insert do not insert at
the same place. -/
def Apart (a b : Edit) : Prop :=
  (a.stop ≤ b.start ∨ b.stop ≤ a.start) ∧ ¬(a.start = a.stop ∧ b.start = b.stop ∧ a.start = b.start)

instance : Decidable (Apart a b) := inferInstanceAs (Decidable (_ ∧ _))

theorem Apart.symm (h : Apart a b) : Apart b a := by
  unfold Apart at h ⊢
  omega

theorem isMadeBefore_iff : isMadeBefore a b = true ↔
    b.start < a.start ∨ a.start = b.start ∧ b.stop ≤ a.stop := by
  simp [isMadeBefore]

theorem isMadeBefore_trans (a b c : Edit) (hab : isMadeBefore a b = true) (hbc : isMadeBefore b c = true) :
    isMadeBefore a c = true := by
  rw [isMadeBefore_iff] at *
  omega

theorem isMadeBefore_total (a b : Edit) : (isMadeBefore a b || isMadeBefore b a) = true := by
  rw [Bool.or_eq_true, isMadeBefore_iff, isMadeBefore_iff]
  omega

/-- An edit that is made later stops before the one that is made earlier, or where that one starts. -/
theorem stop_le_start (h : isMadeBefore a b = true) (hapart : Apart a b) (ha : a.start ≤ a.stop)
    (hb : b.start ≤ b.stop) : b.stop ≤ a.start := by
  rw [isMadeBefore_iff] at h
  unfold Apart at hapart
  omega

/-- Edits in the order in which they are made. -/
def Descending (d : List Edit) : Prop := d.Pairwise fun a b => Apart a b ∧ b.stop ≤ a.start

theorem descending_mergeSort (hspan : ∀ e ∈ edits, e.start ≤ e.stop) (hapart : edits.Pairwise Apart) :
    Descending (edits.mergeSort isMadeBefore) := by
  have hperm := List.mergeSort_perm edits isMadeBefore
  have hsorted := List.pairwise_mergeSort isMadeBefore_trans isMadeBefore_total edits
  have hapart' := (hperm.pairwise_iff Apart.symm).mpr hapart
  refine (hapart'.and hsorted).imp_of_mem fun {a b} ha hb h => ⟨h.1, ?_⟩
  exact stop_le_start h.2 h.1 (hspan a (hperm.mem_iff.mp ha)) (hspan b (hperm.mem_iff.mp hb))

/-! ## All edits at once -/

/-- What the edits write at a place: what is inserted there, and then what replaces a stretch from there. -/
def writtenAt (edits : List Edit) (i : Nat) : List Char :=
  (edits.filter fun e => e.start == i && e.stop == i).flatMap (·.new) ++
    (edits.filter fun e => e.start == i && e.stop != i).flatMap (·.new)

/-- Whether the character at a place is replaced. -/
def isReplaced (edits : List Edit) (i : Nat) : Bool := edits.any fun e => e.start ≤ i && i < e.stop

/-- A text from a place on, copied from left to right with what the edits write. -/
def substitute (edits : List Edit) : Nat → List Char → List Char
  | i, [] => writtenAt edits i
  | i, c :: s =>
    writtenAt edits i ++ ((if isReplaced edits i then [] else [c]) ++ substitute edits (i + 1) s)

theorem writtenAt_eq_nil (h : ∀ e ∈ edits, e.start ≠ i) : writtenAt edits i = [] := by
  have hnone (q : Edit → Bool) : edits.filter (fun e => e.start == i && q e) = [] :=
    List.filter_eq_nil_iff.mpr fun e he => by simp [h e he]
  rw [writtenAt, hnone, hnone]
  rfl

theorem writtenAt_cons_of_ne (h : e.start ≠ i) (edits : List Edit) :
    writtenAt (e :: edits) i = writtenAt edits i := by
  simp [writtenAt, h]

/-- What an edit writes comes behind what those to come write at its place: they only insert there. -/
theorem writtenAt_cons_self (hd : ∀ b ∈ d, Apart a b ∧ b.start ≤ b.stop ∧ b.stop ≤ a.start) :
    writtenAt (a :: d) a.start = writtenAt d a.start ++ a.new := by
  have hreplaced : d.filter (fun e => e.start == a.start && e.stop != a.start) = [] := by
    refine List.filter_eq_nil_iff.mpr fun b hb => ?_
    obtain ⟨-, hspan, hstop⟩ := hd b hb
    simp only [Bool.and_eq_true, beq_iff_eq, bne_iff_ne, ne_eq]
    omega
  by_cases ha : a.stop = a.start
  · -- two edits would insert at this place
    have hinserted : d.filter (fun e => e.start == a.start && e.stop == a.start) = [] := by
      refine List.filter_eq_nil_iff.mpr fun b hb => ?_
      obtain ⟨⟨-, hne⟩, hspan, hstop⟩ := hd b hb
      simp only [Bool.and_eq_true, beq_iff_eq]
      omega
    simp [writtenAt, ha, hinserted, hreplaced]
  · simp [writtenAt, ha, hreplaced]

theorem isReplaced_eq_false (h : ∀ e ∈ edits, e.stop ≤ i) : isReplaced edits i = false := by
  refine List.any_eq_false.mpr fun e he => ?_
  have := h e he
  simp only [Bool.and_eq_true, decide_eq_true_eq]
  omega

theorem isReplaced_cons (e : Edit) (edits : List Edit) (i : Nat) :
    isReplaced (e :: edits) i = (decide (e.start ≤ i ∧ i < e.stop) || isReplaced edits i) := by
  simp [isReplaced]

/-! ## The last stretch that is edited -/

/-- A text behind all edits is copied. -/
theorem substitute_of_quiet (hw : ∀ j, i < j → writtenAt edits j = [])
    (hr : ∀ j, i ≤ j → isReplaced edits j = false) (t : List Char) :
    substitute edits i t = writtenAt edits i ++ t := by
  induction t generalizing i with
  | nil => exact (List.append_nil _).symm
  | cons c t ih =>
      rw [substitute, hr i (Nat.le_refl i),
        ih (fun j hj => hw j (by omega)) (fun j hj => hr j (by omega)), hw (i + 1) (Nat.lt_succ_self i)]
      rfl

/-- Where nothing is edited, the text is copied. -/
theorem substitute_nil (i : Nat) (s : List Char) : substitute [] i s = s :=
  substitute_of_quiet (fun _ _ => rfl) (fun _ _ => rfl) s

/-- A stretch that is replaced is left out. -/
theorem substitute_replaced (hw : ∀ j, i < j → writtenAt edits j = [])
    (hr : ∀ j, i ≤ j → (isReplaced edits j = true ↔ j < i + m.length)) (t : List Char) :
    substitute edits i (m ++ t) = writtenAt edits i ++ t := by
  induction m generalizing i with
  | nil =>
      refine substitute_of_quiet hw (fun j hj => ?_) t
      have := hr j hj
      simp only [List.length_nil] at this
      exact Bool.eq_false_iff.mpr fun h => absurd (this.mp h) (by omega)
  | cons c m ih =>
      rw [List.length_cons] at hr
      have hhead : isReplaced edits i = true := (hr i (Nat.le_refl i)).mpr (by omega)
      have hrest : ∀ j, i + 1 ≤ j → (isReplaced edits j = true ↔ j < i + 1 + m.length) := by
        intro j hj
        rw [hr j (by omega)]
        omega
      rw [List.cons_append, substitute, hhead, ih (fun j hj => hw j (by omega)) hrest,
        hw (i + 1) (Nat.lt_succ_self i)]
      rfl

/-- A stretch on which two lists of edits agree is copied alike, up to what is written at its end. -/
theorem exists_substitute_append (h : ∀ j, i ≤ j → j < i + p.length →
    writtenAt edits j = writtenAt d j ∧ isReplaced edits j = isReplaced d j) (t : List Char) :
    ∃ x, substitute d i p = x ++ writtenAt d (i + p.length) ∧
      substitute edits i (p ++ t) = x ++ substitute edits (i + p.length) t := by
  induction p generalizing i with
  | nil => exact ⟨[], rfl, rfl⟩
  | cons c p ih =>
      have hlength : i + (c :: p).length = i + 1 + p.length := by
        rw [List.length_cons]
        omega
      rw [hlength] at h ⊢
      obtain ⟨hw, hr⟩ := h i (Nat.le_refl i) (by omega)
      obtain ⟨x, hd, hedits⟩ := ih fun j hj hlt => h j (Nat.le_of_succ_le hj) hlt
      refine ⟨writtenAt d i ++ ((if isReplaced d i then [] else [c]) ++ x), ?_, ?_⟩
      · rw [substitute, hd]
        simp only [List.append_assoc]
      · rw [List.cons_append, substitute, hedits, hw, hr]
        simp only [List.append_assoc]

/-- **The last stretch that is edited**: the text before it is edited by the others, and the text behind it
is kept. -/
theorem substitute_cons (hp : p.length = a.start) (hm : p.length + m.length = a.stop)
    (hd : ∀ b ∈ d, Apart a b ∧ b.start ≤ b.stop ∧ b.stop ≤ a.start) (t : List Char) :
    substitute (a :: d) 0 (p ++ (m ++ t)) = substitute d 0 p ++ (a.new ++ t) := by
  -- before the stretch only the others count, and behind its start only the edit itself
  have hbefore : ∀ j, 0 ≤ j → j < 0 + p.length →
      writtenAt (a :: d) j = writtenAt d j ∧ isReplaced (a :: d) j = isReplaced d j := by
    intro j _ hj
    refine ⟨writtenAt_cons_of_ne (by omega) d, ?_⟩
    rw [isReplaced_cons, decide_eq_false (by omega), Bool.false_or]
  have hbehind : ∀ j, a.start < j → writtenAt (a :: d) j = [] := by
    intro j hj
    rw [writtenAt_cons_of_ne (by omega)]
    refine writtenAt_eq_nil fun b hb => ?_
    have := hd b hb
    omega
  have hstretch : ∀ j, a.start ≤ j → (isReplaced (a :: d) j = true ↔ j < a.start + m.length) := by
    intro j hj
    rw [isReplaced_cons, isReplaced_eq_false fun b hb => Nat.le_trans (hd b hb).2.2 hj, Bool.or_false,
      decide_eq_true_eq]
    omega
  obtain ⟨x, hothers, hall⟩ := exists_substitute_append hbefore (m ++ t)
  rw [Nat.zero_add, hp] at hothers hall
  rw [hall, hothers, substitute_replaced hbehind hstretch, writtenAt_cons_self hd]
  simp only [List.append_assoc]

/-! ## One edit after another -/

/-- A text is cut at both ends of the stretch of an edit. -/
theorem Fits.exists_append (h : a.Fits s) :
    ∃ p m t, s = p ++ (m ++ t) ∧ p.length = a.start ∧ p.length + m.length = a.stop := by
  obtain ⟨hspan, hstop⟩ := h
  refine ⟨s.take a.start, (s.drop a.start).take (a.stop - a.start), (s.drop a.start).drop (a.stop - a.start),
    ?_, ?_, ?_⟩
  · rw [List.take_append_drop, List.take_append_drop]
  · rw [List.length_take]
    omega
  · rw [List.length_take, List.length_take, List.length_drop]
    omega

theorem apply_append (hp : p.length = a.start) (hm : p.length + m.length = a.stop) (t : List Char) :
    a.apply (p ++ (m ++ t)) = p ++ (a.new ++ t) := by
  rw [apply, ← hm, ← hp, List.take_left, ← List.append_assoc p m, ← List.length_append, List.drop_left,
    List.append_assoc]

/-- The text up to a place stays as it is while edits are made behind it. -/
theorem take_foldl_apply (h : ∀ e ∈ before, k ≤ e.start) (hk : k ≤ s.length) :
    (before.foldl (fun s e => e.apply s) s).take k = s.take k := by
  induction before generalizing s with
  | nil => rfl
  | cons e before ih =>
      have htake : (e.apply s).take k = s.take k := by
        have hstart := h e List.mem_cons_self
        have hlength : k ≤ (s.take e.start).length := by
          rw [List.length_take]
          omega
        rw [apply, List.append_assoc, List.take_append_of_le_length hlength, List.take_take,
          Nat.min_eq_left hstart]
      have hk' : k ≤ (e.apply s).length := by
        have := congrArg List.length htake
        rw [List.length_take, List.length_take] at this
        omega
      rw [List.foldl_cons, ih (fun e he => h e (List.mem_cons_of_mem _ he)) hk', htake]

/-- What stands behind all edits is not touched by them. -/
theorem foldl_apply_append (hfit : ∀ e ∈ d, e.Fits p) (hdesc : Descending d) (t : List Char) :
    d.foldl (fun s e => e.apply s) (p ++ t) = d.foldl (fun s e => e.apply s) p ++ t := by
  induction d generalizing p with
  | nil => rfl
  | cons e d ih =>
      obtain ⟨hfirst, hdesc⟩ := List.pairwise_cons.mp hdesc
      obtain ⟨p, m, r, rfl, hp, hm⟩ := (hfit e List.mem_cons_self).exists_append
      have hfit' : ∀ b ∈ d, b.Fits (p ++ (e.new ++ r)) := by
        intro b hb
        refine ⟨(hfit b (List.mem_cons_of_mem _ hb)).1, ?_⟩
        have := (hfirst b hb).2
        rw [List.length_append]
        omega
      rw [List.foldl_cons, List.foldl_cons, apply_append hp hm, ← ih hfit' hdesc, List.append_assoc p,
        List.append_assoc m, apply_append hp hm, List.append_assoc, List.append_assoc]

/-- **Edits made from the last one to the first come to the same as all of them at once.** -/
theorem foldl_apply_eq_substitute (hfit : ∀ e ∈ d, e.Fits s) (hdesc : Descending d) :
    d.foldl (fun s e => e.apply s) s = substitute d 0 s := by
  induction d generalizing s with
  | nil => exact (substitute_nil 0 s).symm
  | cons a d ih =>
      obtain ⟨hfirst, hdesc⟩ := List.pairwise_cons.mp hdesc
      obtain ⟨p, m, t, rfl, hp, hm⟩ := (hfit a List.mem_cons_self).exists_append
      have hspan (b : Edit) (hb : b ∈ d) : b.start ≤ b.stop := (hfit b (List.mem_cons_of_mem _ hb)).1
      have hfit' : ∀ b ∈ d, b.Fits p := fun b hb => ⟨hspan b hb, hp ▸ (hfirst b hb).2⟩
      rw [List.foldl_cons, apply_append hp hm, foldl_apply_append hfit' hdesc, ih hfit' hdesc,
        substitute_cons hp hm fun b hb => ⟨(hfirst b hb).1, hspan b hb, (hfirst b hb).2⟩]

/-! ## In whatever order they are listed -/

/-- A property that no two edits share picks the same edits from a list however it is ordered. -/
theorem filter_eq_of_perm {q : Edit → Bool} (h : d.Perm edits) (hapart : edits.Pairwise Apart)
    (hq : ∀ a ∈ edits, ∀ b ∈ edits, q a = true → q b = true → ¬Apart a b) : d.filter q = edits.filter q := by
  have hperm := h.filter q
  have hone := hapart.filter q
  have hmem : ∀ e ∈ edits.filter q, e ∈ edits ∧ q e = true := fun e he => List.mem_filter.mp he
  cases hf : edits.filter q with
  | nil => exact (hf ▸ hperm).eq_nil
  | cons a rest =>
      cases rest with
      | nil => exact List.perm_singleton.mp (hf ▸ hperm)
      | cons b rest =>
          rw [hf] at hone hmem
          obtain ⟨ha, hqa⟩ := hmem a List.mem_cons_self
          obtain ⟨hb, hqb⟩ := hmem b (List.mem_cons_of_mem _ List.mem_cons_self)
          exact absurd ((List.pairwise_cons.mp hone).1 b List.mem_cons_self) (hq a ha b hb hqa hqb)

/-- At each place at most one edit inserts, and at most one replaces what starts there. -/
theorem writtenAt_eq_of_perm (h : d.Perm edits) (hspan : ∀ e ∈ edits, e.start ≤ e.stop)
    (hapart : edits.Pairwise Apart) (i : Nat) : writtenAt d i = writtenAt edits i := by
  have hinserted : d.filter (fun e => e.start == i && e.stop == i) =
      edits.filter fun e => e.start == i && e.stop == i := by
    refine filter_eq_of_perm h hapart fun a _ b _ ha hb habs => ?_
    simp only [Bool.and_eq_true, beq_iff_eq] at ha hb
    have := habs.2
    omega
  have hreplaced : d.filter (fun e => e.start == i && e.stop != i) =
      edits.filter fun e => e.start == i && e.stop != i := by
    refine filter_eq_of_perm h hapart fun a ha b hb hqa hqb habs => ?_
    simp only [Bool.and_eq_true, beq_iff_eq, bne_iff_ne, ne_eq] at hqa hqb
    have := hspan a ha
    have := hspan b hb
    have := habs.1
    omega
  rw [writtenAt, writtenAt, hinserted, hreplaced]

theorem substitute_eq_of_perm (h : d.Perm edits) (hspan : ∀ e ∈ edits, e.start ≤ e.stop)
    (hapart : edits.Pairwise Apart) (i : Nat) (s : List Char) : substitute d i s = substitute edits i s := by
  have hreplaced (j : Nat) : isReplaced d j = isReplaced edits j := h.any_eq
  induction s generalizing i with
  | nil => exact writtenAt_eq_of_perm h hspan hapart i
  | cons c s ih => rw [substitute, substitute, writtenAt_eq_of_perm h hspan hapart, hreplaced, ih]

/-- **Edits that keep apart are made at once.** However they are listed, the text is copied from left to right
with what they write in the place of what they replace. Each of them is made where its stretch is within the
text as it is by then, and the text up to its end is as it was. -/
theorem applyAll_eq_substitute (hfit : ∀ e ∈ edits, e.Fits s) (hapart : edits.Pairwise Apart) :
    applyAll edits s = substitute edits 0 s ∧
      ∀ before e after, edits.mergeSort isMadeBefore = before ++ e :: after →
        e.Fits (before.foldl (fun s e => e.apply s) s) ∧
          (before.foldl (fun s e => e.apply s) s).take e.stop = s.take e.stop := by
  have hperm := List.mergeSort_perm edits isMadeBefore
  have hspan : ∀ e ∈ edits, e.start ≤ e.stop := fun e he => (hfit e he).1
  have hdesc := descending_mergeSort hspan hapart
  have hfit' : ∀ e ∈ edits.mergeSort isMadeBefore, e.Fits s := fun e he => hfit e (hperm.mem_iff.mp he)
  constructor
  · rw [applyAll, foldl_apply_eq_substitute hfit' hdesc, substitute_eq_of_perm hperm hspan hapart]
  · intro before e after hsorted
    rw [hsorted] at hfit' hdesc
    obtain ⟨hstart, hstop⟩ := hfit' e (by simp)
    have hbefore : ∀ b ∈ before, e.stop ≤ b.start := fun b hb =>
      ((List.pairwise_append.mp hdesc).2.2 b hb e List.mem_cons_self).2
    have htake := take_foldl_apply hbefore hstop
    refine ⟨⟨hstart, ?_⟩, htake⟩
    have := congrArg List.length htake
    rw [List.length_take, List.length_take] at this
    omega

/-- A mark is inserted where one statement ends and the next one, which is edited too, begins. -/
theorem applyAll_eq_substitute_touching :
    let s := "export default class{}export const a=1".toList
    let edits : List Edit :=
      [⟨0, 15, "exports.default = ".toList⟩, ⟨22, 22, [';']⟩, ⟨22, 29, []⟩]
    (∀ e ∈ edits, e.Fits s) ∧ edits.Pairwise Apart ∧
      applyAll edits s = "exports.default = class{};const a=1".toList := by
  intro s edits
  have hfit : ∀ e ∈ edits, e.Fits s := by decide
  have hapart : edits.Pairwise Apart := by decide
  exact ⟨hfit, hapart, (applyAll_eq_substitute hfit hapart).1.trans (by decide)⟩

end AppMend.Text.Edit
