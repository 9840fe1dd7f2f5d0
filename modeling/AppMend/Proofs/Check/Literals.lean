import AppMend.Proofs.Check.Repair
import AppMend.Proofs.Text.Completeness

/-!
# Imports that are quoted well

An import whose path stands between two marks of one kind needs no repair, also if the path has marks of
the other kind. But the pattern for imports takes the first mark of either kind behind the opening one
for the closing one. The match of such an import opens with the mark that opens its literal, for there is
no mark in its head and no other match on its line (`opening_eq_of_line`, `opening_eq_of_touch`). So the
literal is spared exactly if its path has no mark of the other kind; else the first of these is written
over and the line is reported (`spared_iff`).
-/

namespace AppMend.Check

open Text Pattern

/-- A text in which the head of an import or export begins a line and a literal follows it, with the same
mark at either end and not in between. -/
structure QuotedImport where
  before : List Char
  head : List Char
  mark : Char
  path : List Char
  after : List Char
  begins_line : before = [] ∨ before.getLast? = some '\n'
  is_head : importHead.Matches ⟨before.reverse, head ++ mark :: (path ++ mark :: after), []⟩
    ⟨head.reverse ++ before.reverse, mark :: (path ++ mark :: after), []⟩
  is_mark : isMark mark = true
  no_mark : mark ∉ path
  no_feed : '\n' ∉ path

namespace QuotedImport

variable (x : QuotedImport) {f : Found} {a b i n : Nat} {c : Char} {t : List Char} {ls : List Nat}

def text : List Char := x.before ++ (x.head ++ x.mark :: (x.path ++ x.mark :: x.after))

/-- The offset of the opening mark. -/
def opening : Nat := x.before.length + x.head.length

/-- The offset of the closing mark. -/
def closing : Nat := x.opening + 1 + x.path.length

/-- A repair of the text leaves the literal as it is and does not report its line. -/
def Spared : Prop :=
  ∀ t ls, repairQuotes x.text = some (t, ls) →
    (∀ i, x.opening ≤ i → i ≤ x.closing → t[i]? = x.text[i]?) ∧ lineAt x.text x.opening ∉ ls

/-! ## The characters of the text -/

theorem getElem?_behind (n : Nat) :
    x.text[x.opening + n]? = (x.mark :: (x.path ++ x.mark :: x.after))[n]? := by
  rw [text, ← List.append_assoc, opening, ← List.length_append,
    List.getElem?_append_right (Nat.le_add_right _ _), Nat.add_sub_cancel_left]

theorem getElem?_opening : x.text[x.opening]? = some x.mark := x.getElem?_behind 0

theorem getElem?_path (n : Nat) :
    x.text[x.opening + 1 + n]? = (x.path ++ x.mark :: x.after)[n]? := by
  rw [Nat.add_assoc, x.getElem?_behind, Nat.add_comm 1, List.getElem?_cons_succ]

theorem getElem?_closing : x.text[x.closing]? = some x.mark := by
  rw [closing, getElem?_path, List.getElem?_append_right (Nat.le_refl _), Nat.sub_self]
  rfl

/-- Between the marks stands the path. -/
theorem mem_path (hi : x.opening < i) (hic : i < x.closing) (hc : x.text[i]? = some c) : c ∈ x.path := by
  obtain ⟨n, rfl⟩ := Nat.exists_eq_add_of_le (Nat.succ_le_of_lt hi)
  have hn : n < x.path.length := by
    unfold closing at hic
    omega
  rw [Nat.succ_eq_add_one, getElem?_path, List.getElem?_append_left hn] at hc
  exact List.mem_of_getElem? hc

/-- The head has no mark. -/
theorem not_isMark_head (hi : x.before.length ≤ i) (hio : i < x.opening) (hc : x.text[i]? = some c) :
    isMark c = false := by
  have htext : (Cursor.mk x.before.reverse (x.head ++ x.mark :: (x.path ++ x.mark :: x.after)) []).text
      = x.text := by
    rw [Cursor.text, List.reverse_reverse, text]
  refine not_isMark_of_avoids x.is_head (by decide) ?_ ?_ (htext ▸ hc)
  · rw [Cursor.offset, List.length_reverse]
    exact hi
  · rw [Cursor.offset, List.length_append, List.length_reverse, List.length_reverse, Nat.add_comm]
    exact hio

/-- A line feed stands before the head, unless the text begins with it. -/
theorem getElem?_before (h : 0 < x.before.length) : x.text[x.before.length - 1]? = some '\n' := by
  rw [text, List.getElem?_append_left (Nat.sub_lt h Nat.one_pos), ← List.getLast?_eq_getElem?]
  exact x.begins_line.resolve_left (List.ne_nil_of_length_pos h)

theorem mark_ne_feed : x.mark ≠ '\n' := by
  intro h
  have := x.is_mark
  rw [h] at this
  cases this

/-! ## The match of the literal -/

variable {x}

/-- A match that opens before the literal ends before the head. -/
theorem lt_of_opening_lt (hm : Marked x.text f a b) (ha : a < x.opening) :
    a + 1 < x.before.length ∧ b < x.before.length := by
  obtain ⟨u, hu, hmark⟩ := hm.openingMark
  have hbefore : a < x.before.length := by
    refine Nat.lt_of_not_le fun hle => ?_
    rw [x.not_isMark_head hle ha hu] at hmark
    cases hmark
  have hfeed := x.getElem?_before (Nat.zero_lt_of_lt hbefore)
  have hne : a ≠ x.before.length - 1 := by
    intro he
    rw [← he, hu] at hfeed
    rw [Option.some.inj hfeed] at hmark
    cases hmark
  refine ⟨by omega, Nat.lt_of_not_le fun hle => ?_⟩
  exact (hm.path (x.before.length - 1) '\n' (by omega) (by omega) hfeed).2 rfl

/-- A match that opens behind the opening mark begins on a later line. -/
theorem feed_of_lt_opening (hm : Marked x.text f a b) (ha : x.opening < a) :
    x.opening < f.start ∧ ∃ n, x.closing < n ∧ n < a ∧ x.text[n]? = some '\n' := by
  have hstart : x.opening < f.start := by
    refine Nat.lt_of_not_le fun hle => ?_
    have := hm.head _ _ hle ha x.getElem?_opening
    rw [x.is_mark] at this
    cases this
  have hfeed := hm.lineStart.resolve_left (by omega)
  -- no line feed stands in the literal, and none is one of its marks
  have hopening : f.start - 1 ≠ x.opening := by
    intro he
    rw [he, x.getElem?_opening] at hfeed
    exact x.mark_ne_feed (Option.some.inj hfeed)
  have hclosing : f.start - 1 ≠ x.closing := by
    intro he
    rw [he, x.getElem?_closing] at hfeed
    exact x.mark_ne_feed (Option.some.inj hfeed)
  have hpath : ¬f.start - 1 < x.closing := fun hlt =>
    x.no_feed (x.mem_path (by omega) hlt hfeed)
  have := hm.start_le
  exact ⟨hstart, f.start - 1, by omega, by omega, hfeed⟩

theorem opening_lt_closing : x.opening < x.closing := by
  unfold closing
  omega

/-- On the line of the literal no other match opens. -/
theorem opening_eq_of_line (hm : Marked x.text f a b)
    (hl : lineAt x.text a = lineAt x.text x.opening) : a = x.opening := by
  rcases Nat.lt_trichotomy a x.opening with ha | ha | ha
  · obtain ⟨hbefore, _⟩ := lt_of_opening_lt hm ha
    have hfeed := x.getElem?_before (by omega)
    have : x.before.length ≤ x.opening := Nat.le_add_right _ _
    have := lineAt_lt (a := a) (b := x.opening) (by omega) (by omega) hfeed
    omega
  · exact ha
  · obtain ⟨_, n, hn, hna, hfeed⟩ := feed_of_lt_opening hm ha
    have := x.opening_lt_closing
    have := lineAt_lt (a := x.opening) (b := a) (by omega) hna hfeed
    omega

/-- No other match closes in the literal. -/
theorem opening_eq_of_touch (hm : Marked x.text f a b) (hob : x.opening ≤ b) (hbc : b ≤ x.closing) :
    a = x.opening := by
  rcases Nat.lt_trichotomy a x.opening with ha | ha | ha
  · obtain ⟨_, hb⟩ := lt_of_opening_lt hm ha
    have : x.before.length ≤ x.opening := Nat.le_add_right _ _
    omega
  · exact ha
  · obtain ⟨_, n, hn, hna, _⟩ := feed_of_lt_opening hm ha
    have := hm.lt
    omega

/-- The match of the literal closes with the first mark behind the opening one. -/
theorem closing_eq_of_first (hm : Marked x.text f x.opening b) (hn : x.opening < n)
    (hc : x.text[n]? = some c) (hmark : isMark c = true)
    (hfirst : ∀ i d, x.opening < i → i < n → x.text[i]? = some d → isMark d = false) : b = n := by
  obtain ⟨v, hv, hmv⟩ := hm.closingMark
  rcases Nat.lt_trichotomy b n with hb | hb | hb
  · rw [hfirst b v hm.lt hb hv] at hmv
    cases hmv
  · exact hb
  · rw [(hm.path n c hn hb hc).1] at hmark
    cases hmark

/-! ## Paths without other marks -/

/-- If the path has no mark, the match of the literal is paired. -/
theorem paired_of_plain (hplain : ∀ c ∈ x.path, isMark c = false) (hm : Marked x.text f x.opening b) :
    Paired x.text f := by
  have hb : b = x.closing := closing_eq_of_first hm opening_lt_closing x.getElem?_closing x.is_mark
    fun i d hi hic hd => hplain d (x.mem_path hi hic hd)
  rw [paired_iff hm, hb, x.getElem?_opening, x.getElem?_closing]

theorem spared_of_plain (hplain : ∀ c ∈ x.path, isMark c = false) : x.Spared := by
  intro t ls h
  have hnone {f : Found} {a b : Nat} (hf : f ∈ mismatches x.text) (hm : Marked x.text f a b) :
      a ≠ x.opening := by
    rintro rfl
    exact (mem_mismatches_iff.mp hf).2 (paired_of_plain hplain hm)
  constructor
  · intro i hi hic
    refine Classical.byContradiction fun hd => ?_
    obtain ⟨f, hf, a, hm⟩ := (differs_iff h).mp hd
    exact hnone hf hm (opening_eq_of_touch hm hi hic)
  · intro hl
    obtain ⟨i, hd, hline⟩ := (mem_lines_iff h).mp hl
    obtain ⟨f, hf, a, hm⟩ := (differs_iff h).mp hd
    exact hnone hf hm (opening_eq_of_line hm (hm.lineAt_eq.symm.trans hline))

/-! ## Paths with other marks -/

section Damaged

variable {l₁ l₂ : List Char}

/-- A literal with a mark in its path can be matched up to there. -/
theorem matches_of_mark (hpath : x.path = l₁ ++ c :: l₂) (hl : ∀ d ∈ l₁, isMark d = false)
    (hc : isMark c = true) : ∃ e, importQuotes.Matches
      ⟨x.before.reverse, x.head ++ x.mark :: (x.path ++ x.mark :: x.after), []⟩ e := by
  have hline : (Cursor.mk x.before.reverse (x.head ++ x.mark :: (x.path ++ x.mark :: x.after))
      []).atLineStart = true := by
    rcases x.begins_line with h | h
    · rw [h]
      rfl
    · obtain ⟨u, hu⟩ := List.getLast?_eq_some_iff.mp h
      rw [hu, List.reverse_append]
      rfl
  have hhead := x.is_head
  rw [hpath, List.append_assoc, List.cons_append] at hhead hline ⊢
  have hplain : ∀ d ∈ l₁, (!"'\"\n".toList.contains d) = true := by
    intro d hd
    have hfeed : d ≠ '\n' := by
      rintro rfl
      exact x.no_feed (hpath ▸ List.mem_append_left _ hd)
    have hmark := hl d hd
    simp only [isMark] at hmark
    simp_all
  exact ⟨_, .seq (.lineStart hline) (.seq (.group hhead) (.seq (.group (.one x.is_mark))
    (.seq (.group (matches_many_one hplain _ _)) (.seq (.group (.one hc)) .nothing))))⟩

/-- The match of the literal is found. -/
theorem exists_marked (hpath : x.path = l₁ ++ c :: l₂) (hl : ∀ d ∈ l₁, isMark d = false)
    (hc : isMark c = true) :
    ∃ f ∈ importQuotes.findAll x.text, ∃ b, Marked x.text f x.opening b := by
  obtain ⟨e, he⟩ := matches_of_mark hpath hl hc
  obtain ⟨f, hf, hle, hreach⟩ := exists_mem_findAll (by decide) he rfl
  have htext : (Cursor.mk x.before.reverse (x.head ++ x.mark :: (x.path ++ x.mark :: x.after)) []).text
      = x.text := by
    rw [Cursor.text, List.reverse_reverse, text]
  rw [htext] at hf
  rw [Cursor.offset, List.length_reverse] at hle hreach
  obtain ⟨a, b, hm⟩ := marked_of_mem hf
  have ha : a = x.opening := by
    have hopening : x.before.length ≤ x.opening := Nat.le_add_right _ _
    rcases Nat.lt_trichotomy a x.opening with ha | ha | ha
    · obtain ⟨hbefore, hb⟩ := lt_of_opening_lt hm ha
      have := hm.start_le
      have := hm.stop_eq
      omega
    · exact ha
    · obtain ⟨hstart, _⟩ := feed_of_lt_opening hm ha
      omega
  exact ⟨f, hf, b, ha ▸ hm⟩

/-- **The first mark in the path is written over, and the line is reported.** -/
theorem damaged_of_mark (hpath : x.path = l₁ ++ c :: l₂) (hl : ∀ d ∈ l₁, isMark d = false)
    (hc : isMark c = true) :
    ∃ t ls, repairQuotes x.text = some (t, ls) ∧ x.text[x.opening + 1 + l₁.length]? = some c ∧
      t[x.opening + 1 + l₁.length]? = some x.mark ∧ lineAt x.text x.opening ∈ ls := by
  obtain ⟨f, hf, b, hm⟩ := exists_marked hpath hl hc
  have hget : x.text[x.opening + 1 + l₁.length]? = some c := by
    rw [getElem?_path, hpath, List.append_assoc, List.getElem?_append_right (Nat.le_refl _), Nat.sub_self]
    rfl
  -- it is the first mark behind the opening one, so the match ends here
  have hb : b = x.opening + 1 + l₁.length := by
    refine closing_eq_of_first hm (by omega) hget hc fun i d hi hin hd => hl d ?_
    obtain ⟨n, rfl⟩ := Nat.exists_eq_add_of_le (Nat.succ_le_of_lt hi)
    rw [Nat.succ_eq_add_one, getElem?_path, hpath, List.append_assoc,
      List.getElem?_append_left (by omega)] at hd
    exact List.mem_of_getElem? hd
  have hne : x.mark ≠ c := by
    rintro rfl
    exact x.no_mark (hpath ▸ List.mem_append_right _ List.mem_cons_self)
  have hmis : f ∈ mismatches x.text := by
    refine mem_mismatches_iff.mpr ⟨hf, fun hp => hne ?_⟩
    rw [paired_iff hm, hb, x.getElem?_opening, hget] at hp
    exact Option.some.inj hp
  cases h : repairQuotes x.text with
  | none => exact absurd (repairQuotes_eq_none_iff.mp h f hf) (mem_mismatches_iff.mp hmis).2
  | some r =>
      obtain ⟨t, ls⟩ := r
      have ht := getElem?_repaired_closing h hmis hm
      rw [x.getElem?_opening, hb] at ht
      refine ⟨t, ls, rfl, hget, ht, (mem_lines_iff h).mpr ⟨b, ?_, hm.lineAt_eq⟩⟩
      exact (differs_iff h).mpr ⟨f, hmis, _, hm⟩

end Damaged

/-! ## Which literals are spared -/

/-- **A literal is spared exactly if its path has no mark of the other kind.** Else the first such mark in
it becomes like the marks around it, and the line of the literal is reported. -/
theorem spared_iff (x : QuotedImport) :
    (x.Spared ↔ ∀ c ∈ x.path, isMark c = false) ∧
      ∀ l₁ c l₂, x.path = l₁ ++ c :: l₂ → (∀ d ∈ l₁, isMark d = false) → isMark c = true →
        ∃ t ls, repairQuotes x.text = some (t, ls) ∧ x.text[x.opening + 1 + l₁.length]? = some c ∧
          t[x.opening + 1 + l₁.length]? = some x.mark ∧ lineAt x.text x.opening ∈ ls := by
  refine ⟨⟨fun h => ?_, spared_of_plain⟩, fun l₁ c l₂ => damaged_of_mark⟩
  refine Classical.byContradiction fun hmarked => ?_
  -- the line of the first mark in the path would be reported
  obtain ⟨c, hfind⟩ : ∃ c, x.path.find? isMark = some c := by
    refine Option.isSome_iff_exists.mp (List.find?_isSome.mpr ?_)
    simpa using hmarked
  obtain ⟨hc, l₁, l₂, hpath, hl⟩ := List.find?_eq_some_iff_append.mp hfind
  obtain ⟨t, ls, hr, _, _, hline⟩ := damaged_of_mark hpath (by simpa using hl) hc
  exact (h t ls hr).2 hline

/-- An import between double marks, on a line of its own. Its path has an apostrophe. -/
def apostrophe : QuotedImport where
  before := []
  head := "import a from ".toList
  mark := '"'
  path := "./it's".toList
  after := ";\n".toList
  begins_line := .inl rfl
  is_head := matches_of_run_eq (by decide +kernel)
  is_mark := rfl
  no_mark := by decide +kernel
  no_feed := by decide +kernel

/-- An export behind it whose head takes two lines, between single marks. Its path has no mark. -/
def plainPath : QuotedImport where
  before := "import a from \"./it's\";\n".toList
  head := "export { b }\n  from ".toList
  mark := '\''
  path := "./b".toList
  after := []
  begins_line := .inr rfl
  is_head := matches_of_run_eq (by decide +kernel)
  is_mark := rfl
  no_mark := by decide +kernel
  no_feed := by decide +kernel

/-- The path without marks is spared, and the apostrophe is written over. -/
theorem spared_plainPath : plainPath.Spared ∧ (∀ c ∈ plainPath.path, isMark c = false) ∧
    ∃ t ls, repairQuotes apostrophe.text = some (t, ls) ∧ apostrophe.text[19]? = some '\'' ∧
      t[19]? = some '"' ∧ lineAt apostrophe.text apostrophe.opening ∈ ls := by
  have hplain : ∀ c ∈ plainPath.path, isMark c = false := by
    change ∀ c ∈ "./b".toList, isMark c = false
    simp [isMark]
  have hfirst : ∀ c ∈ "./it".toList, isMark c = false := by simp [isMark]
  obtain ⟨hspared, _⟩ := spared_iff plainPath
  obtain ⟨_, hdamaged⟩ := spared_iff apostrophe
  exact ⟨hspared.mpr hplain, hplain, hdamaged _ '\'' "s".toList (by decide +kernel) hfirst rfl⟩

/-- A literal between two marks of one kind that is not spared: the apostrophe in it becomes a double
mark, and the line is reported. -/
theorem not_spared_apostrophe :
    apostrophe.text = "import a from \"./it's\";\n".toList ∧
      repairQuotes apostrophe.text = some ("import a from \"./it\"s\";\n".toList, [1]) ∧
      ¬apostrophe.Spared := by
  have hr : repairQuotes apostrophe.text = some ("import a from \"./it\"s\";\n".toList, [1]) := by
    decide +kernel
  exact ⟨rfl, hr, fun h => (h _ _ hr).2 (by decide +kernel)⟩

end QuotedImport

end AppMend.Check
