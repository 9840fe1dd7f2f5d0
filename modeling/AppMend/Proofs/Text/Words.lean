import Mathlib.Data.List.Basic
import AppMend.Check.Conventions
import AppMend.Proofs.Text.Search
import AppMend.Proofs.Text.Shapes

/-!
# Words that stand alone

A word stands alone where it occurs and no part of a name touches it (`StandsAlone`). Its occurrences are looked
at from left to right, each from the end of the one before it. So one that is passed over begins within one that
is looked at (`metBy_occurrences`), and if that one does not stand alone, a word that does may be missed.

This takes a word that begins again inside itself, behind a character that is no part of a name (`Restarts`). A
word that does not is found wherever it stands alone, and a word that does is missed in some text
(`hasWord_iff_standsAlone`). No name restarts (`not_restarts_of_name`), and a keyword with a name behind it only
does if the keyword begins with that name (`restarts_declaration_iff`).
-/

namespace AppMend.Text

variable {p s t u v pre before after word keyword name : List Char} {o o' : Occurrence}
  {os : List Occurrence} {x : Char} {n : Nat}

/-! ## The occurrences that are looked at -/

/-- An occurrence is one of a list, or begins within one of them. -/
def MetBy (p : List Char) (os : List Occurrence) (o : Occurrence) : Prop :=
  o ∈ os ∨ ∃ o' ∈ os, o'.before.length < o.before.length ∧ o.before.length < o'.before.length + p.length

theorem MetBy.cons (h : MetBy p os o) (o' : Occurrence) : MetBy p (o' :: os) o := by
  rcases h with h | ⟨q, hq, hlt⟩
  · exact .inl (List.mem_cons_of_mem _ h)
  · exact .inr ⟨q, List.mem_cons_of_mem _ hq, hlt⟩

theorem metBy_occurrencesFrom (hp : p ≠ []) (hn : s.length < n) (hs : s = before ++ (p ++ after)) :
    MetBy p (occurrencesFrom p n pre s) ⟨pre ++ before, after⟩ := by
  induction n generalizing pre s before with
  | zero => omega
  | succ n ih =>
      have hpos := List.length_pos_iff.mpr hp
      cases hcut : cut? p s with
      | none => exact absurd ⟨before, after, by simp [hs]⟩ (cut?_eq_none_iff.mp hcut)
      | some r =>
          obtain ⟨a, b⟩ := r
          obtain ⟨hab, hfirst⟩ := cut?_eq_some_iff.mp hcut
          have hle := hfirst before after (by simp [hs])
          rw [occurrencesFrom, hcut]
          dsimp only
          rw [hs, List.append_assoc] at hab
          obtain ⟨z, rfl, hz⟩ := Pattern.exists_append_of_le hab hle
          by_cases hin : z.length < p.length
          · by_cases hnil : z = []
            · -- it is the first one
              subst hnil
              have hb : after = b := List.append_cancel_left hz
              exact .inl (by simp [hb])
            · have := List.length_pos_iff.mpr hnil
              refine .inr ⟨_, List.mem_cons_self, ?_⟩
              simp only [List.length_append]
              omega
          · -- it begins behind the first one
            obtain ⟨z, rfl, hb⟩ := Pattern.exists_append_of_le hz (Nat.le_of_not_lt hin)
            have hshort : b.length < n := by
              have hlength := congrArg List.length hb
              rw [hs] at hn
              simp only [List.length_append] at hn hlength
              omega
            have hrest : MetBy p (occurrencesFrom p n (pre ++ a ++ p) b) ⟨pre ++ a ++ p ++ z, after⟩ :=
              ih hshort hb.symm
            have hassoc : pre ++ a ++ p ++ z = pre ++ (a ++ (p ++ z)) := by simp
            exact (hassoc ▸ hrest).cons _

theorem mem_places_append (pre before after : List Char) :
    (⟨pre ++ before, after⟩ : Occurrence) ∈ places pre (before ++ after) := by
  induction before generalizing pre with
  | nil =>
      rw [List.append_nil, List.nil_append]
      cases after <;> exact List.mem_cons_self
  | cons c before ih =>
      refine List.mem_cons_of_mem _ ?_
      have := ih (pre ++ [c])
      rwa [List.append_assoc] at this

/-- **An occurrence that is passed over begins within one that is looked at.** -/
theorem metBy_occurrences (hs : s = o.before ++ p ++ o.after) : MetBy p (occurrences p s) o := by
  rw [List.append_assoc] at hs
  rw [occurrences]
  by_cases hp : p = []
  · subst hp
    rw [if_pos List.isEmpty_nil, hs]
    exact .inl (mem_places_append [] o.before o.after)
  · rw [if_neg (by simpa using hp)]
    have hfrom : MetBy p (occurrencesFrom p (s.length + 1) [] s) ⟨[] ++ o.before, o.after⟩ :=
      metBy_occurrencesFrom hp (Nat.lt_succ_self _) hs
    exact hfrom

/-! ## Words that stand alone -/

/-- A word occurs at a place, with no part of a name right before it or right after it. -/
structure StandsAlone (word s : List Char) (o : Occurrence) : Prop where
  text_eq : s = o.before ++ word ++ o.after
  before : ∀ c ∈ o.before.getLast?, isNamePart c = false
  after : ∀ c ∈ o.after.head?, isNamePart c = false

theorem endsInName_eq_false_iff : endsInName s = false ↔ ∀ c ∈ s.getLast?, isNamePart c = false := by
  cases h : s.getLast? <;> simp [endsInName, h]

theorem startsInName_eq_false_iff : startsInName s = false ↔ ∀ c ∈ s.head?, isNamePart c = false := by
  cases h : s.head? <;> simp [startsInName, h]

/-- **A word is found if it stands alone at a place that is looked at.** -/
theorem hasWord_iff : hasWord word s = true ↔ ∃ o ∈ occurrences word s, StandsAlone word s o := by
  rw [hasWord, List.any_eq_true]
  refine exists_congr fun o => and_congr_right fun ho => ?_
  rw [Bool.and_eq_true, Bool.not_eq_true', Bool.not_eq_true', endsInName_eq_false_iff,
    startsInName_eq_false_iff]
  constructor
  · rintro ⟨hbefore, hafter⟩
    exact ⟨eq_of_mem_occurrences ho, hbefore, hafter⟩
  · intro h
    exact ⟨h.before, h.after⟩

/-- Whether a word begins again inside itself, right behind a character that is no part of a name. -/
def Restarts (word : List Char) : Prop :=
  ∃ u c v, word = u ++ c :: v ∧ isNamePart c = false ∧ v ≠ [] ∧ v <+: word

/-- A word that stands alone within an occurrence of its own restarts there. -/
theorem restarts_of_overlap (h : StandsAlone word s o) (hs : s = o'.before ++ word ++ o'.after)
    (hlt : o'.before.length < o.before.length)
    (hin : o.before.length < o'.before.length + word.length) : Restarts word := by
  have hboth : o.before ++ (word ++ o.after) = o'.before ++ (word ++ o'.after) := by
    rw [← List.append_assoc, ← List.append_assoc, ← hs, ← h.text_eq]
  obtain ⟨z, hz, hword⟩ := Pattern.exists_append_of_le hboth (Nat.le_of_lt hlt)
  rw [hz, List.length_append] at hlt hin
  obtain ⟨v, hsplit, hv⟩ := Pattern.exists_append_of_le hword.symm (by omega)
  have hlength := congrArg List.length hsplit
  rw [List.length_append] at hlength
  -- the word begins again behind the last character of `z`
  have hne : z ≠ [] := List.length_pos_iff.mp (by omega)
  have hlast := List.dropLast_concat_getLast hne
  refine ⟨z.dropLast, z.getLast hne, v, ?_, ?_, ?_, ?_⟩
  · rw [hsplit, ← List.singleton_append, ← List.append_assoc, hlast]
  · refine h.before _ ?_
    rw [hz, List.getLast?_append_of_ne_nil _ hne, List.getLast?_eq_some_getLast hne]
    rfl
  · exact List.length_pos_iff.mp (by omega)
  · exact List.prefix_of_prefix_length_le ⟨o'.after, hv⟩ (List.prefix_append word o.after) (by omega)

/-- A word that does not restart is found exactly where it stands alone. -/
theorem hasWord_iff_exists (hword : ¬Restarts word) :
    hasWord word s = true ↔ ∃ o, StandsAlone word s o := by
  rw [hasWord_iff]
  constructor
  · rintro ⟨o, -, ho⟩
    exact ⟨o, ho⟩
  · rintro ⟨o, ho⟩
    rcases metBy_occurrences ho.text_eq with hmem | ⟨o', hmem, hlt, hin⟩
    · exact ⟨o, hmem, ho⟩
    · exact absurd (restarts_of_overlap ho (eq_of_mem_occurrences hmem) hlt hin) hword

/-! ## Words that restart are missed -/

/-- Behind a character that does not begin the word, and too near to the end to occur again, it is looked at
once. -/
theorem occurrences_eq_singleton (hx : word.head? ≠ some x) (ht : t.length < word.length) :
    occurrences word (x :: (word ++ t)) = [⟨[x], t⟩] := by
  have hne : word ≠ [] := List.length_pos_iff.mp (by omega)
  have hcut : cut? word (x :: (word ++ t)) = some ([x], t) := by
    refine cut?_eq_some_iff.mpr ⟨rfl, fun a b hs => List.length_pos_iff.mpr fun hnil => ?_⟩
    -- the word would begin with that character
    obtain ⟨c, rest, rfl⟩ := List.exists_cons_of_ne_nil hne
    rw [hnil] at hs
    exact hx (congrArg some (List.cons.inj hs).1.symm)
  have hrest : cut? word t = none := by
    refine cut?_eq_none_iff.mpr fun hin => ?_
    have := hin.length_le
    omega
  rw [occurrences, if_neg (by simpa using hne), List.length_cons, occurrencesFrom, hcut]
  dsimp only
  rw [List.length_append, ← Nat.succ_pred_eq_of_pos (List.length_pos_iff.mpr hne), Nat.succ_add,
    occurrencesFrom, hrest]
  rfl

/-- There is a part of a name that does not begin a word. -/
theorem exists_namePart (word : List Char) : ∃ x, isNamePart x = true ∧ word.head? ≠ some x := by
  by_cases h : word.head? = some 'a'
  · exact ⟨'b', by decide, by simp [h]⟩
  · exact ⟨'a', by decide, h⟩

/-- **A word that restarts is missed in some text**: where a part of a name touches it and it begins again. -/
theorem Restarts.exists_missed (h : Restarts word) :
    ∃ s o, StandsAlone word s o ∧ hasWord word s = false := by
  obtain ⟨u, c, v, hword, hc, hv, t, ht⟩ := h
  obtain ⟨x, hx, hhead⟩ := exists_namePart word
  have hlength := congrArg List.length ht
  have hpos := List.length_pos_iff.mpr hv
  rw [List.length_append] at hlength
  have hagain : word ++ t = u ++ c :: word := by
    calc word ++ t = (u ++ c :: v) ++ t := by rw [← hword]
      _ = u ++ c :: (v ++ t) := by simp
      _ = u ++ c :: word := by rw [ht]
  refine ⟨x :: (word ++ t), ⟨x :: (u ++ [c]), []⟩, ⟨?_, ?_, ?_⟩, ?_⟩
  · rw [hagain]
    simp
  · intro d hd
    rw [← List.cons_append, List.getLast?_concat] at hd
    obtain rfl := Option.some.inj hd
    exact hc
  · simp
  · rw [hasWord, occurrences_eq_singleton hhead (by omega)]
    simp [endsInName, hx]

/-- **What is found stands alone; and a word is found in every text where it stands alone exactly if it does
not restart.** -/
theorem hasWord_iff_standsAlone (word : List Char) :
    (∀ s, hasWord word s = true → ∃ o, StandsAlone word s o) ∧
      ((∀ s, (∃ o, StandsAlone word s o) → hasWord word s = true) ↔ ¬Restarts word) := by
  constructor
  · intro s h
    obtain ⟨o, -, ho⟩ := hasWord_iff.mp h
    exact ⟨o, ho⟩
  · constructor
    · intro hall hrestarts
      obtain ⟨s, o, ho, hmissed⟩ := hrestarts.exists_missed
      rw [hall s ⟨o, ho⟩] at hmissed
      cases hmissed
    · intro hword s
      exact (hasWord_iff_exists hword).mpr

/-- A word is missed that stands alone at the end, because a name touches the one that it begins within. -/
theorem not_hasWord_repeated :
    StandsAlone "TBD TBD".toList "MTBD TBD TBD".toList ⟨"MTBD ".toList, []⟩ ∧
      hasWord "TBD TBD".toList "MTBD TBD TBD".toList = false :=
  ⟨⟨by decide, endsInName_eq_false_iff.mp (by decide), startsInName_eq_false_iff.mp (by decide)⟩, by decide⟩

/-! ## Names and declarations -/

theorem not_restarts_of_name (h : ∀ c ∈ word, isNamePart c = true) : ¬Restarts word := by
  rintro ⟨u, c, v, rfl, hc, -, -⟩
  rw [h c (by simp)] at hc
  cases hc

/-- **A keyword with a name behind it restarts exactly if the keyword begins with that name.** -/
theorem restarts_declaration_iff (hkeyword : ∀ c ∈ keyword, isNamePart c = true)
    (hname : ∀ c ∈ name, isNamePart c = true) :
    Restarts (keyword ++ ' ' :: name) ↔ name ≠ [] ∧ name <+: keyword := by
  constructor
  · rintro ⟨u, c, v, hsplit, hc, hv, hpre⟩
    have hout {w : List Char} (h : ∀ c ∈ w, isNamePart c = true) : c ∉ w := by
      intro hin
      rw [h c hin] at hc
      cases hc
    obtain ⟨rfl, rfl, rfl⟩ := (List.append_cons_inj_of_notMem (hout hkeyword) (hout hname)).mp hsplit
    refine ⟨hv, List.prefix_of_prefix_length_le hpre (List.prefix_append keyword _) ?_⟩
    -- a longer name would have the blank in it
    refine Nat.le_of_not_lt fun hlt => hout hname ?_
    have hblank : keyword ++ [' '] <+: keyword ++ ' ' :: name := ⟨name, by simp⟩
    have hin := List.prefix_of_prefix_length_le hblank hpre (by simpa using Nat.succ_le_of_lt hlt)
    exact hin.subset (by simp)
  · rintro ⟨hne, hpre⟩
    exact ⟨keyword, ' ', name, rfl, by decide, hne, hpre.trans (List.prefix_append keyword _)⟩

end AppMend.Text

namespace AppMend.Check

open Text

variable {line marker s keyword : List Char} {name : String}

/-! ## Markers and definitions -/

/-- The words that a definition begins with. -/
def definers : List (List Char) := ["function".toList, "const".toList, "let".toList, "var".toList]

theorem isNamePart_of_mem_definers (hkeyword : keyword ∈ definers) : ∀ c ∈ keyword, isNamePart c = true := by
  have hall : definers.all (·.all isNamePart) = true := by decide
  exact List.all_eq_true.mp (List.all_eq_true.mp hall keyword hkeyword)

theorem definesName_eq (s : List Char) (name : String) :
    definesName s name = definers.any fun keyword => hasWord (keyword ++ ' ' :: name.toList) s := by
  simp only [definesName, definers, List.any_cons, List.any_nil, String.toList_append]
  rfl

/-- **A name is defined where one of the words stands with it**, if none of them begins with that name. -/
theorem definesName_iff (hname : ∀ c ∈ name.toList, isNamePart c = true)
    (hdefiners : ∀ keyword ∈ definers, ¬name.toList <+: keyword) :
    definesName s name = true ↔ ∃ keyword ∈ definers, ∃ o, StandsAlone (keyword ++ ' ' :: name.toList) s o := by
  rw [definesName_eq, List.any_eq_true]
  refine exists_congr fun keyword => and_congr_right fun hk => hasWord_iff_exists fun h => ?_
  exact hdefiners keyword hk
    ((restarts_declaration_iff (isNamePart_of_mem_definers hk) hname).mp h).2

/-- **A line shows a marker in capitals where the marker stands alone**, if it could be a name. -/
theorem showsMarker_iff (hcapital : isCapitalMarker marker = true)
    (hname : ∀ c ∈ marker, isNamePart c = true) :
    showsMarker line marker = true ↔ ∃ o, StandsAlone marker line o := by
  have hne : marker ≠ [] := by
    rintro rfl
    cases hcapital
  rw [showsMarker, if_neg (by simpa using hne), if_pos hcapital]
  exact hasWord_iff_exists (not_restarts_of_name hname)

end AppMend.Check
