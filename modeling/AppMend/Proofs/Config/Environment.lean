import AppMend.Config.Environment
import Mathlib.Data.List.Induction
import Mathlib.Data.Nat.Digits.Defs

/-!
# What the environment says of settings

A variable says something to its setting if its word can be read, and a word that cannot is passed over
(`Sets`). Which words can be read is told without the readers: the names of a choice in either case
(`Named`), and numbers below a bound in decimal digits (`Numeral`).

The setting for the sandbox is the exception. Each word that does not allow something forbids it, so a word that
says nothing takes back what was allowed before (`overridden`).
-/

namespace AppMend.Config

variable {α : Type} {env : Environment} {c : Config} {name word : String} {bound n : Nat} {before v : α}
  {s : List Char} {ds : List Nat}

/-! ## Words -/

/-- A word names a choice, in capitals or not. -/
def Named (cs : Choices α) (word : String) (v : α) : Prop := ∃ names, (names, v) ∈ cs ∧ lowerAscii word ∈ names

/-- No name stands for two choices. -/
def Distinct (cs : Choices α) : Prop :=
  cs.Pairwise fun a b => ∀ name ∈ a.1, name ∉ b.1

theorem find?_names_iff {cs : Choices α} (hcs : Distinct cs) :
    (cs.find? fun c => c.1.contains name).map (·.2) = some v ↔ ∃ names, (names, v) ∈ cs ∧ name ∈ names := by
  induction cs with
  | nil => simp
  | cons a cs ih =>
      obtain ⟨ha, hcs⟩ := List.pairwise_cons.mp hcs
      by_cases hname : name ∈ a.1
      · rw [List.find?_cons_of_pos (by simpa using hname)]
        constructor
        · intro h
          exact ⟨a.1, by simp [← Option.some.inj h], hname⟩
        · rintro ⟨names, hmem, hnames⟩
          rcases List.mem_cons.mp hmem with rfl | hmem
          · rfl
          · -- no later choice has the name
            exact absurd hnames (ha _ hmem _ hname)
      · rw [List.find?_cons_of_neg (by simpa using hname), ih hcs]
        refine exists_congr fun names => and_congr_left fun hnames => ?_
        rw [List.mem_cons, or_iff_right]
        rintro rfl
        exact hname hnames

/-- **A word is read as the choice that it names.** -/
theorem parse_eq_ok_iff {what : String} {cs : Choices α} (hcs : Distinct cs) :
    (cs.parse what word).toOption = some v ↔ Named cs word v := by
  rw [Named, ← find?_names_iff hcs, Choices.parse]
  cases cs.find? fun c => c.1.contains (lowerAscii word) <;> rfl

/-- A number below a bound in decimal digits, with or without a plus. -/
inductive Numeral (bound : Nat) (word : String) : Nat → Prop where
  | mk {ds : List Nat} {sign : List Char} : sign = [] ∨ sign = ['+'] → ds ≠ [] → (∀ d ∈ ds, d < 10) →
      word.toList = sign ++ ds.map Nat.digitChar → Nat.ofDigits 10 ds.reverse < bound →
      Numeral bound word (Nat.ofDigits 10 ds.reverse)

theorem isDigit_iff {x : Char} : x.isDigit = true ↔ 48 ≤ x.toNat ∧ x.toNat ≤ 57 := by
  simp only [Char.isDigit, Bool.and_eq_true, decide_eq_true_eq, ge_iff_le, UInt32.le_iff_toNat_le, Char.toNat]
  exact Iff.rfl

/-- Decimal digits stand for their number. -/
theorem foldl_digits (h : ∀ d ∈ ds, d < 10) :
    (ds.map Nat.digitChar).foldl (fun n x => n * 10 + (x.toNat - 48)) 0 = Nat.ofDigits 10 ds.reverse := by
  induction ds using List.reverseRecOn with
  | nil => rfl
  | append_singleton ds d ih =>
      have hd : d < 10 := h d (by simp)
      rw [List.map_append, List.foldl_append, ih fun e he => h e (List.mem_append_left _ he),
        List.reverse_append, List.reverse_singleton, List.singleton_append, Nat.ofDigits_cons, List.map_singleton,
        List.foldl_cons, List.foldl_nil, Nat.toNat_digitChar_of_lt_ten hd]
      omega

theorem isDigit_digitChar {d : Nat} (h : d < 10) : (Nat.digitChar d).isDigit = true := by
  rw [isDigit_iff, Nat.toNat_digitChar_of_lt_ten h]
  omega

/-- Characters that are digits are the digits of a number. -/
theorem exists_digits (h : s.all Char.isDigit = true) :
    ∃ ds : List Nat, (∀ d ∈ ds, d < 10) ∧ s = ds.map Nat.digitChar := by
  have hs (x : Char) (hx : x ∈ s) : 48 ≤ x.toNat ∧ x.toNat ≤ 57 := isDigit_iff.mp (List.all_eq_true.mp h x hx)
  refine ⟨s.map fun x => x.toNat - 48, List.forall_mem_map.mpr fun x hx => ?_, ?_⟩
  · have := hs x hx
    omega
  · rw [List.map_map]
    conv => lhs; rw [← List.map_id s]
    refine List.map_congr_left fun x hx => Char.toNat_inj.mp ?_
    have := hs x hx
    show x.toNat = (Nat.digitChar (x.toNat - 48)).toNat
    rw [Nat.toNat_digitChar_of_lt_ten (by omega)]
    omega

/-- **A word is read as the number that it writes.** -/
theorem readNat?_eq_some_iff : readNat? bound word = some n ↔ Numeral bound word n := by
  constructor
  · intro h
    obtain ⟨sign, s, hsign, hword, hread⟩ : ∃ sign s, (sign = [] ∨ sign = ['+']) ∧ word.toList = sign ++ s ∧
        (if s.isEmpty ∨ !s.all Char.isDigit then none else
          if s.foldl (fun n x => n * 10 + (x.toNat - 48)) 0 < bound then
            some (s.foldl (fun n x => n * 10 + (x.toNat - 48)) 0) else none) = some n := by
      unfold readNat? at h
      dsimp only at h
      split at h
      · rename_i s hword
        exact ⟨['+'], s, .inr rfl, hword, h⟩
      · exact ⟨[], _, .inl rfl, rfl, h⟩
    split at hread
    · cases hread
    · rename_i hdigits
      obtain ⟨hne, hall⟩ := not_or.mp hdigits
      obtain ⟨ds, hds, rfl⟩ := exists_digits (by simpa using hall)
      rw [foldl_digits hds] at hread
      split at hread
      · rename_i hbound
        cases hread
        exact .mk hsign (by simpa using hne) hds hword hbound
      · cases hread
  · rintro ⟨hsign, hne, hds, hword, hbound⟩
    rename_i ds sign
    have hall : (ds.map Nat.digitChar).all Char.isDigit = true :=
      List.all_eq_true.mpr (List.forall_mem_map.mpr fun d hd => isDigit_digitChar (hds d hd))
    have hread (s : List Char) (hs : s = ds.map Nat.digitChar) :
        (if s.isEmpty ∨ !s.all Char.isDigit then none else
          if s.foldl (fun n x => n * 10 + (x.toNat - 48)) 0 < bound then
            some (s.foldl (fun n x => n * 10 + (x.toNat - 48)) 0) else none) =
          some (Nat.ofDigits 10 ds.reverse) := by
      rw [hs, foldl_digits hds, hall, if_neg (by simpa using hne), if_pos hbound]
    unfold readNat?
    dsimp only
    split
    · rename_i s hplus
      refine hread s ?_
      rcases hsign with rfl | rfl
      · -- a plus is no digit
        obtain ⟨d, ds, rfl⟩ := List.exists_cons_of_ne_nil hne
        have hd := isDigit_digitChar (hds d List.mem_cons_self)
        rw [(List.cons.inj (hword.symm.trans hplus)).1] at hd
        cases hd
      · exact (List.cons.inj (hplus.symm.trans hword)).2
    · rename_i hplus
      rcases hsign with rfl | rfl
      · exact hread _ hword
      · exact absurd hword (hplus _)

/-- A word that allows something, or one that forbids it. -/
inductive Switches (word : String) : Bool → Prop where
  | yes : word ∈ ["1", "true", "yes"] → Switches word true
  | no : word ∈ ["0", "false", "no"] → Switches word false

/-! ## Variables -/

/-- A variable sets a value if its word says one, and else the value stays. -/
inductive Sets (env : Environment) (name : String) (Says : String → α → Prop) (before : α) : α → Prop where
  | said {word : String} {v : α} : env name = some word → Says word v → Sets env name Says before v
  | kept : (∀ word v, env name = some word → ¬Says word v) → Sets env name Says before before

variable {Says : String → α → Prop}

theorem sets_iff_of_silent {after : α} (h : ∀ word v, env name = some word → ¬Says word v) :
    Sets env name Says before after ↔ after = before := by
  constructor
  · intro hsets
    cases hsets with
    | said henv hsays => exact absurd hsays (h _ _ henv)
    | kept => rfl
  · rintro rfl
    exact .kept h

/-- A variable whose word is read as what it says sets that. -/
theorem sets_of_reads {read : String → Option α} (hread : ∀ word v, read word = some v ↔ Says word v)
    (env : Environment) (name : String) (before : α) :
    Sets env name Says before (((env name).bind read).getD before) := by
  cases henv : env name with
  | none => exact .kept fun word v h => nomatch henv.symm.trans h
  | some word =>
      cases hword : read word with
      | none =>
          rw [Option.bind_some, hword]
          refine .kept fun word' v h hsays => ?_
          cases henv.symm.trans h
          rw [(hread _ _).mpr hsays] at hword
          cases hword
      | some v =>
          rw [Option.bind_some, hword]
          exact .said henv ((hread word v).mp hword)

theorem sets_numberFrom (env : Environment) (name : String) (bound before : Nat) :
    Sets env name (Numeral bound) before (numberFrom env name bound before) :=
  sets_of_reads (fun _ _ => readNat?_eq_some_iff) env name before

theorem sets_choiceFrom {what : String} (cs : Choices α) (hcs : Distinct cs) (env : Environment) (name : String)
    (before : α) : Sets env name (Named cs) before (choiceFrom env name (cs.parse what) before) :=
  sets_of_reads (fun _ _ => parse_eq_ok_iff hcs) env name before

/-- Any word is said of a text. -/
theorem sets_or (env : Environment) (name : String) (before : Option String) :
    Sets env name (fun word v => v = some word) before ((env name).or before) := by
  cases henv : env name with
  | none => exact .kept fun word v h => nomatch henv.symm.trans h
  | some word => exact .said henv rfl

/-! ## Settings -/

def analyzerNames : Choices Analyzer :=
  [(["ast", "tree-sitter", "tree_sitter"], .ast), (["heuristic", "regex"], .heuristic)]

def modeNames : Choices RunMode :=
  [(["fail_fast", "fail-fast", "failfast"], .failFast), (["comprehensive", "all"], .comprehensive)]

def strategyNames : Choices BundleStrategy :=
  [(["script"], .script), (["file_map", "file-map", "filemap"], .fileMap)]

/-- What the environment makes of settings, but for the sandbox. -/
structure Overridden (env : Environment) (c d : Config) : Prop where
  analyzer : Sets env "PREVIEW_ANALYZER" (Named analyzerNames) c.analyzer d.analyzer
  mode : Sets env "PREVIEW_MODE" (Named modeNames) c.mode d.mode
  entry : Sets env "PREVIEW_ENTRY" (fun word v => v = some word) c.entry d.entry
  strategy : Sets env "PREVIEW_BUNDLE_STRATEGY" (Named strategyNames) c.bundle.strategy d.bundle.strategy
  navigation : Sets env "PREVIEW_NAVIGATION_TIMEOUT_MS" (Numeral (2 ^ 64)) c.preview.navigationTimeoutMs
    d.preview.navigationTimeoutMs
  settle : Sets env "PREVIEW_SETTLE_MS" (Numeral (2 ^ 64)) c.preview.settleMs d.preview.settleMs
  chrome : Sets env "PREVIEW_CHROME" (fun word v => v = some word) c.preview.chromeExecutable
    d.preview.chromeExecutable
  attempts : Sets env "PREVIEW_MAX_ATTEMPTS" (Numeral (2 ^ 32)) c.heal.maxAttempts d.heal.maxAttempts
  regeneration : Sets env "PREVIEW_REGENERATION_TIMEOUT_MS" (Numeral (2 ^ 64)) c.heal.regenerationTimeoutMs
    d.heal.regenerationTimeoutMs
  /-- What no variable can set stays. -/
  others : d = { c with
    analyzer := d.analyzer
    mode := d.mode
    entry := d.entry
    bundle.strategy := d.bundle.strategy
    preview.navigationTimeoutMs := d.preview.navigationTimeoutMs
    preview.settleMs := d.preview.settleMs
    preview.chromeExecutable := d.preview.chromeExecutable
    preview.noSandbox := d.preview.noSandbox
    heal.maxAttempts := d.heal.maxAttempts
    heal.regenerationTimeoutMs := d.heal.regenerationTimeoutMs }

theorem overridden_withEnvironment (env : Environment) (c : Config) :
    Overridden env c (c.withEnvironment env) where
  analyzer := sets_choiceFrom analyzerNames (by unfold Distinct; decide) env _ _
  mode := sets_choiceFrom modeNames (by unfold Distinct; decide) env _ _
  entry := sets_or env _ _
  strategy := sets_choiceFrom strategyNames (by unfold Distinct; decide) env _ _
  navigation := sets_numberFrom env _ _ _
  settle := sets_numberFrom env _ _ _
  chrome := sets_or env _ _
  attempts := sets_numberFrom env _ _ _
  regeneration := sets_numberFrom env _ _ _
  others := rfl

/-- What is set a second time is set already. -/
theorem getD_getD (x : Option α) (before : α) : x.getD (x.getD before) = x.getD before := by
  cases x <;> rfl

/-- **To hear the environment twice is to hear it once.** -/
theorem withEnvironment_withEnvironment (env : Environment) (c : Config) :
    (c.withEnvironment env).withEnvironment env = c.withEnvironment env := by
  have hor (x before : Option String) : x.or (x.or before) = x.or before := by cases x <;> rfl
  simp only [withEnvironment, choiceFrom, numberFrom, getD_getD, hor]

/-! ## The sandbox -/

theorem isYes_of_switches {b : Bool} (h : Switches word b) : isYes word = b := by
  cases h with
  | yes h => exact List.contains_iff_mem.mpr h
  | no h =>
      simp only [List.mem_cons, List.not_mem_nil, or_false] at h
      rcases h with rfl | rfl | rfl <;> rfl

theorem switches_of_isYes (h : isYes word = true) : Switches word true := .yes (List.contains_iff_mem.mp h)

/-- The variable for the sandbox takes something back that its word does not speak of. -/
def TakesBack (env : Environment) (c : Config) : Prop :=
  c.preview.noSandbox = true ∧ ∃ word, env "PREVIEW_NO_SANDBOX" = some word ∧ ∀ b, ¬Switches word b

theorem noSandbox_eq (env : Environment) (c : Config) : (c.withEnvironment env).preview.noSandbox =
    ((env "PREVIEW_NO_SANDBOX").map isYes).getD c.preview.noSandbox := rfl

/-- **A word that says nothing of the sandbox forbids to go without it.** -/
theorem noSandbox_of_silent (henv : env "PREVIEW_NO_SANDBOX" = some word) (h : ∀ b, ¬Switches word b)
    (c : Config) : (c.withEnvironment env).preview.noSandbox = false := by
  rw [noSandbox_eq, henv]
  exact Bool.eq_false_iff.mpr fun hyes => h true (switches_of_isYes hyes)

theorem sets_noSandbox_iff (env : Environment) (c : Config) :
    Sets env "PREVIEW_NO_SANDBOX" Switches c.preview.noSandbox (c.withEnvironment env).preview.noSandbox ↔
      ¬TakesBack env c := by
  cases henv : env "PREVIEW_NO_SANDBOX" with
  | none =>
      have hkept : ∀ word v, env "PREVIEW_NO_SANDBOX" = some word → ¬Switches word v := by
        intro word v h
        cases henv.symm.trans h
      rw [sets_iff_of_silent hkept, noSandbox_eq, henv, TakesBack, henv]
      simp
  -- a word that says nothing is read as a no, and so it takes back what the file said
  | some word =>
      by_cases hsays : ∃ b, Switches word b
      · obtain ⟨b, hb⟩ := hsays
        have hnot : ¬TakesBack env c := by
          rintro ⟨-, word', henv', hsilent⟩
          cases henv.symm.trans henv'
          exact hsilent b hb
        rw [noSandbox_eq, henv, Option.map_some, Option.getD_some, isYes_of_switches hb]
        exact iff_of_true (.said henv hb) hnot
      · have hsilent : ∀ b, ¬Switches word b := fun b hb => hsays ⟨b, hb⟩
        have hkept : ∀ word' v, env "PREVIEW_NO_SANDBOX" = some word' → ¬Switches word' v := by
          intro word' v h
          cases henv.symm.trans h
          exact hsilent v
        rw [sets_iff_of_silent hkept, noSandbox_of_silent henv hsilent]
        have htakes : TakesBack env c ↔ c.preview.noSandbox = true :=
          ⟨And.left, fun h => ⟨h, word, henv, hsilent⟩⟩
        rw [htakes]
        cases c.preview.noSandbox <;> simp

/-! ## What the environment says -/

/-- **Each variable sets its own setting to what its word says, and a word that says nothing leaves it.** For
the sandbox this holds exactly if nothing is taken back. What no variable can set stays, and to hear the
environment a second time changes nothing. -/
theorem overridden (env : Environment) (c : Config) :
    Overridden env c (c.withEnvironment env) ∧
      (Sets env "PREVIEW_NO_SANDBOX" Switches c.preview.noSandbox (c.withEnvironment env).preview.noSandbox ↔
        ¬TakesBack env c) ∧
      (c.withEnvironment env).withEnvironment env = c.withEnvironment env :=
  ⟨overridden_withEnvironment env c, sets_noSandbox_iff env c, withEnvironment_withEnvironment env c⟩

/-- A word that says nothing takes back that the sandbox was off. -/
theorem not_sets_noSandbox_maybe :
    let env : Environment := fun name => if name = "PREVIEW_NO_SANDBOX" then some "maybe" else none
    let c : Config := { preview.noSandbox := true }
    (∀ b, ¬Switches "maybe" b) ∧ (c.withEnvironment env).preview.noSandbox = false ∧
      ¬Sets env "PREVIEW_NO_SANDBOX" Switches c.preview.noSandbox (c.withEnvironment env).preview.noSandbox := by
  intro env c
  have hsilent : ∀ b, ¬Switches "maybe" b := fun b h => by cases h <;> contradiction
  refine ⟨hsilent, rfl, fun h => (sets_noSandbox_iff env c).mp h ?_⟩
  exact ⟨rfl, "maybe", rfl, hsilent⟩

end AppMend.Config
