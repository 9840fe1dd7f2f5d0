import AppMend.Check.Structure

/-!
# The first faulty place of an outline

A parser flags the nodes of its tree that hold a fault, and a search for the first faulty place may leave
out what is not flagged. A flag that says of each node whether it is faulty or has a flagged child can say
one thing only (`Outline.Flags.eq_hasFault`), so nothing that is left out is missed: such a search finds the
first faulty node in the order of the text (`Outline.firstFlagged?_eq_find?`).

So the findings on the structure of a file are none exactly if its outline has no faulty place. If the line
scanners do not tell what is wrong, the one finding is on the first of them (`Check.faults_reported`).
-/

namespace AppMend

namespace Outline

variable {flag : Outline → Bool} {t c n : Outline} {ts cs : List Outline}

/-! ## The nodes of an outline -/

theorem mem_preorderOf : n ∈ preorderOf ts ↔ ∃ t ∈ ts, n ∈ t.preorder := by
  induction ts with
  | nil => simp [preorderOf]
  | cons t ts ih => simp [preorderOf, ih]

theorem preorder_eq (t : Outline) : t.preorder = t :: preorderOf t.children := by
  cases t
  rw [preorder]
  rfl

theorem mem_preorder_self (t : Outline) : t ∈ t.preorder := by
  rw [preorder_eq]
  exact List.mem_cons_self

theorem mem_preorder_of_child (hc : c ∈ t.children) (hn : n ∈ c.preorder) : n ∈ t.preorder := by
  rw [preorder_eq]
  exact List.mem_cons_of_mem _ (mem_preorderOf.mpr ⟨c, hc, hn⟩)

/-! ## Faults -/

theorem isFaulty_node {k : NodeKind} {s : NodeStatus} {i : Nat} {x : String} :
    (node k s i x cs).isFaulty = (s != .sound) := rfl

mutual

/-- **The first fault is the first faulty node**, a node before those below it. -/
theorem firstFault?_eq_find? : ∀ t : Outline, t.firstFault? = t.preorder.find? isFaulty
  | node k s i x cs => by
      rw [firstFault?, preorder, List.find?_cons, isFaulty_node]
      cases hs : s != .sound with
      | true => rfl
      | false => exact firstFaultOf?_eq_find? cs

theorem firstFaultOf?_eq_find? : ∀ ts : List Outline, firstFaultOf? ts = (preorderOf ts).find? isFaulty
  | [] => rfl
  | t :: ts => by
      rw [firstFaultOf?, preorderOf, List.find?_append, firstFault?_eq_find? t, firstFaultOf?_eq_find? ts]
      cases t.preorder.find? isFaulty <;> rfl

end

mutual

theorem hasFault_eq_any : ∀ t : Outline, t.hasFault = t.preorder.any isFaulty
  | node k s i x cs => by
      rw [hasFault, preorder, List.any_cons, isFaulty_node, anyHasFault_eq_any cs]

theorem anyHasFault_eq_any : ∀ ts : List Outline, anyHasFault ts = (preorderOf ts).any isFaulty
  | [] => rfl
  | t :: ts => by
      rw [anyHasFault, preorderOf, List.any_append, hasFault_eq_any t, anyHasFault_eq_any ts]

end

/-- An outline has a fault if and only if one of its nodes is faulty. -/
theorem hasFault_iff : t.hasFault = true ↔ ∃ n ∈ t.preorder, n.isFaulty = true := by
  rw [hasFault_eq_any, List.any_eq_true]

/-! ## Flags -/

/-- A flag that is set at a node of the outline exactly if the node is faulty or one of its children is
flagged. -/
def Flags (flag : Outline → Bool) (t : Outline) : Prop :=
  ∀ n ∈ t.preorder, flag n = true ↔ n.isFaulty = true ∨ ∃ c ∈ n.children, flag c = true

theorem Flags.of_child (h : Flags flag t) (hc : c ∈ t.children) : Flags flag c :=
  fun n hn => h n (mem_preorder_of_child hc hn)

mutual

/-- **There is one such flag only**: it tells whether an outline has a fault. -/
theorem Flags.eq_hasFault : ∀ {t : Outline}, Flags flag t → flag t = t.hasFault
  | node k s i x cs, h => by
      have hnode := h _ (mem_preorder_self _)
      have hbelow : anyHasFault cs = true ↔ ∃ c ∈ cs, flag c = true :=
        eq_anyHasFault fun c hc => h.of_child hc
      rw [Bool.eq_iff_iff, hnode, hasFault, Bool.or_eq_true, hbelow, isFaulty_node]
      rfl

theorem eq_anyHasFault : ∀ {ts : List Outline}, (∀ t ∈ ts, Flags flag t) →
    (anyHasFault ts = true ↔ ∃ t ∈ ts, flag t = true)
  | [], _ => by simp [anyHasFault]
  | t :: ts, h => by
      have hfirst := (h t List.mem_cons_self).eq_hasFault
      have hrest := eq_anyHasFault fun u hu => h u (List.mem_cons_of_mem _ hu)
      rw [anyHasFault, Bool.or_eq_true, hrest, ← hfirst]
      simp

end

mutual

/-- The first faulty node, sought below flagged nodes only. -/
def firstFlagged? (flag : Outline → Bool) : Outline → Option Outline
  | node k s i x cs =>
    if s != .sound then some (node k s i x cs)
    else if flag (node k s i x cs) then firstFlaggedOf? flag cs
    else none

def firstFlaggedOf? (flag : Outline → Bool) : List Outline → Option Outline
  | [] => none
  | t :: ts =>
    match firstFlagged? flag t with
    | some n => some n
    | none => firstFlaggedOf? flag ts

end

mutual

theorem firstFlagged?_eq_firstFault? : ∀ {t : Outline}, Flags flag t → firstFlagged? flag t = t.firstFault?
  | node k s i x cs, h => by
      have hbelow : firstFlaggedOf? flag cs = firstFaultOf? cs :=
        firstFlaggedOf?_eq fun c hc => h.of_child hc
      have hflag := h.eq_hasFault
      rw [firstFlagged?, firstFault?, hbelow]
      split
      · rfl
      · split
        · rfl
        · -- what is not flagged has no faulty node
          rename_i hs hclear
          rw [hflag, hasFault, Bool.or_eq_true, not_or] at hclear
          have hnone := hclear.2
          rw [anyHasFault_eq_any, List.any_eq_true] at hnone
          rw [firstFaultOf?_eq_find?]
          exact (List.find?_eq_none.mpr fun n hn hf => hnone ⟨n, hn, hf⟩).symm

theorem firstFlaggedOf?_eq : ∀ {ts : List Outline}, (∀ t ∈ ts, Flags flag t) →
    firstFlaggedOf? flag ts = firstFaultOf? ts
  | [], _ => rfl
  | t :: ts, h => by
      have hhead := firstFlagged?_eq_firstFault? (h t List.mem_cons_self)
      have htail := firstFlaggedOf?_eq fun u hu => h u (List.mem_cons_of_mem _ hu)
      rw [firstFlaggedOf?, firstFaultOf?, hhead]
      cases t.firstFault? with
      | none => exact htail
      | some n => rfl

end

/-- **A search that leaves out what is not flagged misses nothing.** -/
theorem firstFlagged?_eq_find? (h : Flags flag t) : firstFlagged? flag t = t.preorder.find? isFaulty := by
  rw [firstFlagged?_eq_firstFault? h, firstFault?_eq_find?]

end Outline

namespace Check

open Text Outline

variable {f : File} {tree place : Outline} {flag : Outline → Bool}

/-- The findings on the structure of a file whose outline comes with a flag. -/
def flaggedFindings (flag : Outline → Bool) (f : File) (tree : Outline) : List Finding :=
  if flag tree then
    match scannerFindings f with
    | [] => (firstFlagged? flag tree).toList.map (faultFinding f)
    | found => found
  else []

theorem flaggedFindings_eq (h : Flags flag tree) : flaggedFindings flag f tree = structureFindings f tree := by
  have hfirst := firstFlagged?_eq_firstFault? h
  unfold flaggedFindings structureFindings
  rw [h.eq_hasFault]
  cases scannerFindings f with
  | nil => simp only [hfirst]
  | cons => rfl

/-- There are no findings if and only if no node is faulty. -/
theorem structureFindings_eq_nil_iff :
    structureFindings f tree = [] ↔ ∀ n ∈ tree.preorder, n.isFaulty = false := by
  have hclear : tree.hasFault = false ↔ ∀ n ∈ tree.preorder, n.isFaulty = false := by
    rw [hasFault_eq_any, List.any_eq_false]
    simp
  rw [← hclear]
  unfold structureFindings
  cases hfault : tree.hasFault with
  | false => simp
  | true =>
      -- there is a first faulty node to report if the scanners report nothing
      obtain ⟨n, hn, hf⟩ := hasFault_iff.mp hfault
      have hplace : tree.firstFault? ≠ none := by
        rw [firstFault?_eq_find?]
        exact fun hnone => List.find?_eq_none.mp hnone n hn hf
      obtain ⟨place, hplace⟩ := Option.ne_none_iff_exists'.mp hplace
      cases hscan : scannerFindings f <;> simp [hplace]

/-- If the scanners find nothing, the first faulty node is reported. -/
theorem structureFindings_of_find? (hscan : scannerFindings f = [])
    (hplace : tree.preorder.find? isFaulty = some place) :
    structureFindings f tree = [faultFinding f place] := by
  have hfault : tree.hasFault = true :=
    hasFault_iff.mpr ⟨place, List.mem_of_find?_eq_some hplace, List.find?_some hplace⟩
  unfold structureFindings
  rw [if_pos hfault, hscan, firstFault?_eq_find?, hplace]
  rfl

/-- **The files that do not parse are reported, and no others.** Whatever flag a parser sets, as long as it
is set at a node exactly if the node is faulty or has a flagged child, the findings are the same, and there
are none exactly if no node is faulty. If the line scanners find nothing, there is one finding, on the line of
the first faulty node. -/
theorem faults_reported (f : File) (tree : Outline) (flag : Outline → Bool) (h : Flags flag tree) :
    flaggedFindings flag f tree = structureFindings f tree ∧
      (structureFindings f tree = [] ↔ ∀ n ∈ tree.preorder, n.isFaulty = false) ∧
      (scannerFindings f = [] → ∀ place, tree.preorder.find? isFaulty = some place →
        ∃ x, structureFindings f tree = [x] ∧ x.kind = .invalidJsx ∧ x.file = f.path ∧
          x.line = some (lineAt f.content.toList place.start)) :=
  ⟨flaggedFindings_eq h, structureFindings_eq_nil_iff, fun hscan place hplace =>
    ⟨faultFinding f place, structureFindings_of_find? hscan hplace, rfl, rfl, rfl⟩⟩

/-- An expression of which the right side is not there, on the second line, within an outline with a sound
element before it. -/
def halfExpression : Outline :=
  .sound .other 0 "" [
    .sound .selfClosingTag 10 "br" [],
    .sound .other 17 "" [.sound .name 17 "x" [], .node .other .missing 20 "identifier" [],
      .node .other .error 21 ";" []]]

/-- The missing side is reported, not the place behind it. -/
theorem faults_reported_missing :
    let f : File := ⟨"src/App.tsx", "const a = <br/>;\nx + ;", .tsx⟩
    Flags hasFault halfExpression ∧
      ∃ x, structureFindings f halfExpression = [x] ∧ x.kind = .invalidJsx ∧ x.file = "src/App.tsx" ∧
        x.line = some 2 := by
  intro f
  have hflags : Flags hasFault halfExpression := by
    unfold Flags
    decide
  have hscan : scannerFindings f = [] := by decide +kernel
  have hline : lineAt f.content.toList 20 = 2 := by decide
  obtain ⟨_, _, hone⟩ := faults_reported f halfExpression hasFault hflags
  obtain ⟨x, hx, hkind, hfile, hx'⟩ := hone hscan (.node .other .missing 20 "identifier" []) rfl
  exact ⟨hflags, x, hx, hkind, hfile, hx'.trans (congrArg some hline)⟩

end Check

end AppMend
