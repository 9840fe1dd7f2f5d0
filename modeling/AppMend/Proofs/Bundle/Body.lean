import AppMend.Bundle.Compile

/-!
# What a module asks the registry for

The body of a module in a registry asks for other modules where the module imports or passes on, and
nowhere else. So the requests of a body are those of its statements, in their order (`requests_ofCode`),
and the body hangs on what imports stand for only at its requests (`compileFile_congr`): whatever the text
asks the registry for is what one of the requests stands for.
-/

namespace AppMend.Bundle

open Script

variable {resolve resolve' : String → Resolution} {f : File} {body : ModuleBody} {path code : String}
  {i : Item} {items : List Item} {r : Gathering}

/-- What a statement of a plain module asks for. -/
def requested? (s : Stmt) : Option String :=
  match s.bare with
  | .imports clause => some (textOf clause.source.value)
  | .exportList _ (some source) | .exportAll _ source => some (textOf source.value)
  | _ => none

/-! ## Statements -/

theorem requests_getters {γ : Type} (name value : γ → String) (xs : List γ) (r : Gathering) :
    (xs.foldl (fun r x => r.getter (name x) (value x)) r).requests = r.requests := by
  induction xs generalizing r with
  | nil => rfl
  | cons x xs ih => exact ih _

theorem requests_byDefault (i : Item) (r : Gathering) (x : Option String) :
    (gatherItem.byDefault i r x).requests = r.requests := by
  cases x <;> rfl

/-- A statement adds its request to those before. -/
theorem requests_gatherItem (resolve : String → Resolution) (i : Item) (r : Gathering) :
    (gatherItem resolve i r).requests = r.requests ++ (requested? i.body).toList := by
  unfold gatherItem requested?
  cases i.body.bare with
  | imports clause =>
      dsimp only
      cases clause.specifiers <;> rfl
  | exportDeclaration d =>
      simp only [Gathering.edit, requests_getters, Option.toList_none, List.append_nil]
  | exportList names source =>
      cases source with
      | none => simp only [Gathering.edit, requests_getters, Option.toList_none, List.append_nil]
      | some source => simp only [Gathering.edit, requests_getters]; rfl
  | exportAll rename source => cases rename <;> rfl
  | exportDefaultFunction g =>
      show (gatherItem.byDefault i r g.name?).requests = _
      rw [requests_byDefault, Option.toList_none, List.append_nil]
  | exportDefaultClass c =>
      show (gatherItem.byDefault i r c.name?).requests = _
      rw [requests_byDefault, Option.toList_none, List.append_nil]
  | _ => simp [Gathering.edit]

/-- A statement hangs on what its request stands for. -/
theorem gatherItem_congr (h : ∀ name, requested? i.body = some name → resolve' name = resolve name)
    (r : Gathering) : gatherItem resolve' i r = gatherItem resolve i r := by
  unfold requested? at h
  unfold gatherItem
  cases hb : i.body.bare with
  | imports clause =>
      rw [hb] at h
      dsimp only
      rw [h _ rfl]
  | exportList names source =>
      cases source with
      | none => rfl
      | some source =>
          rw [hb] at h
          dsimp only
          rw [h _ rfl]
  | exportAll rename source =>
      rw [hb] at h
      dsimp only
      rw [h _ rfl]
  | _ => rfl

/-! ## Bodies -/

theorem requests_gather (resolve : String → Resolution) (items : List Item) (r : Gathering) :
    (items.foldl (fun r i => gatherItem resolve i r) r).requests =
      r.requests ++ items.filterMap fun i => requested? i.body := by
  induction items generalizing r with
  | nil => simp
  | cons i items ih =>
      rw [List.foldl_cons, ih, requests_gatherItem, List.append_assoc, List.filterMap_cons]
      cases requested? i.body <;> rfl

theorem gather_congr
    (h : ∀ name ∈ items.filterMap fun i => requested? i.body, resolve' name = resolve name)
    (r : Gathering) : items.foldl (fun r i => gatherItem resolve' i r) r =
      items.foldl (fun r i => gatherItem resolve i r) r := by
  induction items generalizing r with
  | nil => rfl
  | cons i items ih =>
      have hi : ∀ name, requested? i.body = some name → resolve' name = resolve name := by
        intro name hn
        exact h name (List.mem_filterMap.mpr ⟨i, List.mem_cons_self, hn⟩)
      rw [List.foldl_cons, List.foldl_cons, gatherItem_congr hi]
      refine ih (fun name hn => h name ?_) _
      obtain ⟨j, hj, hname⟩ := List.mem_filterMap.mp hn
      exact List.mem_filterMap.mpr ⟨j, List.mem_cons_of_mem _ hj, hname⟩

/-- **The requests of a body are those of the statements of its module.** -/
theorem requests_ofCode (h : ModuleBody.ofCode path code resolve = .ok body) :
    ∃ s, readModule .plain code.toList = .ok s ∧
      body.requests = s.items.filterMap fun i => requested? i.body := by
  unfold ModuleBody.ofCode at h
  split at h
  · cases h
  · rename_i s hs
    rw [← Except.ok.inj h]
    exact ⟨s, hs, by rw [requests_gather]; rfl⟩

theorem ofCode_congr (h : ModuleBody.ofCode path code resolve = .ok body)
    (hr : ∀ name ∈ body.requests, resolve' name = resolve name) :
    ModuleBody.ofCode path code resolve' = .ok body := by
  obtain ⟨s, hs, hreq⟩ := requests_ofCode h
  rw [hreq] at hr
  rw [← h]
  unfold ModuleBody.ofCode
  rw [hs]
  dsimp only
  rw [gather_congr hr]

/-- What is told of a result is told of a result that was made. -/
theorem exists_ok_of_map {ε α β : Type} {r : Except ε α} {g : α → β} {v : β}
    (h : r.toOption.map g = some v) : ∃ a, r = .ok a ∧ g a = v := by
  cases r with
  | error e => cases h
  | ok a => exact ⟨a, rfl, Option.some.inj h⟩

/-! ## Files -/

/-- Whether a file is compiled as a script; a file that is not imports nothing. -/
def isScript (f : File) : Bool := f.language != .css && f.language != .json && f.isCode

/-- A script is compiled by way of its plain form. -/
theorem compileFile_eq_ok_iff (h : isScript f = true) : compileFile f resolve = .ok body ↔
    ∃ code, plainForm f.path f.content.toList = .ok code ∧
      ModuleBody.ofCode f.path code resolve = .ok body := by
  unfold isScript at h
  unfold compileFile
  split
  · simp_all
  · simp_all
  · rw [if_pos (Bool.and_eq_true_iff.mp h).2]
    cases plainForm f.path f.content.toList <;> simp

/-- What is no script has the same body whatever imports stand for, and it asks for nothing. -/
theorem compileFile_of_not_isScript (h : isScript f = false)
    (hb : compileFile f resolve = .ok body) :
    body.requests = [] ∧ compileFile f resolve' = .ok body := by
  unfold isScript at h
  unfold compileFile at hb ⊢
  split
  · rename_i hl
    rw [hl] at hb
    cases hb
    exact ⟨rfl, rfl⟩
  · rename_i hl
    rw [hl] at hb
    cases hr : Json.read f.content.toList with
    | error e => rw [hr] at hb; cases hb
    | ok v =>
        rw [hr] at hb
        cases hb
        exact ⟨rfl, rfl⟩
  · rename_i hcss hjson
    have hcode : ¬f.isCode = true := by simp_all
    split at hb
    · exact absurd ‹_› hcss
    · exact absurd ‹_› hjson
    · rw [if_neg hcode] at hb ⊢
      refine ⟨?_, hb⟩
      split at hb
      · cases hb
        rfl
      · cases hb
        rfl

/-- **The body of a file hangs on what imports stand for only at its requests.** -/
theorem compileFile_congr (h : compileFile f resolve = .ok body)
    (hr : ∀ name ∈ body.requests, resolve' name = resolve name) : compileFile f resolve' = .ok body := by
  cases hs : isScript f with
  | false => exact (compileFile_of_not_isScript hs h).2
  | true =>
      obtain ⟨code, hp, hbody⟩ := (compileFile_eq_ok_iff hs).mp h
      exact (compileFile_eq_ok_iff hs).mpr ⟨code, hp, ofCode_congr hbody hr⟩

end AppMend.Bundle
