import AppMend.FileSet
import AppMend.Json.Value
import AppMend.Table

/-!
# What a table holds

A table stands in the ascending order of its names whatever it was made of (`ascending_ofList`). Made of
entries with different names it holds these and no others (`mem_ofList_iff`), so it is the list of its
entries brought into order; of entries with one name it holds the last (`mem_ofList_iff_last`). Texts that
are sorted stand in the same way (`ascending_sortedTexts`, `mem_sortedTexts`).

An object keeps its fields as a table does (`Json.Value.object_eq`), of each name the last one
(`Json.Value.field?_object`).
-/

namespace AppMend

namespace Table

variable {α : Type} {t : Table α} {entries : List (String × α)} {e : String × α} {name : String} {v : α}

/-- In ascending order of the names, each name once. -/
def Ascending (t : Table α) : Prop := t.Pairwise fun a b => a.1 < b.1

/-- A table has one entry for a name. -/
theorem Ascending.eq_of_name_eq (h : Ascending t) {a b : String × α} (ha : a ∈ t) (hb : b ∈ t)
    (hn : a.1 = b.1) : a = b := by
  obtain ⟨i, hi, rfl⟩ := List.getElem_of_mem ha
  obtain ⟨j, hj, rfl⟩ := List.getElem_of_mem hb
  have hpair := List.pairwise_iff_getElem.mp h
  rcases Nat.lt_trichotomy i j with hij | rfl | hij
  · exact absurd hn (String.ne_of_lt (hpair i j hi hj hij))
  · rfl
  · exact absurd hn.symm (String.ne_of_lt (hpair j i hj hi hij))

/-! ## One entry more -/

theorem mem_insert_iff (h : Ascending t) :
    e ∈ t.insert name v ↔ e = (name, v) ∨ e.1 ≠ name ∧ e ∈ t := by
  induction t with
  | nil => simp [insert]
  | cons a rest ih =>
      obtain ⟨ha, hrest⟩ := List.pairwise_cons.mp h
      -- no entry behind `a` has a name that is not behind that of `a`
      have behind (b : String × α) (hb : b ∈ rest) : b.1 ≠ a.1 := (String.ne_of_lt (ha b hb)).symm
      unfold insert
      split
      · rename_i hlt
        have hne (b : String × α) (hb : b ∈ a :: rest) : b.1 ≠ name := by
          rcases List.mem_cons.mp hb with rfl | hb
          · exact (String.ne_of_lt hlt).symm
          · exact (String.ne_of_lt (String.lt_trans hlt (ha b hb))).symm
        constructor
        · intro he
          exact (List.mem_cons.mp he).imp_right fun he => ⟨hne e he, he⟩
        · rintro (rfl | ⟨_, he⟩)
          · exact List.mem_cons_self
          · exact List.mem_cons_of_mem _ he
      · split
        · rename_i heq
          subst heq
          constructor
          · intro he
            exact (List.mem_cons.mp he).imp_right fun he => ⟨behind e he, List.mem_cons_of_mem _ he⟩
          · rintro (rfl | ⟨hne, he⟩)
            · exact List.mem_cons_self
            · rcases List.mem_cons.mp he with rfl | he
              · exact absurd rfl hne
              · exact List.mem_cons_of_mem _ he
        · rename_i hne
          rw [List.mem_cons, ih hrest, List.mem_cons]
          constructor
          · rintro (rfl | rfl | ⟨hn, he⟩)
            · exact .inr ⟨Ne.symm hne, .inl rfl⟩
            · exact .inl rfl
            · exact .inr ⟨hn, .inr he⟩
          · rintro (rfl | ⟨hn, rfl | he⟩)
            · exact .inr (.inl rfl)
            · exact .inl rfl
            · exact .inr (.inr ⟨hn, he⟩)

theorem Ascending.insert (h : Ascending t) (name : String) (v : α) : Ascending (t.insert name v) := by
  induction t with
  | nil => exact List.pairwise_singleton _ _
  | cons a rest ih =>
      obtain ⟨ha, hrest⟩ := List.pairwise_cons.mp h
      unfold Table.insert
      split
      · rename_i hlt
        refine List.pairwise_cons.mpr ⟨?_, h⟩
        intro b hb
        rcases List.mem_cons.mp hb with rfl | hb
        · exact hlt
        · exact String.lt_trans hlt (ha b hb)
      · rename_i hnlt
        split
        · rename_i heq
          exact List.pairwise_cons.mpr ⟨fun b hb => heq ▸ ha b hb, hrest⟩
        · rename_i hne
          refine List.pairwise_cons.mpr ⟨?_, ih hrest⟩
          intro b hb
          rcases (mem_insert_iff hrest).mp hb with rfl | ⟨_, hb⟩
          · exact Decidable.byContradiction fun hn => hne (FileSet.eq_of_not_lt hnlt hn)
          · exact ha b hb

theorem mem_names_insert {n : String} (h : Ascending t) :
    n ∈ (t.insert name v).names ↔ n = name ∨ n ∈ t.names := by
  simp only [names, List.mem_map, mem_insert_iff h]
  constructor
  · rintro ⟨e, rfl | ⟨_, he⟩, rfl⟩
    · exact .inl rfl
    · exact .inr ⟨e, he, rfl⟩
  · intro hn
    by_cases hname : n = name
    · exact ⟨(name, v), .inl rfl, hname.symm⟩
    · obtain ⟨e, he, rfl⟩ := hn.resolve_left hname
      exact ⟨e, .inr ⟨hname, he⟩, rfl⟩

/-! ## All entries of a list -/

/-- What insertions of one entry after another keep. -/
theorem foldl_insert_induction {P : List (String × α) → Table α → Prop}
    (hstep : ∀ es t e, Ascending t → P es t → P (es ++ [e]) (t.insert e.1 e.2)) (done : List (String × α))
    (ht : Ascending t) (h0 : P done t) :
    Ascending (entries.foldl (fun t e => t.insert e.1 e.2) t) ∧
      P (done ++ entries) (entries.foldl (fun t e => t.insert e.1 e.2) t) := by
  induction entries generalizing done t with
  | nil => exact ⟨ht, by rw [List.append_nil]; exact h0⟩
  | cons e es ih =>
      have h1 := ih (done ++ [e]) (ht.insert e.1 e.2) (hstep done t e ht h0)
      rw [List.append_assoc] at h1
      exact h1

/-- **A table is in ascending order.** -/
theorem ascending_ofList (entries : List (String × α)) : Ascending (ofList entries) :=
  (foldl_insert_induction (P := fun _ _ => True) (fun _ _ _ _ _ => trivial) [] .nil trivial).1

theorem mem_names_ofList {n : String} : n ∈ (ofList entries).names ↔ n ∈ entries.map (·.1) := by
  refine (foldl_insert_induction (P := fun es t => ∀ n, n ∈ t.names ↔ n ∈ es.map (·.1)) ?_ [] .nil
    (fun n => Iff.rfl)).2 n
  intro es t e ht h n
  rw [mem_names_insert ht, h, List.map_append, List.mem_append, List.map_singleton,
    List.mem_singleton, or_comm]

/-- **A table of entries with different names holds these entries.** -/
theorem mem_ofList_iff (hd : (entries.map (·.1)).Nodup) : e ∈ ofList entries ↔ e ∈ entries := by
  refine (foldl_insert_induction
    (P := fun es t => (es.map (·.1)).Nodup → ∀ e, e ∈ t ↔ e ∈ es) ?_ [] .nil
    (fun _ e => Iff.rfl)).2 hd e
  intro es t f ht h hd e
  rw [List.map_append, List.map_singleton, List.nodup_append] at hd
  rw [mem_insert_iff ht, h hd.1, List.mem_append, List.mem_singleton, or_comm]
  -- the entries before `f` have other names
  have hne (he : e ∈ es) : e.1 ≠ f.1 :=
    hd.2.2 e.1 (List.mem_map_of_mem he) f.1 (List.mem_singleton_self _)
  constructor
  · exact fun he => he.imp_left (·.2)
  · exact fun he => he.imp_left fun he => ⟨hne he, he⟩

/-- **A table holds the last entry of each name.** -/
theorem mem_ofList_iff_last :
    e ∈ ofList entries ↔ entries.reverse.find? (fun x => x.1 == e.1) = some e := by
  refine (foldl_insert_induction
    (P := fun es t => ∀ e, e ∈ t ↔ es.reverse.find? (fun x => x.1 == e.1) = some e) ?_ [] .nil
    (fun e => by simp)).2 e
  intro es t f ht h e
  rw [mem_insert_iff ht, h, List.reverse_append, List.reverse_singleton, List.singleton_append]
  by_cases hf : f.1 = e.1
  · rw [List.find?_cons_of_pos (by simpa using hf), Option.some_inj]
    exact ⟨fun he => he.elim Eq.symm fun he => absurd hf.symm he.1, fun he => .inl he.symm⟩
  · rw [List.find?_cons_of_neg (by simpa using hf)]
    exact ⟨fun he => he.elim (fun he => absurd (by rw [he]) hf) (·.2), fun he => .inr ⟨Ne.symm hf, he⟩⟩

/-- An entry whose name is behind all others is put at the end. -/
theorem insert_of_forall_lt (h : ∀ e ∈ t, e.1 < name) : t.insert name v = t ++ [(name, v)] := by
  induction t with
  | nil => rfl
  | cons a rest ih =>
      have hlt : a.1 < name := h a List.mem_cons_self
      rw [insert, if_neg (String.lt_asymm hlt), if_neg (String.ne_of_lt hlt).symm,
        ih fun e he => h e (List.mem_cons_of_mem _ he), List.cons_append]

/-- Entries in ascending order are a table as they stand. -/
theorem ofList_of_ascending (h : Ascending entries) : ofList entries = entries := by
  refine (foldl_insert_induction (P := fun es t => Ascending es → t = es) ?_ [] .nil fun _ => rfl).2 h
  intro es t e _ ih h
  obtain ⟨hes, -, hlt⟩ := List.pairwise_append.mp h
  rw [ih hes, insert_of_forall_lt fun a ha => hlt a ha e (List.mem_singleton_self e)]

theorem ofList_eq_nil_iff : ofList entries = [] ↔ entries = [] := by
  constructor
  · intro h
    refine List.eq_nil_iff_forall_not_mem.mpr fun e he => ?_
    have hname : e.1 ∈ (ofList entries).names := mem_names_ofList.mpr (List.mem_map_of_mem he)
    rw [h] at hname
    cases hname
  · rintro rfl
    rfl

/-- **A table of entries with different names is these entries in another order.** -/
theorem perm_ofList (hd : (entries.map (·.1)).Nodup) : (ofList entries).Perm entries := by
  have hnodup : (ofList entries).Nodup := by
    refine (ascending_ofList entries).imp ?_
    rintro a b hlt rfl
    exact String.lt_irrefl _ hlt
  have hentries : entries.Nodup := (List.pairwise_map.mp hd).imp fun hne he => hne (congrArg Prod.fst he)
  exact (List.perm_ext_iff_of_nodup hnodup hentries).mpr fun e => mem_ofList_iff hd

theorem insert_map {β : Type} (g : α → β) (t : Table α) (name : String) (v : α) :
    Table.insert name (g v) (t.map fun e => (e.1, g e.2)) = (t.insert name v).map fun e => (e.1, g e.2) := by
  induction t with
  | nil => rfl
  | cons a rest ih =>
      rw [List.map_cons, insert, insert, ih]
      split
      · rfl
      · split <;> rfl

/-- A table is made of entries before or after these are changed. -/
theorem ofList_map {β : Type} (g : α → β) (entries : List (String × α)) :
    ofList (entries.map fun e => (e.1, g e.2)) = (ofList entries).map fun e => (e.1, g e.2) := by
  have hfold (t : Table α) : (entries.map fun e => (e.1, g e.2)).foldl (fun t e => Table.insert e.1 e.2 t)
      (t.map fun e => (e.1, g e.2)) =
        (entries.foldl (fun t e => t.insert e.1 e.2) t).map fun e => (e.1, g e.2) := by
    induction entries generalizing t with
    | nil => rfl
    | cons e entries ih =>
        show List.foldl _ (Table.insert e.1 (g e.2) _) _ = _
        rw [insert_map, ih, List.foldl_cons]
  exact hfold []

/-- A table of entries holds none but these. -/
theorem mem_of_mem_ofList (h : e ∈ ofList entries) : e ∈ entries :=
  List.mem_reverse.mp (List.mem_of_find?_eq_some (mem_ofList_iff_last.mp h))

theorem get?_eq_some_iff (h : Ascending t) : t.get? name = some v ↔ (name, v) ∈ t := by
  unfold get?
  rw [Option.map_eq_some_iff]
  constructor
  · rintro ⟨e, he, rfl⟩
    obtain rfl : e.1 = name := by simpa using List.find?_some he
    exact List.mem_of_find?_eq_some he
  · intro hmem
    cases hfind : t.find? (·.1 == name) with
    | none => exact absurd (by simp) (List.find?_eq_none.mp hfind (name, v) hmem)
    | some e =>
        -- no other entry has that name
        have hname : e.1 = name := by simpa using List.find?_some hfind
        exact ⟨e, rfl, by rw [h.eq_of_name_eq (List.mem_of_find?_eq_some hfind) hmem hname]⟩

end Table

/-! ## Sorted texts -/

theorem ascending_sortedTexts (xs : List String) : (sortedTexts xs).Pairwise (· < ·) :=
  List.pairwise_map.mpr (Table.ascending_ofList _)

@[simp] theorem mem_sortedTexts {x : String} {xs : List String} : x ∈ sortedTexts xs ↔ x ∈ xs := by
  rw [sortedTexts, Table.mem_names_ofList, List.map_map]
  simp

/-! ## Objects -/

namespace Json.Value

variable {name : String} {fields : List (String × Value)}

theorem insertField_eq (n : String) (v : Value) (fs : List (String × Value)) :
    insertField n v fs = Table.insert n v fs := by
  induction fs with
  | nil => rfl
  | cons f fs ih => rw [insertField, Table.insert, ih]

theorem object_eq (fields : List (String × Value)) : object fields = .obj (Table.ofList fields) := by
  unfold object Table.ofList
  congr 2
  funext fs f
  exact insertField_eq f.1 f.2 fs

/-- Fields in ascending order are an object as they stand. -/
theorem object_of_ascending (h : Table.Ascending fields) : object fields = .obj fields := by
  rw [object_eq, Table.ofList_of_ascending h]

theorem find?_insertField (n : String) (v : Value) (fs : List (String × Value)) :
    (insertField n v fs).find? (·.1 == name) = if n = name then some (n, v) else fs.find? (·.1 == name) := by
  induction fs with
  | nil => by_cases h : n = name <;> simp [insertField, h]
  | cons f fs ih =>
      obtain ⟨m, w⟩ := f
      unfold insertField
      split
      · by_cases h : n = name <;> simp [h]
      · split
        · rename_i heq
          subst heq
          by_cases h : n = name <;> simp [h]
        · rename_i hne
          by_cases hm : m = name
          · have hn : n ≠ name := fun h => hne (h.trans hm.symm)
            simp [hm, hn]
          · simp [hm, ih]

/-- **A field of an object is the last one of its name.** -/
theorem field?_object (fields : List (String × Value)) :
    (object fields).field? name = (fields.reverse.find? (·.1 == name)).map (·.2) := by
  have hfold (acc : List (String × Value)) :
      (fields.foldl (fun fs f => insertField f.1 f.2 fs) acc).find? (·.1 == name) =
        (fields.reverse.find? (·.1 == name)).or (acc.find? (·.1 == name)) := by
    induction fields generalizing acc with
    | nil => rfl
    | cons f fields ih =>
        rw [List.foldl_cons, ih, find?_insertField, List.reverse_cons, List.find?_append, Option.or_assoc]
        by_cases h : f.1 = name
        · subst h
          simp
        · simp [h]
  exact congrArg (Option.map (·.2)) ((hfold []).trans (Option.or_none ..))

end Json.Value

end AppMend
