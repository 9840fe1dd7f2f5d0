import AppMend.File

/-!
# File sets

The files of an app by path. A file set is a list of files in ascending order of their paths, each as
it is filed: under its canonical path, and with the language that the path tells if it had none. Both
are part of the type, so two sets with the same files are equal.

`get?_insert` says what an insertion does to every path.
-/

namespace AppMend

structure FileSet where
  files : List File
  ascending : files.Pairwise fun a b => a.path < b.path
  filed : ∀ f ∈ files, f.Filed

namespace FileSet

@[ext] theorem ext {s t : FileSet} (h : s.files = t.files) : s = t := by
  cases s; cases t; cases h; rfl

instance : DecidableEq FileSet := fun s t =>
  if h : s.files = t.files then .isTrue (ext h) else .isFalse fun e => h (e ▸ rfl)

def empty : FileSet := ⟨[], .nil, by simp⟩

instance : Inhabited FileSet := ⟨empty⟩

/-! ## Insertion into an ascending list -/

/-- Puts a file into a list that ascends by path, in place of one of the same path. -/
def insertFile (f : File) : List File → List File
  | [] => [f]
  | g :: gs =>
    if f.path < g.path then f :: g :: gs
    else if f.path = g.path then f :: gs
    else g :: insertFile f gs

theorem mem_insertFile {f g : File} {gs : List File} (h : g ∈ insertFile f gs) :
    g = f ∨ g ∈ gs := by
  induction gs with
  | nil => simpa [insertFile] using h
  | cons a gs ih =>
    simp only [insertFile] at h
    split at h
    · simpa using h
    · split at h
      · rcases List.mem_cons.mp h with h | h
        · exact .inl h
        · exact .inr (List.mem_cons_of_mem _ h)
      · rcases List.mem_cons.mp h with h | h
        · exact .inr (h ▸ List.mem_cons_self)
        · exact (ih h).imp_right (List.mem_cons_of_mem _)

/-- Of two texts neither before the other, both are the same. -/
theorem eq_of_not_lt {a b : String} (h₁ : ¬a < b) (h₂ : ¬b < a) : a = b :=
  String.le_antisymm (String.not_lt.mp h₂) (String.not_lt.mp h₁)

theorem ascending_insertFile {f : File} {gs : List File}
    (h : gs.Pairwise fun a b => a.path < b.path) :
    (insertFile f gs).Pairwise fun a b => a.path < b.path := by
  induction gs with
  | nil => simp [insertFile]
  | cons a gs ih =>
    obtain ⟨ha, hgs⟩ := List.pairwise_cons.mp h
    simp only [insertFile]
    split
    · rename_i hlt
      exact List.pairwise_cons.mpr ⟨fun g hg => by
        rcases List.mem_cons.mp hg with rfl | hg
        · exact hlt
        · exact String.lt_trans hlt (ha g hg), h⟩
    · rename_i hnlt
      split
      · rename_i heq
        exact List.pairwise_cons.mpr ⟨fun g hg => heq ▸ ha g hg, hgs⟩
      · rename_i hne
        refine List.pairwise_cons.mpr ⟨fun g hg => ?_, ih hgs⟩
        rcases mem_insertFile hg with rfl | hg
        · exact Decidable.byContradiction fun hn => hne (eq_of_not_lt hnlt hn)
        · exact ha g hg

/-- Files (or replaces) a file. -/
def insert (s : FileSet) (f : File) : FileSet where
  files := insertFile f.filed s.files
  ascending := ascending_insertFile s.ascending
  filed g hg := by
    rcases mem_insertFile hg with rfl | hg
    · exact File.filed_filed f
    · exact s.filed g hg

/-- The set with further files, each in place of one of the same path. -/
def overlay (s : FileSet) (fs : List File) : FileSet := fs.foldl insert s

/-- The set of the given files; the last of one path wins. -/
def ofList (fs : List File) : FileSet := empty.overlay fs

/-- The set of the given contents by path. -/
def ofContents (m : List (String × String)) : FileSet := ofList (m.map fun (p, c) => .of p c)

/-- The file filed under exactly this path. -/
def find? (s : FileSet) (path : String) : Option File := s.files.find? (·.path == path)

/-- The file that a path names. -/
def get? (s : FileSet) (path : String) : Option File := s.find? (Path.normalize path)

def contains (s : FileSet) (path : String) : Bool := (s.get? path).isSome

def paths (s : FileSet) : List String := s.files.map (·.path)

def size (s : FileSet) : Nat := s.files.length

def isEmpty (s : FileSet) : Bool := s.files.isEmpty

/-- The files that are checked. -/
def codeFiles (s : FileSet) : List File := s.files.filter (·.isCode)

/-- The contents by path. -/
def contents (s : FileSet) : List (String × String) := s.files.map fun f => (f.path, f.content)

def toJson (s : FileSet) : Json.Value := .object (s.files.map fun f => (f.path, f.toJson))

/-! ## What an insertion does to every path -/

theorem find?_insertFile (f : File) (path : String) (gs : List File)
    (h : gs.Pairwise fun a b => a.path < b.path) :
    (insertFile f gs).find? (·.path == path) =
      if f.path = path then some f else gs.find? (·.path == path) := by
  induction gs with
  | nil => by_cases hf : f.path = path <;> simp [insertFile, hf]
  | cons a gs ih =>
    obtain ⟨ha, hgs⟩ := List.pairwise_cons.mp h
    simp only [insertFile]
    split
    · by_cases hf : f.path = path <;> simp [hf]
    · split
      · rename_i heq
        by_cases hf : f.path = path
        · simp [hf]
        · have : a.path ≠ path := fun e => hf (heq.trans e)
          simp [hf, this]
      · rename_i hne
        by_cases hp : a.path = path
        · have : f.path ≠ path := fun e => hne (e.trans hp.symm)
          simp [hp, this]
        · simp [hp, ih hgs]

theorem get?_insert (s : FileSet) (f : File) (path : String) :
    (s.insert f).get? path =
      if Path.normalize path = Path.normalize f.path then some f.filed else s.get? path := by
  have h := find?_insertFile f.filed (Path.normalize path) s.files s.ascending
  simp only [get?, find?, insert, h]
  by_cases e : Path.normalize path = Path.normalize f.path
  · simp [e, File.filed]
  · simp [e, File.filed, Ne.symm e]

theorem overlay_append (s : FileSet) (fs gs : List File) :
    s.overlay (fs ++ gs) = (s.overlay fs).overlay gs := List.foldl_append

end FileSet

end AppMend
