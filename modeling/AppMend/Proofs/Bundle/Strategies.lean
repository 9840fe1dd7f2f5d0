import AppMend.Proofs.Bundle.Closure
import Mathlib.Data.List.Sort

/-!
# The two ways to pack a bundle

A script asks for what the plain form of a module asks for, a file map for what the text of the module
names. The two are the same but for what is imported for its types only: the plain form leaves it out
(`Stmt.source?_withoutTypes`), the text names it. So a file map holds all that a script holds, and no
more exactly if what is imported for its types is in the script anyway (`BundleConfig.agree_iff_within`);
in the same order exactly if the texts name it in that order (`BundleConfig.modules_eq_iff`).

That what is left without types is written and read again with its imports is not looked into; it is a
hypothesis on the files of the set, `KeepsImports`.
-/

namespace AppMend

open Bundle Script

/-! ## What is imported for its types only -/

namespace Script

/-- Whether a statement imports or passes on nothing but types. -/
def Stmt.isTypeOnly (s : Stmt) : Bool :=
  match s.bare with
  | .imports i => i.isType && i.specifiers.isSome
  | .exportList names (some _) => !names.isEmpty && names.all (·.isType)
  | .typeExport _ => true
  | _ => false

/-- What is left of a statement without types has the source of the statement, and of a statement about
nothing but types nothing is left. -/
theorem Stmt.source?_withoutTypes (names : List String) (s : Stmt) :
    (s.withoutTypes names).bind Stmt.source? = if s.isTypeOnly then none else s.source? := by
  fun_induction Stmt.withoutTypes names s with
  | case1 start s ih =>
      rw [Option.bind_map]
      exact ih
  | case2 i =>
      obtain ⟨stage, specifiers, source, isType⟩ := i
      cases specifiers with
      | none => cases isType <;> rfl
      | some specifiers => cases isType <;> rfl
  | case3 source => cases source <;> rfl
  | case4 names source hne kept hk =>
      cases source with
      | none => rfl
      | some source =>
          have hall : (Stmt.exportList names (some source)).isTypeOnly = true := by
            simpa [isTypeOnly, bare, show names ≠ [] from hne, kept] using hk
          rw [hall]
          rfl
  | case5 names source hne kept hk =>
      cases source with
      | none => rfl
      | some source =>
          have hsome : (Stmt.exportList names (some source)).isTypeOnly = false := by
            simpa [isTypeOnly, bare, show names ≠ [] from hne, kept] using hk
          rw [hsome]
          rfl
  | case6 | case7 | case8 => rfl
  | case9 source => cases source <;> rfl
  | case10 s hp hi he hl hd ht =>
      cases s with
      | placed => exact absurd rfl (hp _ _)
      | imports => exact absurd rfl (hi _)
      | exportList => exact absurd rfl (hl _ _)
      | typeExport => exact absurd rfl (ht _)
      | _ => rfl

/-- **Without types, the sources of a module are those of its statements that are not only about
types.** -/
theorem sources_eraseTypes (body : List Stmt) :
    (eraseTypes body).filterMap Stmt.source? =
      (body.filter (!·.isTypeOnly)).filterMap Stmt.source? := by
  unfold eraseTypes
  rw [List.filterMap_filterMap, List.filterMap_filter]
  refine List.filterMap_congr fun s _ => ?_
  rw [Stmt.source?_withoutTypes]
  cases s.isTypeOnly <;> rfl

end Script

namespace Bundle

variable {f : File} {resolve : String → Resolution} {body : ModuleBody}

/-- The statements that the plain form of a script is made of. -/
def valueStatements (d : Dialect) (s : Script) : List Stmt :=
  if d.types then eraseTypes (s.items.map (·.body)) else s.items.map (·.body)

/-- What a script names for its types only, in order. -/
def typeSources (d : Dialect) (s : Script) : List String :=
  if d.types then ((s.items.map (·.body)).filter (·.isTypeOnly)).filterMap Stmt.source? else []

/-- What a file names for its types only, in order. -/
def typeSourcesOf (f : File) : List String :=
  if f.isCode then
    match readModule (.ofPath f.path) f.content.toList with
    | .ok s => typeSources (.ofPath f.path) s
    | .error _ => []
  else []

/-- Whether the plain form of a file, read again, asks for what its statements have as their sources, in
the order of the statements. -/
def KeepsImports (f : File) : Prop :=
  ∀ s ∈ (readModule (.ofPath f.path) f.content.toList).toOption,
    ∀ code ∈ (plainForm f.path f.content.toList).toOption,
    ∀ t ∈ (readModule .plain code.toList).toOption,
      t.items.filterMap (fun i => requested? i.body) =
        (valueStatements (.ofPath f.path) s).filterMap Stmt.source?

instance (f : File) : Decidable (KeepsImports f) :=
  inferInstanceAs (Decidable (∀ s ∈ (readModule (.ofPath f.path) f.content.toList).toOption,
    ∀ code ∈ (plainForm f.path f.content.toList).toOption,
    ∀ t ∈ (readModule .plain code.toList).toOption,
      t.items.filterMap (fun i => requested? i.body) =
        (valueStatements (.ofPath f.path) s).filterMap Stmt.source?))

theorem sources_eq (s : Script) :
    s.items.filterMap (·.body.source?) = (s.items.map (·.body)).filterMap Stmt.source? := by
  rw [List.filterMap_map]
  rfl

/-- The sources of a script are those that its plain form keeps and those of types. -/
theorem mem_sources_iff (d : Dialect) (s : Script) {name : String} :
    name ∈ s.items.filterMap (·.body.source?) ↔
      name ∈ (valueStatements d s).filterMap Stmt.source? ∨ name ∈ typeSources d s := by
  rw [sources_eq]
  unfold valueStatements typeSources
  cases d.types with
  | false => simp
  | true =>
      rw [if_pos rfl, if_pos rfl, sources_eraseTypes]
      simp only [List.mem_filterMap, List.mem_filter]
      constructor
      · rintro ⟨x, hx, hname⟩
        cases ht : x.isTypeOnly with
        | false => exact .inl ⟨x, ⟨hx, by rw [ht]; rfl⟩, hname⟩
        | true => exact .inr ⟨x, ⟨hx, ht⟩, hname⟩
      · rintro (⟨x, ⟨hx, _⟩, hname⟩ | ⟨x, ⟨hx, _⟩, hname⟩)
        · exact ⟨x, hx, hname⟩
        · exact ⟨x, hx, hname⟩

theorem sources_eq_of_typeSources_eq_nil {d : Dialect} {s : Script} (h : typeSources d s = []) :
    s.items.filterMap (·.body.source?) = (valueStatements d s).filterMap Stmt.source? := by
  rw [sources_eq]
  unfold valueStatements
  unfold typeSources at h
  cases ht : d.types with
  | false => rfl
  | true =>
      rw [ht, if_pos rfl, List.filterMap_eq_nil_iff] at h
      rw [if_pos rfl, sources_eraseTypes, List.filterMap_filter]
      refine List.filterMap_congr fun x hx => ?_
      cases htype : x.isTypeOnly with
      | false => rfl
      | true => exact h x (List.mem_filter.mpr ⟨hx, htype⟩)

theorem readModule_of_plainForm {path code : String} {text : List Char}
    (h : plainForm path text = .ok code) : ∃ s, readModule (.ofPath path) text = .ok s := by
  unfold plainForm at h
  cases hr : readModule (.ofPath path) text with
  | ok s => exact ⟨s, rfl⟩
  | error e =>
      simp only [hr] at h
      cases h

/-- With its language read off its path, a file is compiled as a script if it is one to be checked. -/
theorem isScript_eq_isCode (h : f.language = .ofPath f.path) : isScript f = f.isCode := by
  have hlanguage : ∀ ext ∈ codeExtensions,
      Language.ofExtension ext ≠ .css ∧ Language.ofExtension ext ≠ .json := by decide
  have hcode (hc : f.isCode = true) : f.language ≠ .css ∧ f.language ≠ .json := by
    unfold File.isCode isCodePath at hc
    rw [h]
    unfold Language.ofPath
    cases he : Path.extension? f.path with
    | none => rw [he] at hc; cases hc
    | some ext =>
        rw [he] at hc
        exact hlanguage ext (List.contains_iff_mem.mp hc)
  unfold isScript
  cases hc : f.isCode with
  | false => simp
  | true =>
      obtain ⟨hcss, hjson⟩ := hcode hc
      simp [hcss, hjson]

/-- **What the text of a file names is what its body asks for and what it names for its types only.** -/
theorem importsOfFile_of_compileFile (hl : f.language = .ofPath f.path) (hk : KeepsImports f)
    (h : compileFile f resolve = .ok body) : ∃ names, importsOfFile f = .ok names ∧
      (∀ name, name ∈ names ↔ name ∈ body.requests ∨ name ∈ typeSourcesOf f) ∧
      (typeSourcesOf f = [] → names = body.requests) := by
  unfold importsOfFile typeSourcesOf
  cases hc : f.isCode with
  | false =>
      have hs : isScript f = false := by rw [isScript_eq_isCode hl, hc]
      obtain ⟨hreq, _⟩ : body.requests = [] ∧ compileFile f resolve = .ok body :=
        compileFile_of_not_isScript hs h
      exact ⟨[], rfl, by simp [hreq], fun _ => hreq.symm⟩
  | true =>
      have hs : isScript f = true := by rw [isScript_eq_isCode hl, hc]
      obtain ⟨code, hp, hbody⟩ := (compileFile_eq_ok_iff hs).mp h
      obtain ⟨t, ht, hreq⟩ := requests_ofCode hbody
      obtain ⟨s, hread⟩ := readModule_of_plainForm hp
      have hkept := hk s (by rw [hread]; rfl) code (by rw [hp]; rfl) t (by rw [ht]; rfl)
      refine ⟨s.items.filterMap (·.body.source?), ?_, ?_, ?_⟩
      · simp only [sources, hread]
        rfl
      · intro name
        rw [hread, hreq, hkept]
        exact mem_sources_iff _ s
      · intro hnil
        rw [hread] at hnil
        rw [hreq, hkept]
        exact sources_eq_of_typeSources_eq_nil hnil

end Bundle

namespace BundleConfig

variable {c : BundleConfig} {files : FileSet} {entry : Option String} {a b : BundleArtifact}
  {start path : String}

/-! ## The same files packed in both ways -/

def asScript (c : BundleConfig) : BundleConfig := { c with strategy := .script }

def asFileMap (c : BundleConfig) : BundleConfig := { c with strategy := .fileMap }

/-- What a module of a set names for its types only. -/
def typeImports (files : FileSet) (path : String) : List String :=
  match files.get? path with
  | none => []
  | some f => typeSourcesOf f

/-- Whether what the modules of a bundle name for its types is in the bundle anyway: the files are
modules of it, and the rest is left to the host by it. -/
def TypesWithin (c : BundleConfig) (files : FileSet) (a : BundleArtifact) : Prop :=
  ∀ m ∈ a.modules, ∀ name ∈ typeImports files m,
    (∀ q, Resolution.of files c.aliases m name = .inside q → q ∈ a.modules) ∧
      (Resolution.of files c.aliases m name = .outside name → name ∈ a.externalized)

/-- What is taken for granted of the files of a set: each is in the language that its path tells, and the
plain form keeps its imports. -/
structure Plain (files : FileSet) : Prop where
  language : ∀ f ∈ files.files, f.language = .ofPath f.path
  keeps : ∀ f ∈ files.files, KeepsImports f

/-- A module of a script was compiled, and imports there what its body asks for. -/
theorem Closed.exists_body (ha : c.asScript.Closed files entry a) (hm : path ∈ a.modules) :
    ∃ f body, files.get? path = some f ∧ compileFile f (.of files c.aliases path) = .ok body ∧
      c.asScript.importsOf files path = body.requests := by
  obtain ⟨f, hf, hn⟩ := ha.readable path hm
  have hmap : (compileFile f (.of files c.aliases path)).map (·.requests) =
      .ok (c.asScript.importsOf files path) := hn
  cases hb : compileFile f (.of files c.aliases path) with
  | error e => rw [hb] at hmap; cases hmap
  | ok body =>
      rw [hb] at hmap
      exact ⟨f, body, hf, hb, (Except.ok.inj hmap).symm⟩

/-- **What a module imports by its text** is what it imports in a script and what it names for its types
only. -/
theorem importsOf_asFileMap (hp : Plain files) (ha : c.asScript.Closed files entry a)
    (hm : path ∈ a.modules) : ∃ f, files.get? path = some f ∧
      importsOfFile f = .ok (c.asFileMap.importsOf files path) ∧
      (∀ name, name ∈ c.asFileMap.importsOf files path ↔
        name ∈ c.asScript.importsOf files path ∨ name ∈ typeImports files path) ∧
      (typeImports files path = [] →
        c.asFileMap.importsOf files path = c.asScript.importsOf files path) := by
  obtain ⟨f, body, hf, hb, hscript⟩ := ha.exists_body hm
  have hmem := (FileSet.get?_eq_some_iff.mp hf).1
  obtain ⟨names, hnames, hiff, hnil⟩ :=
    importsOfFile_of_compileFile (hp.language f hmem) (hp.keeps f hmem) hb
  have hfile : c.asFileMap.importsOf files path = names := importsOf_eq (c := c.asFileMap) hf hnames
  have htypes : typeImports files path = typeSourcesOf f := by rw [typeImports, hf]
  rw [hscript, hfile, htypes]
  exact ⟨f, hf, hnames, hiff, hnil⟩

section Agreement

variable (hp : Plain files) (ha : c.asScript.Closed files entry a)
  (hb : c.asFileMap.Closed files entry b)
include hp ha

/-- What a module names is imported by its text. -/
theorem mem_importsOf_asFileMap {name : String} (hm : path ∈ a.modules) :
    name ∈ c.asFileMap.importsOf files path ↔
      name ∈ c.asScript.importsOf files path ∨ name ∈ typeImports files path := by
  obtain ⟨_, _, _, hiff, _⟩ := importsOf_asFileMap hp ha hm
  exact hiff name

include hb

omit hp in
theorem entryPoint_eq : a.entryPoint = b.entryPoint := Except.ok.inj (ha.start.symm.trans hb.start)

theorem modules_subset : a.modules ⊆ b.modules := by
  refine ha.module_induction (entryPoint_eq ha hb ▸ hb.entry_mem) fun p hpa hpb q hq => ?_
  obtain ⟨name, hname, hi⟩ := mem_localImports.mp hq
  have htext := (mem_importsOf_asFileMap hp ha hpa).mpr (.inl hname)
  exact hb.closed p hpb q (mem_localImports.mpr ⟨name, htext, hi⟩)

theorem externalized_subset : a.externalized ⊆ b.externalized := by
  intro name hname
  obtain ⟨m, hm, himport, ho⟩ := (ha.mem_externalized_iff name).mp hname
  have htext := (mem_importsOf_asFileMap hp ha hm).mpr (.inl himport)
  exact (hb.mem_externalized_iff name).mpr ⟨m, modules_subset hp ha hb hm, htext, ho⟩

/-- What a file map holds besides is what was imported for its types. -/
theorem within_of_subset (hm : b.modules ⊆ a.modules) (he : b.externalized ⊆ a.externalized) :
    c.TypesWithin files a := by
  intro m hma name hname
  have hmb := modules_subset hp ha hb hma
  have htext := (mem_importsOf_asFileMap hp ha hma).mpr (.inr hname)
  constructor
  · intro q hi
    exact hm (hb.closed m hmb q (mem_localImports.mpr ⟨name, htext, hi⟩))
  · intro ho
    exact he ((hb.mem_externalized_iff name).mpr ⟨m, hmb, htext, ho⟩)

omit hb in
/-- With types within, what a module of a script imports by its text is a module of it. -/
theorem mem_modules_of_within (hw : c.TypesWithin files a) (hm : path ∈ a.modules) {q : String}
    (hq : q ∈ c.asFileMap.localImports files path) : q ∈ a.modules := by
  obtain ⟨name, hname, hi⟩ := mem_localImports.mp hq
  rcases (mem_importsOf_asFileMap hp ha hm).mp hname with himport | htype
  · exact ha.closed path hm q (mem_localImports.mpr ⟨name, himport, hi⟩)
  · exact (hw path hm name htype).1 q hi

omit hb in
/-- With types within, what a module of a script leaves to the host by its text is left to it by the
script. -/
theorem mem_externalized_of_within (hw : c.TypesWithin files a) (hm : path ∈ a.modules) {name : String}
    (hname : name ∈ c.asFileMap.importsOf files path)
    (ho : Resolution.of files c.aliases path name = .outside name) : name ∈ a.externalized := by
  rcases (mem_importsOf_asFileMap hp ha hm).mp hname with himport | htype
  · exact (ha.mem_externalized_iff name).mpr ⟨path, hm, himport, ho⟩
  · exact (hw path hm name htype).2 ho

theorem subset_of_within (hw : c.TypesWithin files a) :
    b.modules ⊆ a.modules ∧ b.externalized ⊆ a.externalized := by
  have hmodules : b.modules ⊆ a.modules :=
    hb.module_induction (entryPoint_eq ha hb ▸ ha.entry_mem) fun _ _ hpa _ hq =>
      mem_modules_of_within hp ha hw hpa hq
  refine ⟨hmodules, fun name hname => ?_⟩
  obtain ⟨m, hm, himport, ho⟩ := (hb.mem_externalized_iff name).mp hname
  exact mem_externalized_of_within hp ha hw (hmodules hm) himport ho

/-- **A file map holds what the script holds exactly if types are within the script.** -/
theorem agree_iff_within :
    (∀ m, m ∈ b.modules ↔ m ∈ a.modules) ∧ b.externalized = a.externalized ↔ c.TypesWithin files a := by
  constructor
  · rintro ⟨hm, he⟩
    exact within_of_subset hp ha hb (fun m => (hm m).mp) (he ▸ List.Subset.refl _)
  · intro hw
    obtain ⟨hm, he⟩ := subset_of_within hp ha hb hw
    refine ⟨fun m => ⟨fun h => hm h, fun h => modules_subset hp ha hb h⟩, ?_⟩
    exact hb.externalized_ascending.eq_of_mem_iff ha.externalized_ascending fun name =>
      ⟨fun h => he h, fun h => externalized_subset hp ha hb h⟩

omit hb in
/-- A module of a script is read for a file map, with types within and nothing left to the host that
looks like a file. -/
theorem visit_asFileMap (hw : c.TypesWithin files a)
    (hlocal : ∀ name ∈ a.externalized, Resolution.isLocal c.aliases name = false)
    (hm : path ∈ a.modules) : ∃ result, c.asFileMap.visit files path =
      .ok (result, (c.asFileMap.importsOf files path).map (.of files c.aliases path)) := by
  obtain ⟨f, hf, hnames, _⟩ := importsOf_asFileMap hp ha hm
  refine ⟨f.content, visitForFileMap_eq_ok_iff.mpr ⟨f, _, hf, hnames, ?_, rfl, rfl⟩⟩
  intro name hname ho
  cases hr : Resolution.of files c.asFileMap.aliases path name with
  | inside q => rw [hr] at ho; cases ho
  | outside x =>
      obtain rfl := Resolution.eq_of_outside hr
      exact hlocal _ (mem_externalized_of_within hp ha hw hm hname hr)

omit hb in
/-- **With types within and nothing left to the host that looks like a file, the files can be packed as
they are.** -/
theorem exists_bundle_asFileMap (hw : c.TypesWithin files a)
    (hlocal : ∀ name ∈ a.externalized, Resolution.isLocal c.aliases name = false) :
    ∃ b, c.asFileMap.bundle files entry = .ok b := by
  cases hr : c.asFileMap.bundle files entry with
  | ok b => exact ⟨b, rfl⟩
  | error e =>
      rcases exists_of_bundle_eq_error hr with hnone | ⟨start, r, hs, hd, he⟩
      · cases ha.start.symm.trans hnone
      · obtain rfl : start = a.entryPoint := Except.ok.inj (hs.symm.trans ha.start)
        -- all that is read is a module of the script
        have hread := hd.holds (P := (· ∈ a.modules))
          (fun p hp => List.mem_singleton.mp hp ▸ ha.entry_mem)
          fun p result imports hm hv q hq => by
            obtain ⟨_, _, _, rfl⟩ := read_of_visit hv
            exact mem_modules_of_within hp ha hw hm hq
        obtain ⟨p, hm, hv⟩ := hread.2 e he
        obtain ⟨result, hok⟩ := visit_asFileMap hp ha hw hlocal hm
        rw [hok] at hv
        cases hv

end Agreement

/-- Whether the texts of the modules of a bundle, read one after the other, name its modules in the order
in which it has them. -/
def InOrder (c : BundleConfig) (files : FileSet) (a : BundleArtifact) : Prop :=
  a.modules = (a.entryPoint :: a.modules.flatMap (c.asFileMap.localImports files)).eraseDups

/-- **A file map holds the modules of a script in the same order exactly if their texts name them in that
order.** -/
theorem modules_eq_iff (hp : Plain files) (ha : c.asScript.Closed files entry a)
    (hb : c.asFileMap.bundle files entry = .ok b) : b.modules = a.modules ↔ c.InOrder files a := by
  have hclosed := closed_of_bundle hb
  have hstart : b.entryPoint = a.entryPoint := (entryPoint_eq ha hclosed).symm
  constructor
  · intro h
    have horder := hclosed.breadthFirst
    rwa [h, hstart] at horder
  · intro horder
    have hsub := modules_subset hp ha hclosed
    obtain ⟨start, reached, _, hr, rfl⟩ := exists_reached_of_bundle hb
    obtain rfl : start = a.entryPoint := hstart
    exact hr.eq_of_order [] rfl (fun m hm => targets_of_mem hr hm) rfl horder List.nil_prefix hsub

/-- Without types, the texts name the modules as the script asks for them. -/
theorem inOrder_of_typeless (hp : Plain files) (ha : c.asScript.Closed files entry a)
    (ht : ∀ m ∈ a.modules, typeImports files m = []) : c.InOrder files a := by
  have hsame : a.modules.map (c.asFileMap.localImports files) =
      a.modules.map (c.asScript.localImports files) := by
    refine List.map_congr_left fun m hm => ?_
    obtain ⟨_, _, _, _, hnil⟩ := importsOf_asFileMap hp ha hm
    unfold localImports
    rw [hnil (ht m hm)]
    rfl
  unfold InOrder List.flatMap
  rw [hsame]
  exact ha.breadthFirst

/-- **A script and a file map are made of the same modules up to what is named for its types only.** If
both can be packed, then from the same entry, and the file map holds all that the script holds. It holds
no more exactly if types are within the script, and it holds that in the same order exactly if the texts
are in order; so they agree where there are no types. With types within and nothing left to the host that
looks like a file, a script can also be packed as a file map. -/
theorem agree_up_to_types (c : BundleConfig) (files : FileSet) (entry : Option String)
    (hp : Plain files) :
    (∀ a b, c.asScript.bundle files entry = .ok a → c.asFileMap.bundle files entry = .ok b →
      a.entryPoint = b.entryPoint ∧ a.modules ⊆ b.modules ∧ a.externalized ⊆ b.externalized ∧
      ((∀ m, m ∈ b.modules ↔ m ∈ a.modules) ∧ b.externalized = a.externalized ↔
        c.TypesWithin files a) ∧
      (b.modules = a.modules ↔ c.InOrder files a) ∧
      ((∀ m ∈ a.modules, typeImports files m = []) →
        b.modules = a.modules ∧ b.externalized = a.externalized)) ∧
    ∀ a, c.asScript.bundle files entry = .ok a →
      (∀ name ∈ a.externalized, Resolution.isLocal c.aliases name = false) →
      c.TypesWithin files a → ∃ b, c.asFileMap.bundle files entry = .ok b := by
  refine ⟨fun a b ha hb => ?_, fun a ha hlocal hw => ?_⟩
  · have hac := closed_of_bundle ha
    have hbc := closed_of_bundle hb
    refine ⟨entryPoint_eq hac hbc, modules_subset hp hac hbc, externalized_subset hp hac hbc,
      agree_iff_within hp hac hbc, modules_eq_iff hp hac hb, fun ht => ?_⟩
    have hw : c.TypesWithin files a := by
      intro m hm name hname
      rw [ht m hm] at hname
      cases hname
    exact ⟨(modules_eq_iff hp hac hb).mpr (inOrder_of_typeless hp hac ht),
      ((agree_iff_within hp hac hbc).mpr hw).2⟩
  · exact exists_bundle_asFileMap hp (closed_of_bundle ha) hw hlocal

/-- A module that imports a file, and a type from it. -/
def typedWithin : FileSet :=
  .ofContents [
    ("main.tsx", "import './u';\nimport type { T } from './u';\n"),
    ("u.ts", "export type T = string;\n")]

/-- The two agree from the module that names a type, and from the one that names none. -/
theorem agree_up_to_types_within :
    (∃ a b, (asScript {}).bundle typedWithin none = .ok a ∧
      (asFileMap {}).bundle typedWithin none = .ok b ∧ typeImports typedWithin "main.tsx" = ["./u"] ∧
      (∀ m, m ∈ b.modules ↔ m ∈ a.modules) ∧ b.externalized = a.externalized) ∧
    ∃ a b, (asScript {}).bundle typedWithin (some "u.ts") = .ok a ∧
      (asFileMap {}).bundle typedWithin (some "u.ts") = .ok b ∧ b.modules = a.modules := by
  have hp : Plain typedWithin := ⟨by decide +kernel, by decide +kernel⟩
  have htypes : typeImports typedWithin "main.tsx" = ["./u"] := by decide +kernel
  have hnone : typeImports typedWithin "u.ts" = [] := by decide +kernel
  have hinside : Resolution.of typedWithin (asScript {}).aliases "main.tsx" "./u" = .inside "u.ts" := by
    decide +kernel
  constructor
  · have hmade : ((asScript {}).bundle typedWithin none).toOption.map
        (fun a => (a.modules, a.externalized)) = some (["main.tsx", "u.ts"], []) := by decide +kernel
    obtain ⟨a, ha, hpair⟩ := exists_ok_of_map hmade
    obtain ⟨hm, he⟩ := Prod.mk.inj hpair
    have hw : TypesWithin {} typedWithin a := by
      intro m hmem name hname
      rw [hm] at hmem
      simp only [List.mem_cons, List.not_mem_nil, or_false] at hmem
      rcases hmem with rfl | rfl
      · rw [htypes, List.mem_singleton] at hname
        subst hname
        refine ⟨fun q hq => ?_, fun ho => ?_⟩
        · obtain rfl : "u.ts" = q := Resolution.inside.inj (hinside.symm.trans hq)
          rw [hm]
          decide
        · cases hinside.symm.trans ho
      · rw [hnone] at hname
        cases hname
    obtain ⟨b, hb⟩ := (agree_up_to_types {} typedWithin none hp).2 a ha (by rw [he]; simp) hw
    obtain ⟨_, _, _, hiff, _, _⟩ := (agree_up_to_types {} typedWithin none hp).1 a b ha hb
    exact ⟨a, b, ha, hb, htypes, hiff.mpr hw⟩
  · have hmade : ((asScript {}).bundle typedWithin (some "u.ts")).toOption.map (·.modules) =
        some ["u.ts"] := by decide +kernel
    have hmade' : ((asFileMap {}).bundle typedWithin (some "u.ts")).toOption.map (·.modules) =
        some ["u.ts"] := by decide +kernel
    obtain ⟨a, ha, hm⟩ := exists_ok_of_map hmade
    obtain ⟨b, hb, _⟩ := exists_ok_of_map hmade'
    obtain ⟨_, _, _, _, _, htypeless⟩ := (agree_up_to_types {} typedWithin (some "u.ts") hp).1 a b ha hb
    refine ⟨a, b, ha, hb, (htypeless fun m hmem => ?_).1⟩
    rw [hm, List.mem_singleton] at hmem
    rw [hmem, hnone]

/-- A module that imports a file for a type, and then another file. -/
def typed : FileSet :=
  .ofContents [
    ("main.tsx", "import type { T } from './types';\nimport './u';\n"),
    ("types.ts", "export type T = string;\n"),
    ("u.ts", "")]

/-- The same without the file of the type. -/
def typedMissing : FileSet :=
  .ofContents [("main.tsx", "import type { T } from './types';\nimport './u';\n"), ("u.ts", "")]

/-- **Types alone make a difference.** What is imported for its types only is in the file map and not in
the script; and if it is no file, there is no file map, though the script leaves nothing to the host. -/
theorem disagree_on_types :
    (Plain typed ∧ ∃ a b, (asScript {}).bundle typed none = .ok a ∧
      (asFileMap {}).bundle typed none = .ok b ∧ a.modules = ["main.tsx", "u.ts"] ∧
      b.modules = ["main.tsx", "types.ts", "u.ts"]) ∧
    Plain typedMissing ∧ (∃ a, (asScript {}).bundle typedMissing none = .ok a ∧ a.externalized = []) ∧
      (asFileMap {}).bundle typedMissing none = .error (.unresolved "main.tsx" "./types") := by
  constructor
  · have ha : ((asScript {}).bundle typed none).toOption.map (·.modules) =
        some ["main.tsx", "u.ts"] := by decide +kernel
    have hb : ((asFileMap {}).bundle typed none).toOption.map (·.modules) =
        some ["main.tsx", "types.ts", "u.ts"] := by decide +kernel
    obtain ⟨a, ha, hma⟩ := exists_ok_of_map ha
    obtain ⟨b, hb, hmb⟩ := exists_ok_of_map hb
    exact ⟨⟨by decide +kernel, by decide +kernel⟩, a, b, ha, hb, hma, hmb⟩
  · have ha : ((asScript {}).bundle typedMissing none).toOption.map (·.externalized) = some [] := by
      decide +kernel
    have hb : (match (asFileMap {}).bundle typedMissing none with
        | .error (.unresolved importer specifier) => some (importer, specifier)
        | _ => none) = some ("main.tsx", "./types") := by decide +kernel
    refine ⟨⟨by decide +kernel, by decide +kernel⟩, exists_ok_of_map ha, ?_⟩
    split at hb
    · rename_i importer specifier hfailed
      obtain ⟨rfl, rfl⟩ := Prod.mk.inj (Option.some.inj hb)
      exact hfailed
    · cases hb

end BundleConfig

end AppMend
