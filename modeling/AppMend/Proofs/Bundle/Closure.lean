import AppMend.Bundle.Bundler
import AppMend.Proofs.Bundle.Body
import AppMend.Proofs.Bundle.Discovery
import AppMend.Proofs.FileSet.Lookup
import AppMend.Proofs.Table
import Mathlib.Logic.Relation

/-!
# What a bundle is made of

A bundle is made of the files that its entry reaches, in breadth-first order, and nothing else
(`BundleConfig.closed_bundle`). What an import stands for is a file of the set or is left to the host, so
every module is a file of the set and every file that a module imports is a module; no module is missing.

How a file is read, and what it imports then, is not looked into: `BundleConfig.namesIn` is either what the
body of the file asks for or what its text names, whichever the strategy takes.
-/

namespace AppMend

open Bundle

/-! ## What imports stand for -/

namespace Resolution

variable {files : FileSet} {aliases : Aliases} {importer specifier base path : String}

theorem inside?_eq_some_iff {r : Resolution} : r.inside? = some path ↔ r = .inside path := by
  cases r <;> simp [inside?]

theorem outside?_eq_some_iff {r : Resolution} {name : String} :
    r.outside? = some name ↔ r = .outside name := by
  cases r <;> simp [outside?]

theorem probe_mem_paths (h : probe files base = some path) : path ∈ files.paths := by
  unfold probe at h
  split at h
  · rename_i hc
    rw [← Option.some.inj h]
    exact FileSet.normalize_mem_paths (Bool.and_eq_true_iff.mp hc).2
  · obtain ⟨q, hq, rfl⟩ := Option.map_eq_some_iff.mp h
    exact FileSet.normalize_mem_paths (List.find?_some hq)

/-- **An import that stands for a file stands for a file of the set**, by its path there. -/
theorem mem_paths_of_inside (h : of files aliases importer specifier = .inside path) :
    path ∈ files.paths := by
  unfold of at h
  split at h
  · rename_i q hq
    cases h
    unfold find? at hq
    split at hq
    · cases hq
    · split at hq
      · exact probe_mem_paths hq
      · obtain ⟨⟨directory, rest⟩, _, hp⟩ := Option.bind_eq_some_iff.mp hq
        obtain ⟨base, _, hbase⟩ := List.exists_of_findSome?_eq_some hp
        exact probe_mem_paths hbase
  · cases h

/-- What the host provides is neither relative nor absolute. -/
theorem isRelative_of_mem_hostPackages (h : specifier ∈ hostPackages) : isRelative specifier = false := by
  have hall : ∀ name ∈ hostPackages, isRelative name = false := by decide +kernel
  exact hall specifier h

/-- What is left to the host is left under its own name. -/
theorem eq_of_outside {name : String} (h : of files aliases importer specifier = .outside name) :
    name = specifier := by
  unfold of at h
  split at h
  · cases h
  · exact (Resolution.outside.inj h).symm

end Resolution

namespace BundleConfig

variable {c : BundleConfig} {files : FileSet} {entry : Option String} {a : BundleArtifact}
  {start path : String}

/-! ## What modules import -/

/-- The names of what a file imports when it is read for a bundle. -/
def namesIn (c : BundleConfig) (f : File) (resolve : String → Resolution) :
    Except BundleFailure (List String) :=
  match c.strategy with
  | .script => (compileFile f resolve).map (·.requests)
  | .fileMap => importsOfFile f

/-- The names of what a module imports; none if it cannot be read. -/
def importsOf (c : BundleConfig) (files : FileSet) (path : String) : List String :=
  match files.get? path with
  | none => []
  | some f => (c.namesIn f (.of files c.aliases path)).toOption.getD []

/-- The files that a module imports. -/
def localImports (c : BundleConfig) (files : FileSet) (path : String) : List String :=
  targets ((c.importsOf files path).map (.of files c.aliases path))

/-- A module leads to the files that it imports. -/
def Leads (c : BundleConfig) (files : FileSet) (path q : String) : Prop := q ∈ c.localImports files path

theorem mem_localImports {q : String} : q ∈ c.localImports files path ↔
    ∃ name ∈ c.importsOf files path, Resolution.of files c.aliases path name = .inside q := by
  unfold localImports targets
  simp only [List.mem_filterMap, List.mem_map, Resolution.inside?_eq_some_iff]
  constructor
  · rintro ⟨_, ⟨name, hn, rfl⟩, hi⟩
    exact ⟨name, hn, hi⟩
  · rintro ⟨name, hn, hi⟩
    exact ⟨_, ⟨name, hn, rfl⟩, hi⟩

/-! ## How a module is read -/

theorem visitForScript_eq_ok_iff {aliases : Aliases} {result : String} {imports : List Resolution} :
    visitForScript files aliases path = .ok (result, imports) ↔
      ∃ f body, files.get? path = some f ∧ compileFile f (.of files aliases path) = .ok body ∧
        result = body.code ∧ imports = body.requests.map (.of files aliases path) := by
  unfold visitForScript
  cases hf : files.get? path with
  | none => simp
  | some f =>
      simp only [Option.some.injEq, exists_and_left, exists_eq_left']
      cases hb : compileFile f (.of files aliases path) with
      | error e => simp [bind, Except.bind]
      | ok body =>
          simp only [bind, Except.bind, pure, Except.pure, Except.ok.injEq, exists_eq_left', Prod.mk.injEq,
            eq_comm]

theorem dangling?_eq_none_iff (aliases : Aliases) (rs : List (String × Resolution)) :
    dangling? aliases rs = none ↔
      ∀ r ∈ rs, r.2.isOutside = true → Resolution.isLocal aliases r.1 = false := by
  induction rs with
  | nil => simp [dangling?]
  | cons r rs ih =>
      unfold dangling?
      rw [List.forall_mem_cons]
      split
      · rename_i h
        obtain ⟨ho, hl⟩ := Bool.and_eq_true_iff.mp h
        simp [ho, hl]
      · rename_i h
        rw [ih]
        refine ⟨fun hrs => ⟨fun ho => ?_, hrs⟩, fun hrs => hrs.2⟩
        simpa [ho] using h

theorem visitForFileMap_eq_ok_iff {aliases : Aliases} {result : String} {imports : List Resolution} :
    visitForFileMap files aliases path = .ok (result, imports) ↔
      ∃ f names, files.get? path = some f ∧ importsOfFile f = .ok names ∧
        (∀ n ∈ names, (Resolution.of files aliases path n).isOutside = true →
          Resolution.isLocal aliases n = false) ∧
        result = f.content ∧ imports = names.map (.of files aliases path) := by
  unfold visitForFileMap
  cases hf : files.get? path with
  | none => simp
  | some f =>
      simp only [Option.some.injEq, exists_and_left, exists_eq_left']
      cases hb : importsOfFile f with
      | error e => simp [bind, Except.bind]
      | ok names =>
          have hd := dangling?_eq_none_iff aliases
            (names.map fun n => (n, Resolution.of files aliases path n))
          rw [List.forall_mem_map] at hd
          have hmap : (names.map fun n => (n, Resolution.of files aliases path n)).map (·.2) =
              names.map (.of files aliases path) := by rw [List.map_map]; rfl
          simp only [bind, Except.bind, pure, Except.pure, hmap, Except.ok.injEq, exists_eq_left']
          split
          · rename_i specifier hn
            have hbad := mt hd.mpr (by rw [hn]; simp)
            exact iff_of_false (fun h => by cases h) fun h => hbad h.1
          · rename_i hn
            rw [and_iff_right (hd.mp hn)]
            simp only [Except.ok.injEq, Prod.mk.injEq, eq_comm]

/-- How a module is read for the strategy of a bundle. -/
def visit (c : BundleConfig) (files : FileSet) :
    String → Except BundleFailure (String × List Resolution) :=
  match c.strategy with
  | .script => visitForScript files c.aliases
  | .fileMap => visitForFileMap files c.aliases

theorem importsOf_eq {f : File} {names : List String} (hf : files.get? path = some f)
    (hn : c.namesIn f (.of files c.aliases path) = .ok names) : c.importsOf files path = names := by
  rw [importsOf, hf]
  dsimp only
  rw [hn]
  rfl

/-- **A module that was read is a file of the set**, and what is known of its imports is what their names
stand for. -/
theorem read_of_visit {result : String} {imports : List Resolution}
    (h : c.visit files path = .ok (result, imports)) :
    ∃ f, files.get? path = some f ∧
      c.namesIn f (.of files c.aliases path) = .ok (c.importsOf files path) ∧
      imports = (c.importsOf files path).map (.of files c.aliases path) := by
  have given {f : File} {names : List String} (hf : files.get? path = some f)
      (hn : c.namesIn f (.of files c.aliases path) = .ok names)
      (hi : imports = names.map (.of files c.aliases path)) :
      ∃ f, files.get? path = some f ∧
        c.namesIn f (.of files c.aliases path) = .ok (c.importsOf files path) ∧
        imports = (c.importsOf files path).map (.of files c.aliases path) := by
    rw [importsOf_eq hf hn]
    exact ⟨f, hf, hn, hi⟩
  unfold visit at h
  cases hs : c.strategy with
  | script =>
      rw [hs] at h
      obtain ⟨f, body, hf, hb, _, hi⟩ := visitForScript_eq_ok_iff.mp h
      exact given hf (by rw [namesIn, hs, hb]; rfl) hi
  | fileMap =>
      rw [hs] at h
      obtain ⟨f, names, hf, hn, _, _, hi⟩ := visitForFileMap_eq_ok_iff.mp h
      exact given hf (by rw [namesIn, hs, hn]) hi

/-! ## How a module fails to be read -/

/-- A file that cannot be compiled is reported as such. -/
theorem kind_of_compileFile {f : File} {resolve : String → Resolution} {e : BundleFailure}
    (h : compileFile f resolve = .error e) : e.report.kind = .compilation := by
  unfold compileFile at h
  split at h
  · cases h
  · split at h <;> cases h
    rfl
  · split at h
    · split at h
      · unfold ModuleBody.ofCode at h
        split at h <;> cases h
        rfl
      · cases h
        rfl
    · split at h <;> cases h

theorem kind_of_importsOfFile {f : File} {e : BundleFailure} (h : importsOfFile f = .error e) :
    e.report.kind = .compilation := by
  unfold importsOfFile at h
  split at h
  · split at h <;> cases h
    rfl
  · cases h

theorem isLocal_of_dangling? {aliases : Aliases} {rs : List (String × Resolution)} {specifier : String}
    (h : dangling? aliases rs = some specifier) : Resolution.isLocal aliases specifier = true := by
  induction rs with
  | nil => cases h
  | cons r rs ih =>
      unfold dangling? at h
      split at h
      · rename_i hr
        cases h
        exact (Bool.and_eq_true_iff.mp hr).2
      · exact ih h

/-- **A file of the set fails to be read** because it cannot be compiled, or in a file map because it
imports what looks like a file. -/
theorem failure_of_visit {e : BundleFailure} (hp : path ∈ files.paths)
    (h : c.visit files path = .error e) : e.report.kind = .compilation ∨
      c.strategy = .fileMap ∧ ∃ specifier, e = .unresolved path specifier ∧
        Resolution.isLocal c.aliases specifier = true := by
  obtain ⟨f, _, hf, _⟩ := FileSet.get?_of_mem_paths hp
  unfold visit at h
  cases hs : c.strategy with
  | script =>
      simp only [hs, visitForScript, hf] at h
      cases hb : compileFile f (.of files c.aliases path) with
      | error e' =>
          rw [hb] at h
          cases h
          exact .inl (kind_of_compileFile hb)
      | ok body => rw [hb] at h; cases h
  | fileMap =>
      simp only [hs, visitForFileMap, hf] at h
      cases hb : importsOfFile f with
      | error e' =>
          rw [hb] at h
          cases h
          exact .inl (kind_of_importsOfFile hb)
      | ok names =>
          simp only [hb, bind, Except.bind] at h
          split at h
          · rename_i specifier hd
            cases h
            exact .inr ⟨rfl, specifier, rfl, isLocal_of_dangling? hd⟩
          · cases h

/-! ## What a bundle is packed from -/

/-- The bundle of what was reached from an entry. -/
def artifactOf (c : BundleConfig) (files : FileSet) (start : String) (reached : List (Reached String)) :
    BundleArtifact :=
  { entryPoint := start
    externalized := externalsOf reached
    modules := reached.map (·.path)
    output := match c.strategy with
      | .script => .script (registryScript start (reached.map fun m => (m.path, m.result)))
      | .fileMap => .fileMap (Table.ofList (reached.map fun m => (m.path, m.result)))
          (dependencies files c.aliases (externalsOf reached)) }

theorem bundle_eq (c : BundleConfig) (files : FileSet) (entry : Option String) :
    c.bundle files entry = (c.detectEntry files entry).bind fun start =>
      (discover (c.visit files) (files.size + 1) [start] [start]).map (c.artifactOf files start) := by
  unfold bundle visit
  cases c.detectEntry files entry <;> rfl

/-- The entry is a file of the set. -/
theorem mem_paths_of_detectEntry (h : c.detectEntry files entry = .ok start) : start ∈ files.paths := by
  have found {p : String} {f : File} (hf : files.get? p = some f) : f.path ∈ files.paths :=
    List.mem_map_of_mem (FileSet.get?_eq_some_iff.mp hf).1
  unfold detectEntry at h
  split at h
  · rename_i f hf
    cases h
    obtain ⟨p, _, hp⟩ := Option.bind_eq_some_iff.mp hf
    exact found hp
  · split at h
    · rename_i f hf
      cases h
      obtain ⟨p, _, hp⟩ := List.exists_of_findSome?_eq_some hf
      exact found hp
    · cases h

/-- What a module leads to is a file of the set. -/
theorem mem_paths_of_targets {result : String} {imports : List Resolution}
    (hv : c.visit files path = .ok (result, imports)) : ∀ q ∈ targets imports, q ∈ files.paths := by
  intro q hq
  obtain ⟨f, _, _, rfl⟩ := read_of_visit hv
  obtain ⟨name, _, hi⟩ := mem_localImports.mp hq
  exact Resolution.mem_paths_of_inside hi

/-- **The files that an entry leads to are gathered until none is left.** -/
theorem drained_bundle (h : c.detectEntry files entry = .ok start) :
    Drained (c.visit files) [start] [start]
      (discover (c.visit files) (files.size + 1) [start] [start]) := by
  have hlt : files.paths.length < files.size + 1 + ([] : List String).length := by
    rw [FileSet.length_paths]
    exact Nat.lt_succ_self _
  exact drained_discover (fun _ _ _ _ => mem_paths_of_targets)
    (underway_start (mem_paths_of_detectEntry h)) hlt

/-! ## Bundles are closed -/

/-- What the script of a bundle holds: a body for each of its modules, compiled with what its imports
stand for. -/
structure HoldsScript (c : BundleConfig) (files : FileSet) (a : BundleArtifact) (code : String) :
    Prop where
  strategy : c.strategy = .script
  bodies : ∃ parts : List (String × String), code = registryScript a.entryPoint parts ∧
    parts.map (·.1) = a.modules ∧
    ∀ part ∈ parts, ∃ f body, files.get? part.1 = some f ∧
      compileFile f (.of files c.aliases part.1) = .ok body ∧ body.code = part.2 ∧
      -- whatever file the body asks the registry for is a module
      (∀ name ∈ body.requests, ∀ q, Resolution.of files c.aliases part.1 name = .inside q →
        q ∈ a.modules) ∧
      -- and it asks for nothing but its requests
      ∀ resolve : String → Resolution,
        (∀ name ∈ body.requests, resolve name = .of files c.aliases part.1 name) →
        compileFile f resolve = .ok body

/-- What the files of a bundle are: those of its modules, with their contents. -/
structure HoldsFiles (c : BundleConfig) (files : FileSet) (a : BundleArtifact) (contents : Table String) :
    Prop where
  strategy : c.strategy = .fileMap
  ascending : contents.Ascending
  mem_iff : ∀ path content, (path, content) ∈ contents ↔
    path ∈ a.modules ∧ ∃ f, files.get? path = some f ∧ f.content = content

/-- What is known of a bundle. -/
structure Closed (c : BundleConfig) (files : FileSet) (entry : Option String) (a : BundleArtifact) :
    Prop where
  start : c.detectEntry files entry = .ok a.entryPoint
  /-- Each module is a file of the set, under its canonical path. -/
  filed : ∀ m ∈ a.modules, m ∈ files.paths ∧ Path.normalize m = m
  /-- Each module was read. -/
  readable : ∀ m ∈ a.modules, ∃ f, files.get? m = some f ∧
    c.namesIn f (.of files c.aliases m) = .ok (c.importsOf files m)
  reachable_iff : ∀ m, m ∈ a.modules ↔ Relation.ReflTransGen (c.Leads files) a.entryPoint m
  nodup : a.modules.Nodup
  /-- The entry, and then what the modules import, each where it is met first. -/
  breadthFirst : a.modules = (a.entryPoint :: a.modules.flatMap (c.localImports files)).eraseDups
  closed : ∀ m ∈ a.modules, ∀ q ∈ c.localImports files m, q ∈ a.modules
  externalized_ascending : a.externalized.Pairwise (· < ·)
  mem_externalized_iff : ∀ name, name ∈ a.externalized ↔
    ∃ m ∈ a.modules, name ∈ c.importsOf files m ∧ Resolution.of files c.aliases m name = .outside name
  output : (∃ code, a.output = .script code ∧ c.HoldsScript files a code) ∨
    ∃ contents versions, a.output = .fileMap contents versions ∧ c.HoldsFiles files a contents

section Reached

variable {reached : List (Reached String)} (h : Drained (c.visit files) [start] [start] (.ok reached))
include h

/-- What is known of a module that was reached. -/
theorem read_of_mem {m : Reached String} (hm : m ∈ reached) : ∃ f, files.get? m.path = some f ∧
    c.namesIn f (.of files c.aliases m.path) = .ok (c.importsOf files m.path) ∧
    m.imports = (c.importsOf files m.path).map (.of files c.aliases m.path) :=
  read_of_visit (h.visited m hm)

theorem targets_of_mem {m : Reached String} (hm : m ∈ reached) :
    targets m.imports = c.localImports files m.path := by
  obtain ⟨f, _, _, hi⟩ := read_of_mem h hm
  rw [hi, localImports]

theorem flatMap_targets : reached.flatMap (fun m => targets m.imports) =
    (reached.map (·.path)).flatMap (c.localImports files) := by
  rw [List.flatMap_map]
  exact congrArg List.flatten (List.map_congr_left fun m hm => targets_of_mem h hm)

theorem mem_modules_iff {q : String} : q ∈ reached.map (·.path) ↔
    q = start ∨ ∃ p ∈ reached.map (·.path), q ∈ c.localImports files p := by
  rw [h.mem_paths_iff]
  refine or_congr_right ⟨?_, ?_⟩
  · rintro ⟨m, hm, hq⟩
    exact ⟨m.path, List.mem_map_of_mem hm, by rwa [targets_of_mem h hm] at hq⟩
  · rintro ⟨p, hp, hq⟩
    obtain ⟨m, hm, rfl⟩ := List.mem_map.mp hp
    exact ⟨m, hm, by rwa [targets_of_mem h hm]⟩

/-- From a file of the set, only files of the set are reached. -/
theorem mem_paths_of_mem (hstart : start ∈ files.paths) (hq : path ∈ reached.map (·.path)) :
    path ∈ files.paths := by
  obtain ⟨m, hm, rfl⟩ := List.mem_map.mp hq
  refine (h.holds (P := (· ∈ files.paths)) ?_ fun _ _ _ _ => mem_paths_of_targets).1 reached rfl m hm
  intro p hp
  rwa [List.mem_singleton.mp hp]

/-- What was reached is what imports lead to. -/
theorem mem_modules_iff_reachable {q : String} :
    q ∈ reached.map (·.path) ↔ Relation.ReflTransGen (c.Leads files) start q := by
  constructor
  · intro hq
    obtain ⟨m, hm, rfl⟩ := List.mem_map.mp hq
    refine (h.holds (P := Relation.ReflTransGen (c.Leads files) start) ?_ ?_).1 reached rfl m hm
    · intro p hp
      rw [List.mem_singleton.mp hp]
    · intro p result imports hp hv q hq
      obtain ⟨f, _, _, rfl⟩ := read_of_visit hv
      exact hp.tail hq
  · intro hq
    induction hq with
    | refl => exact (mem_modules_iff h).mpr (.inl rfl)
    | tail _ hlead ih => exact (mem_modules_iff h).mpr (.inr ⟨_, ih, hlead⟩)

theorem mem_externalsOf_iff {name : String} : name ∈ externalsOf reached ↔
    ∃ p ∈ reached.map (·.path), name ∈ c.importsOf files p ∧
      Resolution.of files c.aliases p name = .outside name := by
  unfold externalsOf
  simp only [mem_sortedTexts, List.mem_flatMap, List.mem_filterMap, Resolution.outside?_eq_some_iff]
  constructor
  · rintro ⟨m, hm, r, hr, rfl⟩
    obtain ⟨f, _, _, hi⟩ := read_of_mem h hm
    rw [hi] at hr
    obtain ⟨n, hn, ho⟩ := List.mem_map.mp hr
    -- it is left to the host under its own name
    obtain rfl := Resolution.eq_of_outside ho
    exact ⟨m.path, List.mem_map_of_mem hm, hn, ho⟩
  · rintro ⟨p, hp, hn, ho⟩
    obtain ⟨m, hm, rfl⟩ := List.mem_map.mp hp
    obtain ⟨f, _, _, hi⟩ := read_of_mem h hm
    exact ⟨m, hm, _, by rw [hi]; exact List.mem_map.mpr ⟨name, hn, ho⟩, rfl⟩

theorem holdsScript (hs : c.strategy = .script) : c.HoldsScript files (c.artifactOf files start reached)
    (registryScript start (reached.map fun m => (m.path, m.result))) where
  strategy := hs
  bodies := by
    refine ⟨_, rfl, by rw [List.map_map]; rfl, ?_⟩
    intro part hpart
    obtain ⟨m, hm, rfl⟩ := List.mem_map.mp hpart
    have hv := h.visited m hm
    rw [visit, hs] at hv
    obtain ⟨f, body, hf, hb, hresult, hi⟩ := visitForScript_eq_ok_iff.mp hv
    refine ⟨f, body, hf, hb, hresult.symm, ?_, fun resolve hr => compileFile_congr hb hr⟩
    intro name hn q hq
    have htarget : q ∈ targets m.imports := by
      rw [hi]
      exact List.mem_filterMap.mpr ⟨_, List.mem_map_of_mem hn, Resolution.inside?_eq_some_iff.mpr hq⟩
    exact h.mem_paths_iff.mpr (.inr ⟨m, hm, htarget⟩)

theorem holdsFiles (hs : c.strategy = .fileMap) : c.HoldsFiles files (c.artifactOf files start reached)
    (Table.ofList (reached.map fun m => (m.path, m.result))) where
  strategy := hs
  ascending := Table.ascending_ofList _
  mem_iff := by
    have hd : ((reached.map fun m => (m.path, m.result)).map (·.1)).Nodup := by
      rw [List.map_map]
      exact h.nodup_paths
    -- what was read of a module is the text of its file
    have hresult (m : Reached String) (hm : m ∈ reached) :
        ∃ f, files.get? m.path = some f ∧ f.content = m.result := by
      have hv := h.visited m hm
      rw [visit, hs] at hv
      obtain ⟨f, _, hf, _, _, hresult, _⟩ := visitForFileMap_eq_ok_iff.mp hv
      exact ⟨f, hf, hresult.symm⟩
    intro path content
    rw [Table.mem_ofList_iff hd]
    constructor
    · intro hpart
      obtain ⟨m, hm, he⟩ := List.mem_map.mp hpart
      obtain ⟨rfl, rfl⟩ := Prod.mk.inj he
      exact ⟨List.mem_map_of_mem hm, hresult m hm⟩
    · rintro ⟨hpath, f, hf, rfl⟩
      obtain ⟨m, hm, rfl⟩ := List.mem_map.mp hpath
      obtain ⟨g, hg, hcontent⟩ := hresult m hm
      rw [hf] at hg
      cases hg
      exact List.mem_map.mpr ⟨m, hm, by rw [hcontent]⟩

theorem closed_artifactOf (hs : c.detectEntry files entry = .ok start) :
    c.Closed files entry (c.artifactOf files start reached) where
  start := hs
  filed := by
    intro path hpath
    have hp := mem_paths_of_mem h (mem_paths_of_detectEntry hs) hpath
    exact ⟨hp, FileSet.normalize_of_mem_paths hp⟩
  readable := by
    intro path hpath
    obtain ⟨m, hm, rfl⟩ := List.mem_map.mp hpath
    obtain ⟨f, hf, hn, _⟩ := read_of_mem h hm
    exact ⟨f, hf, hn⟩
  reachable_iff := fun m => mem_modules_iff_reachable h
  nodup := h.nodup_paths
  breadthFirst := h.paths_eq.trans (by rw [flatMap_targets h]; rfl)
  closed := fun m hm q hq => (mem_modules_iff h).mpr (.inr ⟨m, hm, hq⟩)
  externalized_ascending := ascending_sortedTexts _
  mem_externalized_iff := fun name => mem_externalsOf_iff h
  output := by
    cases hstrategy : c.strategy with
    | script =>
        refine .inl ⟨_, ?_, holdsScript h hstrategy⟩
        rw [artifactOf, hstrategy]
    | fileMap =>
        refine .inr ⟨_, dependencies files c.aliases (externalsOf reached), ?_, holdsFiles h hstrategy⟩
        rw [artifactOf, hstrategy]

end Reached

/-- Once the entry is told, a bundle comes to what the reading of all it leads to comes to. -/
theorem exists_drained (h : c.detectEntry files entry = .ok start) :
    ∃ r, Drained (c.visit files) [start] [start] r ∧
      c.bundle files entry = r.map (c.artifactOf files start) :=
  ⟨_, drained_bundle h, by rw [bundle_eq, h]; rfl⟩

/-- A bundle is packed from what its entry leads to. -/
theorem exists_reached_of_bundle (h : c.bundle files entry = .ok a) :
    ∃ start reached, c.detectEntry files entry = .ok start ∧
      Drained (c.visit files) [start] [start] (.ok reached) ∧ a = c.artifactOf files start reached := by
  cases hs : c.detectEntry files entry with
  | error e =>
      rw [bundle_eq, hs] at h
      cases h
  | ok start =>
      obtain ⟨r, hr, hb⟩ := exists_drained hs
      rw [hb] at h
      cases r with
      | error e => cases h
      | ok reached =>
          cases h
          exact ⟨start, reached, rfl, hr, rfl⟩

theorem closed_of_bundle (h : c.bundle files entry = .ok a) : c.Closed files entry a := by
  obtain ⟨start, reached, hs, hr, rfl⟩ := exists_reached_of_bundle h
  exact closed_artifactOf hr hs

/-- The entry is a module. -/
theorem Closed.entry_mem (ha : c.Closed files entry a) : a.entryPoint ∈ a.modules :=
  (ha.reachable_iff _).mpr .refl

/-- **What holds of the entry, and with a module of all that it imports, holds of every module.** -/
theorem Closed.module_induction {P : String → Prop} (ha : c.Closed files entry a) (hentry : P a.entryPoint)
    (hlead : ∀ p ∈ a.modules, P p → ∀ q ∈ c.localImports files p, P q) : ∀ m ∈ a.modules, P m := by
  intro m hm
  induction (ha.reachable_iff m).mp hm with
  | refl => exact hentry
  | tail hreach hq ih =>
      have hp := (ha.reachable_iff _).mpr hreach
      exact hlead _ hp (ih hp) _ hq

/-- A bundle is packed as it was asked for. -/
theorem strategy_of_bundle (h : c.bundle files entry = .ok a) : a.strategy = c.strategy := by
  obtain ⟨_, _, _, _, rfl⟩ := exists_reached_of_bundle h
  unfold artifactOf BundleArtifact.strategy
  cases c.strategy <;> rfl

/-- What keeps a bundle from being made: there is no entry, or something that the entry leads to cannot
be read. -/
theorem exists_of_bundle_eq_error {e : BundleFailure} (h : c.bundle files entry = .error e) :
    c.detectEntry files entry = .error e ∨
      ∃ start r, c.detectEntry files entry = .ok start ∧
        Drained (c.visit files) [start] [start] r ∧ r = .error e := by
  cases hs : c.detectEntry files entry with
  | error e' =>
      rw [bundle_eq, hs] at h
      cases h
      exact .inl rfl
  | ok start =>
      obtain ⟨r, hr, hb⟩ := exists_drained hs
      rw [hb] at h
      cases r with
      | ok reached => cases h
      | error e' =>
          cases h
          exact .inr ⟨start, _, rfl, hr, rfl⟩

/-- An entry that cannot be told is reported as such. -/
theorem detectEntry_eq_error {e : BundleFailure} (h : c.detectEntry files entry = .error e) :
    e = .noEntry c.entryCandidates := by
  unfold detectEntry at h
  split at h
  · cases h
  · split at h <;> cases h
    rfl

/-- **Why a bundle is not made**: there is no entry, a file cannot be compiled, or in a file map a module
imports what looks like a file. -/
theorem failure_of_bundle {e : BundleFailure} (h : c.bundle files entry = .error e) :
    e = .noEntry c.entryCandidates ∨ e.report.kind = .compilation ∨
      c.strategy = .fileMap ∧ ∃ importer specifier, e = .unresolved importer specifier ∧
        Resolution.isLocal c.aliases specifier = true := by
  rcases exists_of_bundle_eq_error h with hnone | ⟨start, r, hs, hr, he⟩
  · exact .inl (detectEntry_eq_error hnone)
  · have hstart : ∀ p ∈ [start], p ∈ files.paths := by
      intro p hp
      rw [List.mem_singleton.mp hp]
      exact mem_paths_of_detectEntry hs
    -- the failure is that of a file of the set
    obtain ⟨p, hp, hv⟩ := (hr.holds hstart fun _ _ _ _ => mem_paths_of_targets).2 _ he
    exact .inr ((failure_of_visit hp hv).imp_right fun ⟨hm, specifier, hu, hl⟩ =>
      ⟨hm, p, specifier, hu, hl⟩)

theorem bundle_ne_missing (q : String) : c.bundle files entry ≠ .error (.missing q) := by
  intro h
  rcases failure_of_bundle h with h | h | ⟨_, _, _, h, _⟩ <;> cases h

/-- **Bundles are closed.** Once the entry is told, its files are gathered until none is left, and the
bundle is packed from them or from the failure that ended it. A bundle that is made is closed, and no
module is ever missing. -/
theorem closed_bundle (c : BundleConfig) (files : FileSet) (entry : Option String) :
    (∀ start, c.detectEntry files entry = .ok start →
      ∃ r, Drained (c.visit files) [start] [start] r ∧
        c.bundle files entry = r.map (c.artifactOf files start)) ∧
    (∀ a, c.bundle files entry = .ok a → c.Closed files entry a) ∧
    ∀ path, c.bundle files entry ≠ .error (.missing path) :=
  ⟨fun _ => exists_drained, fun _ => closed_of_bundle, bundle_ne_missing⟩

/-- Two modules that lead to each other, one of them by an alias, a package, and a file that nothing
leads to. -/
def circular : FileSet :=
  .ofContents [
    ("src/main.tsx", "import '@/a';\nimport 'react';\n"),
    ("src/a.ts", "export * from './main';\n"),
    ("src/b.ts", "")]

/-- Each of the two is a module once, and they are all there is. -/
theorem closed_bundle_circular :
    ∃ a, ({} : BundleConfig).bundle circular none = .ok a ∧
      a.modules = ["src/main.tsx", "src/a.ts"] ∧ a.externalized = ["react"] ∧
      BundleConfig.Closed {} circular none a ∧
      ∃ r, Drained (BundleConfig.visit {} circular) [a.entryPoint] [a.entryPoint] r := by
  have hb : (({} : BundleConfig).bundle circular none).toOption.map
      (fun a => (a.modules, a.externalized)) = some (["src/main.tsx", "src/a.ts"], ["react"]) := by
    decide +kernel
  obtain ⟨a, ha, hpair⟩ := exists_ok_of_map hb
  obtain ⟨hm, he⟩ := Prod.mk.inj hpair
  obtain ⟨hgathered, hclosed, _⟩ := closed_bundle {} circular none
  obtain ⟨r, hr, _⟩ := hgathered a.entryPoint (hclosed a ha).start
  exact ⟨a, ha, hm, he, hclosed a ha, r, hr⟩

end BundleConfig

end AppMend
