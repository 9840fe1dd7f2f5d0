import AppMend.Proofs.Bundle.Closure

/-!
# Aliases one within another

A specifier may begin with several aliases. It is taken for the shortest of them, because a text comes
before all that goes on from it in the order of a table (`Resolution.aliasOf?_eq_some_iff`). No other alias
is tried then, also if that one leads to no file: an alias that leads to a file may be shadowed by a shorter
one, and it is exactly the shadowed ones that lead nowhere (`Resolution.inside_iff_not_shadowed`).
-/

namespace AppMend.Resolution

variable {files : FileSet} {aliases : Aliases}
  {specifier lead lead' directory directory' rest rest' importer path : String}

/-! ## The alias that is taken -/

/-- The alias that a specifier is taken for: of those that it begins with, the shortest. -/
structure Takes (aliases : Aliases) (specifier lead directory rest : String) : Prop where
  mem : (lead, directory) ∈ aliases
  eq : specifier = lead ++ rest
  shortest : ∀ a ∈ aliases, a.1.toList <+: specifier.toList → lead.length ≤ a.1.length

theorem startsWith_lead (h : specifier = lead ++ rest) : lead.toList <+: specifier.toList := by
  rw [h, String.toList_append]
  exact List.prefix_append _ _

theorem dropStart?_isSome_iff {p s : List Char} : (Text.dropStart? p s).isSome = true ↔ p <+: s := by
  unfold Text.dropStart?
  rw [← List.isPrefixOf_iff_prefix]
  split <;> simp_all

/-- Of two texts that one text begins with, the one that comes first is no longer. -/
theorem length_le_of_lt {a b : String} {s : List Char} (ha : a.toList <+: s) (hb : b.toList <+: s)
    (h : a < b) : a.length ≤ b.length := by
  refine Nat.le_of_not_lt fun hlen => ?_
  have hprefix : b.toList <+: a.toList := by
    refine List.prefix_of_prefix_length_le hb ha ?_
    rw [String.length_toList, String.length_toList]
    exact Nat.le_of_lt hlen
  exact List.not_lt.mpr hprefix.le (String.lt_iff.mp h)

/-- A specifier is taken for one alias at most. -/
theorem Takes.unique (ht : Table.Ascending aliases) (h : Takes aliases specifier lead directory rest)
    (h' : Takes aliases specifier lead' directory' rest') :
    lead = lead' ∧ directory = directory' ∧ rest = rest' := by
  have hlen : lead.length = lead'.length :=
    Nat.le_antisymm (h.shortest _ h'.mem (startsWith_lead h'.eq)) (h'.shortest _ h.mem (startsWith_lead h.eq))
  have hsame : lead.toList ++ rest.toList = lead'.toList ++ rest'.toList := by
    rw [← String.toList_append, ← String.toList_append, ← h.eq, ← h'.eq]
  obtain ⟨hlead, hrest⟩ := List.append_inj hsame (by rwa [String.length_toList, String.length_toList])
  obtain rfl := String.toList_inj.mp hlead
  obtain rfl := String.toList_inj.mp hrest
  exact ⟨rfl, (Prod.mk.inj (ht.eq_of_name_eq h.mem h'.mem rfl)).2, rfl⟩

/-- The first alias of a table that a specifier begins with is the shortest. -/
theorem takes_of_aliasOf? (ht : Table.Ascending aliases)
    (h : aliasOf? aliases specifier = some (directory, rest)) :
    ∃ lead, Takes aliases specifier lead directory rest := by
  obtain ⟨before, ⟨lead, dir⟩, after, rfl, hfound, hnone⟩ := List.findSome?_eq_some_iff.mp h
  obtain ⟨cs, hcs, he⟩ := Option.map_eq_some_iff.mp hfound
  obtain ⟨rfl, rfl⟩ := Prod.mk.inj he
  have hspec : specifier = lead ++ String.ofList cs := by
    rw [← String.toList_inj, String.toList_append, String.toList_ofList]
    exact Text.dropStart?_eq_some hcs
  refine ⟨lead, by simp, hspec, fun a ha hprefix => ?_⟩
  rcases List.mem_append.mp ha with ha | ha
  · -- the specifier begins with none of the aliases before
    have hdrop := dropStart?_isSome_iff.mpr hprefix
    rw [Option.map_eq_none_iff.mp (hnone a ha)] at hdrop
    cases hdrop
  · rcases List.mem_cons.mp ha with rfl | ha
    · exact Nat.le_refl _
    · have hlt := List.rel_of_pairwise_cons (List.pairwise_append.mp ht).2.1 ha
      exact length_le_of_lt (startsWith_lead hspec) hprefix hlt

/-- A specifier that begins with an alias is taken for one. -/
theorem exists_aliasOf? (hm : (lead, directory) ∈ aliases) (hs : specifier = lead ++ rest) :
    ∃ directory' rest', aliasOf? aliases specifier = some (directory', rest') := by
  have hsome : (aliasOf? aliases specifier).isSome = true := by
    refine List.findSome?_isSome_iff.mpr ⟨_, hm, ?_⟩
    rw [Option.isSome_map]
    exact dropStart?_isSome_iff.mpr (startsWith_lead hs)
  obtain ⟨⟨directory', rest'⟩, h⟩ := Option.isSome_iff_exists.mp hsome
  exact ⟨directory', rest', h⟩

/-- **In a table, a specifier is taken for the shortest alias that it begins with.** -/
theorem aliasOf?_eq_some_iff (ht : Table.Ascending aliases) :
    aliasOf? aliases specifier = some (directory, rest) ↔
      ∃ lead, Takes aliases specifier lead directory rest := by
  refine ⟨takes_of_aliasOf? ht, fun ⟨lead, h⟩ => ?_⟩
  obtain ⟨directory', rest', h'⟩ := exists_aliasOf? h.mem h.eq
  obtain ⟨lead', hTaken⟩ := takes_of_aliasOf? ht h'
  obtain ⟨_, rfl, rfl⟩ := h.unique ht hTaken
  exact h'

/-! ## Where aliases lead -/

/-- Whether an alias is kept from leading a specifier to a file: it is taken for a shorter alias, which
leads to none. -/
def Shadowed (files : FileSet) (aliases : Aliases) (specifier lead : String) : Prop :=
  ∃ lead' directory rest, Takes aliases specifier lead' directory rest ∧ lead'.length < lead.length ∧
    probeAlias files directory rest = none

/-- A specifier that is neither relative nor of the host stands for what the alias leads to that it is
taken for. -/
theorem find?_of_takes (ht : Table.Ascending aliases) (hh : specifier ∉ hostPackages)
    (hr : isRelative specifier = false) (h : Takes aliases specifier lead directory rest) :
    find? files aliases importer specifier = probeAlias files directory rest := by
  have halias := (aliasOf?_eq_some_iff ht).mpr ⟨lead, h⟩
  rw [find?, if_neg (by simpa using hh), if_neg (by simp [hr]), halias]
  rfl

/-- An alias leads to the file in its directory first. -/
theorem probeAlias_of_probe (h : probe files (Path.join directory rest) = some path) :
    probeAlias files directory rest = some path := by
  rw [probeAlias, List.findSome?_cons, h]

theorem inside_iff_find? : (∃ q, of files aliases importer specifier = .inside q) ↔
    (find? files aliases importer specifier).isSome = true := by
  unfold of
  cases find? files aliases importer specifier <;> simp

/-- **An alias that leads to a file is followed to a file exactly if it is not shadowed.** If it is the
shortest one that the specifier begins with, it is followed to that very file. -/
theorem inside_iff_not_shadowed (ht : Table.Ascending aliases) (hh : specifier ∉ hostPackages)
    (hr : isRelative specifier = false) (hm : (lead, directory) ∈ aliases)
    (hs : specifier = lead ++ rest) (hp : probe files (Path.join directory rest) = some path)
    (importer : String) :
    ((∃ q, of files aliases importer specifier = .inside q) ↔
        ¬Shadowed files aliases specifier lead) ∧
      ((∀ a ∈ aliases, a.1.toList <+: specifier.toList → lead.length ≤ a.1.length) →
        of files aliases importer specifier = .inside path) := by
  obtain ⟨directory', rest', halias⟩ := exists_aliasOf? hm hs
  obtain ⟨lead', hTaken⟩ := takes_of_aliasOf? ht halias
  have hfind : find? files aliases importer specifier = probeAlias files directory' rest' :=
    find?_of_takes ht hh hr hTaken
  -- an alias as short as the one that is taken is that one
  have hshort (hlead : ∀ a ∈ aliases, a.1.toList <+: specifier.toList → lead.length ≤ a.1.length) :
      probeAlias files directory' rest' = some path := by
    obtain ⟨_, rfl, rfl⟩ := hTaken.unique ht ⟨hm, hs, hlead⟩
    exact probeAlias_of_probe hp
  constructor
  · rw [inside_iff_find?, hfind]
    constructor
    · rintro hsome ⟨lead₀, directory₀, rest₀, h₀, _, hnone⟩
      obtain ⟨_, rfl, rfl⟩ := hTaken.unique ht h₀
      rw [hnone] at hsome
      cases hsome
    · intro hclear
      rw [← Option.ne_none_iff_isSome]
      intro hnone
      refine hclear ⟨lead', directory', rest', hTaken, Nat.lt_of_not_le fun hle => ?_, hnone⟩
      have hlead := hshort fun a ha hprefix => Nat.le_trans hle (hTaken.shortest a ha hprefix)
      rw [hnone] at hlead
      cases hlead
  · intro hlead
    rw [of, hfind, hshort hlead]

/-- One alias within another, each with a directory of its own. -/
def nestedAliases : Aliases := [("@/", "src/"), ("@/ui/", "packages/ui/")]

/-- The longer alias is followed to a file here, though not to the one in its own directory: the shorter one
leads to a file as well. -/
theorem inside_iff_not_shadowed_twice :
    let files : FileSet := .ofContents [("packages/ui/Card.tsx", ""), ("src/ui/Card.tsx", "")]
    probe files (Path.join "packages/ui/" "Card") = some "packages/ui/Card.tsx" ∧
      ¬Shadowed files nestedAliases "@/ui/Card" "@/ui/" ∧
      of files nestedAliases "main.tsx" "@/ui/Card" = .inside "src/ui/Card.tsx" := by
  intro files
  have hp : probe files (Path.join "packages/ui/" "Card") = some "packages/ui/Card.tsx" := by
    decide +kernel
  have hof : of files nestedAliases "main.tsx" "@/ui/Card" = .inside "src/ui/Card.tsx" := by
    decide +kernel
  have ht : Table.Ascending nestedAliases := List.pairwise_pair.mpr (by decide)
  have hs : "@/ui/Card" = "@/ui/" ++ "Card" := by decide
  obtain ⟨hiff, _⟩ :=
    inside_iff_not_shadowed ht (by decide) (by decide +kernel) (by decide) hs hp "main.tsx"
  exact ⟨hp, hiff.mp ⟨_, hof⟩, hof⟩

/-- **A longer alias is shadowed**: it leads to a file, and the specifier is left to the host, because it
begins with a shorter alias, which leads to none. -/
theorem shadowed_by_shorter :
    let files : FileSet := .ofContents [("packages/ui/Card.tsx", "")]
    Table.Ascending nestedAliases ∧ "@/ui/Card" ∉ hostPackages ∧ isRelative "@/ui/Card" = false ∧
      ("@/ui/", "packages/ui/") ∈ nestedAliases ∧ "@/ui/Card" = "@/ui/" ++ "Card" ∧
      probe files (Path.join "packages/ui/" "Card") = some "packages/ui/Card.tsx" ∧
      of files nestedAliases "main.tsx" "@/ui/Card" = .outside "@/ui/Card" := by
  intro files
  exact ⟨List.pairwise_pair.mpr (by decide), by decide, by decide +kernel, by decide, by decide,
    by decide +kernel, by decide +kernel⟩

end AppMend.Resolution
