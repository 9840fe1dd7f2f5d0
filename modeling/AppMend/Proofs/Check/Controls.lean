import AppMend.Check.Markup
import AppMend.Proofs.Check.Imports

/-!
# Raw controls and the design system

A raw control is excused in a file that imports the design system's component of its name. The sources of the
imports are compared in lower case and the directory of the design system as it is configured. So a directory
without capitals excuses a control whenever an import ends in its component, in whatever case
(`raw_control_judged`), and one with a capital never excuses any.
-/

namespace AppMend.Check

open Text Pattern

variable {rules : Rules} {tag : String} {imports : List Import} {s u : List Char}

/-! ## Lower case -/

/-- A text has no capital of ASCII. -/
def NoCapital (s : String) : Prop := ∀ c ∈ s.toList, c.isUpper = false

instance (s : String) : Decidable (NoCapital s) := List.decidableBAll _ _

theorem isUpper_toLower (c : Char) : c.toLower.isUpper = false := by
  unfold Char.isUpper Char.toLower
  split <;> grind [UInt32.toNat_add]

theorem toLower_of_isUpper_eq_false {c : Char} (h : c.isUpper = false) : c.toLower = c := by
  unfold Char.isUpper at h
  unfold Char.toLower
  grind

/-- A text without capitals is its own lower case. -/
theorem map_toLower_eq_self_iff : s.map Char.toLower = s ↔ ∀ c ∈ s, c.isUpper = false := by
  constructor
  · intro h c hc
    rw [← h] at hc
    obtain ⟨d, _, rfl⟩ := List.mem_map.mp hc
    exact isUpper_toLower d
  · intro h
    calc s.map Char.toLower
      _ = s.map id := List.map_congr_left fun c hc => toLower_of_isUpper_eq_false (h c hc)
      _ = s := List.map_id s

/-! ## When a control is excused -/

/-- The component of the design system for a control. -/
def component (rules : Rules) (tag : String) : List Char := (rules.designSystemDir ++ "/" ++ tag).toList

/-- The source of an import ends in a component, in whatever case. -/
def EndsInComponent (rules : Rules) (tag : String) (source : List Char) : Prop :=
  (component rules tag).map Char.toLower <:+ source.map Char.toLower

theorem component_lower_iff (htag : NoCapital tag) :
    (component rules tag).map Char.toLower = component rules tag ↔ NoCapital rules.designSystemDir := by
  have hslash : ∀ c ∈ "/".toList, c.isUpper = false := forall_of_all (by decide)
  rw [map_toLower_eq_self_iff, component, String.toList_append, String.toList_append]
  simp only [List.forall_mem_append]
  exact ⟨fun h => h.1.1, fun h => ⟨⟨h, hslash⟩, htag⟩⟩

/-- **Imports excuse a control exactly if the directory has no capital and one ends in the component.** -/
theorem importsComponent_iff (htag : NoCapital tag) : importsComponent rules imports tag = true ↔
    NoCapital rules.designSystemDir ∧ ∃ i ∈ imports, EndsInComponent rules tag i.source := by
  have hany : importsComponent rules imports tag = true ↔
      ∃ i ∈ imports, component rules tag <:+ i.source.map Char.toLower := by
    simp [importsComponent, component]
  rw [hany]
  constructor
  · rintro ⟨i, hi, hsuffix⟩
    -- what ends a text in lower case is in lower case
    have hlower : (component rules tag).map Char.toLower = component rules tag := by
      refine map_toLower_eq_self_iff.mpr fun c hc => ?_
      obtain ⟨d, _, rfl⟩ := List.mem_map.mp (hsuffix.subset hc)
      exact isUpper_toLower d
    refine ⟨(component_lower_iff htag).mp hlower, i, hi, ?_⟩
    rw [EndsInComponent, hlower]
    exact hsuffix
  · rintro ⟨hdir, i, hi, hends⟩
    rw [EndsInComponent, (component_lower_iff htag).mpr hdir] at hends
    exact ⟨i, hi, hends⟩

/-! ## What is found -/

/-- The finding of a raw control. -/
def rawControlFinding (f : File) (rules : Rules) (tag : String) (line : Nat) : Finding :=
  { kind := .quality, message := rawControlMessage rules tag, file := f.path, line }

/-- A raw control has one finding or none, in its place among those of the other issues. -/
theorem markupFindings_rawControl (f : File) (line : Nat) (before after : List MarkupIssue) :
    markupFindings f rules (before ++ .rawControl tag line :: after) = markupFindings f rules before ++
      (if importsComponent rules (importsOf f.content.toList) tag then []
        else [rawControlFinding f rules tag line]) ++ markupFindings f rules after := by
  unfold markupFindings
  rw [List.filterMap_append, List.filterMap_cons, MarkupIssue.finding?]
  split <;> simp_all [rawControlFinding]

/-- **A raw control is judged by the imports of its file.** With a directory in lower case it has no finding in a
file that imports its component. It has one if no import that is read ends in the component, and in any case if the
directory has a capital. The imports that are read are written in the file, and those of the file are read. -/
theorem raw_control_judged (f : File) (rules : Rules) {tag : String} (htag : NoCapital tag) (line : Nat)
    (before after : List MarkupIssue) :
    let found := markupFindings f rules (before ++ .rawControl tag line :: after)
    let others := fun own => markupFindings f rules before ++ own ++ markupFindings f rules after
    let text := f.content.toList
    (NoCapital rules.designSystemDir →
      (∃ source, Imports text source ∧ EndsInComponent rules tag source) → found = others []) ∧
    ((∀ i ∈ importsOf text, ¬EndsInComponent rules tag i.source) ∨ ¬NoCapital rules.designSystemDir →
      found = others [rawControlFinding f rules tag line]) ∧
    (∀ i ∈ importsOf text, WritesImport text i.source) ∧
    ∀ source, Imports text source → ∃ i ∈ importsOf text, i.source = source := by
  intro found others text
  have hfound : found = others (if importsComponent rules (importsOf text) tag then []
      else [rawControlFinding f rules tag line]) := markupFindings_rawControl f line before after
  refine ⟨?_, ?_, fun i hi => writesImport_of_mem_importsOf hi, fun source h => exists_mem_importsOf h⟩
  · rintro hdir ⟨source, himports, hends⟩
    obtain ⟨i, hi, rfl⟩ := exists_mem_importsOf himports
    rw [hfound, if_pos ((importsComponent_iff htag).mpr ⟨hdir, i, hi, hends⟩)]
  · intro hnone
    rw [hfound, if_neg]
    intro himports
    obtain ⟨hdir, i, hi, hends⟩ := (importsComponent_iff htag).mp himports
    exact hnone.elim (fun hno => hno i hi hends) fun hcapital => hcapital hdir

/-- What is judged with a directory in lower case, with and without the import, and with a capital. -/
theorem raw_control_judged_button :
    let imported : File := .of "A.tsx" "import \x7b Button \x7d from '@/Components/ui/Button';\n"
    let plain : File := .of "A.tsx" "export const A = 1;\n"
    let capital : Rules := { designSystemDir := "Components/ui" }
    NoCapital "button" ∧ markupFindings imported {} [.rawControl "button" 3, .inlineStyle 4] =
        markupFindings imported {} [.inlineStyle 4] ∧
      markupFindings plain {} [.rawControl "button" 3] = [rawControlFinding plain {} "button" 3] ∧
      markupFindings imported capital [.rawControl "button" 3] =
        [rawControlFinding imported capital "button" 3] := by
  intro imported plain capital
  have htext : ImportText _ _ "@/Components/ui/Button".toList :=
    importText_of_bindings (w := "\x7b Button \x7d".toList) (forall_of_all (by decide)) (by decide)
      (forall_of_all (by decide))
  have himports : Imports imported.content.toList "@/Components/ui/Button".toList :=
    imports_of_text (b := ";\n".toList) (by decide) htext
  refine ⟨by decide, ?_, ?_, ?_⟩
  · exact (raw_control_judged imported {} (by decide) 3 [] [.inlineStyle 4]).1 (by decide)
      ⟨_, himports, ⟨"@/".toList, by decide⟩⟩
  · obtain ⟨_, hnone, hwritten, _⟩ := raw_control_judged plain {} (by decide : NoCapital "button") 3 [] []
    exact hnone (.inl fun i hi => absurd (hwritten i hi) (not_writesImport_of_unmarked (forall_of_all (by decide))))
  · exact (raw_control_judged imported capital (by decide) 3 [] []).2.1 (.inr (by decide))

/-- **An import of the component as the directory is spelled does not excuse its control.** -/
theorem not_excused_capital :
    let rules : Rules := { designSystemDir := "Components/UI" }
    let f : File := .of "A.tsx" "import \x7b Button \x7d from '@/Components/UI/button';\n"
    Imports f.content.toList "@/Components/UI/button".toList ∧
      (rules.designSystemDir ++ "/" ++ "button").toList <:+ "@/Components/UI/button".toList ∧
      markupFindings f rules [.rawControl "button" 3] = [rawControlFinding f rules "button" 3] := by
  intro rules f
  have hexcused : importsComponent rules (importsOf f.content.toList) "button" = false :=
    Bool.eq_false_iff.mpr fun h => absurd ((importsComponent_iff (by decide)).mp h).1 (by decide)
  have htext : ImportText _ _ "@/Components/UI/button".toList :=
    importText_of_bindings (w := "\x7b Button \x7d".toList) (forall_of_all (by decide)) (by decide)
      (forall_of_all (by decide))
  refine ⟨imports_of_text (b := ";\n".toList) (by decide) htext, ⟨"@/".toList, by decide⟩, ?_⟩
  · rw [← List.nil_append [MarkupIssue.rawControl "button" 3], markupFindings_rawControl, hexcused]
    rfl

end AppMend.Check
