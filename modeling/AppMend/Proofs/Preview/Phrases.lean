import AppMend.Preview.Inspection
import AppMend.Proofs.Text.Search

/-!
# Allowed phrases

The allowed phrases are taken off the text of a page before it is searched for the markers of failure. A
marker that is found then need not be one that the page shows: a phrase that is taken off from within can
join it from what stands on either side (`Joined`). Nothing else makes up a marker (`joined_iff`), so an
issue is about what the page shows exactly if its marker was not joined (`told_marker_iff`).
-/

namespace AppMend.Preview

open Text (Pieces Straddles replaceAll)

variable {c : PreviewConfig} {entry : String} {dom : DomSnapshot} {m s : List Char} {ps : List String}

theorem withoutPhrases_cons (p : String) (ps : List String) (s : List Char) :
    withoutPhrases (p :: ps) s = withoutPhrases ps (replaceAll p.toList [] s) := rfl

theorem withoutPhrases_empty (ps : List String) (s : List Char) :
    withoutPhrases ("" :: ps) s = withoutPhrases ps s :=
  congrArg (withoutPhrases ps) (Text.replaceAll_nil [] s)

/-- What is left of a text when phrases are taken off, one after another. The empty phrase takes nothing
off. -/
inductive Stripped : List String → List Char → List Char → Prop where
  | nil {s : List Char} : Stripped [] s s
  | empty {ps : List String} {s t : List Char} : Stripped ps s t → Stripped ("" :: ps) s t
  | cons {p : String} {ps : List String} {s t : List Char} {xs : List (List Char)} :
      Pieces p.toList s xs → Stripped ps xs.flatten t → Stripped (p :: ps) s t

/-- **What is left is one text.** -/
theorem stripped_iff {t : List Char} : Stripped ps s t ↔ t = withoutPhrases ps s := by
  constructor
  · intro h
    induction h with
    | nil => rfl
    | empty _ ih => rw [withoutPhrases_empty, ih]
    | cons hxs _ ih => rw [withoutPhrases_cons, Text.replaceAll_of_pieces hxs, ih]
  · rintro rfl
    induction ps generalizing s with
    | nil => exact .nil
    | cons p ps ih =>
        by_cases hp : p = ""
        · subst hp
          rw [withoutPhrases_empty]
          exact .empty ih
        · obtain ⟨xs, hxs⟩ := Text.exists_pieces (mt String.toList_eq_nil_iff.mp hp) s
          rw [withoutPhrases_cons, Text.replaceAll_of_pieces hxs]
          exact .cons hxs ih

/-- A text that is not there is joined when phrases are taken off, one after another, and is there in the
end. -/
inductive Joined (m : List Char) : List String → List Char → Prop where
  /-- It stands across a place where the first phrase was taken off. -/
  | now {p : String} {ps : List String} {s : List Char} {xs : List (List Char)} : ¬m <:+: s →
      Pieces p.toList s xs → Straddles m xs → m <:+: withoutPhrases ps xs.flatten → Joined m (p :: ps) s
  | later {p : String} {ps : List String} {s : List Char} : ¬m <:+: s →
      Joined m ps (replaceAll p.toList [] s) → Joined m (p :: ps) s

/-- **What is found only without the phrases was joined**, and the other way round. -/
theorem joined_iff : Joined m ps s ↔ ¬m <:+: s ∧ m <:+: withoutPhrases ps s := by
  constructor
  · intro h
    induction h with
    | @now p ps s xs hno hxs _ hend =>
        refine ⟨hno, ?_⟩
        rw [withoutPhrases_cons, Text.replaceAll_of_pieces hxs]
        exact hend
    | later hno _ ih => exact ⟨hno, ih.2⟩
  · rintro ⟨hno, hend⟩
    induction ps generalizing s with
    | nil => exact absurd hend hno
    | cons p ps ih =>
        rw [withoutPhrases_cons] at hend
        -- either the first phrase joins it, or a later one does
        by_cases hnow : m <:+: replaceAll p.toList [] s
        · obtain ⟨xs, hxs, hacross⟩ := (Text.infix_replaceAll_iff hno).mp hnow
          rw [Text.replaceAll_of_pieces hxs] at hend
          exact .now hno hxs hacross hend
        · exact .later hno (ih hnow hend)

/-! ## Markers -/

/-- What a page shows without the allowed phrases. -/
def searched (c : PreviewConfig) (dom : DomSnapshot) : List Char :=
  withoutPhrases c.allowedPhrases dom.text.toList

/-- The issue that a marker gives. -/
def markerIssue (entry marker : String) : PreviewIssue :=
  ⟨.reactError, s!"Page shows failure text \"{marker}\"", entry⟩

theorem marker?_eq_none_iff :
    marker? c dom.text = none ↔ ∀ m ∈ c.failureMarkers, ¬m.toList <:+: searched c dom := by
  simp only [marker?, List.find?_eq_none, Text.occursIn_iff, searched]

theorem of_marker?_eq_some {marker : String} (h : marker? c dom.text = some marker) :
    marker ∈ c.failureMarkers ∧ marker.toList <:+: searched c dom := by
  have hfound : Text.occursIn marker.toList (searched c dom) = true := by
    simpa [searched] using List.find?_some h
  exact ⟨List.mem_of_find?_eq_some h, Text.occursIn_iff.mp hfound⟩

/-- **A marker that is told is shown by the page exactly if it was not joined** when the allowed phrases were
taken off. So a page that shows no marker passes exactly if none is joined. -/
theorem told_marker_iff (c : PreviewConfig) (entry : String) (dom : DomSnapshot)
    (h : dom.boundaryTripped = false) :
    shownIssue? c entry dom = (marker? c dom.text).map (markerIssue entry) ∧
      (∀ marker, marker? c dom.text = some marker → marker ∈ c.failureMarkers ∧
        (marker.toList <:+: dom.text.toList ↔
          ¬Joined marker.toList c.allowedPhrases dom.text.toList)) ∧
      ((∀ marker ∈ c.failureMarkers, ¬marker.toList <:+: dom.text.toList) →
        (shownIssue? c entry dom = none ↔
          ∀ marker ∈ c.failureMarkers, ¬Joined marker.toList c.allowedPhrases dom.text.toList)) := by
  have hissue : shownIssue? c entry dom = (marker? c dom.text).map (markerIssue entry) := by
    rw [shownIssue?, h]
    rfl
  refine ⟨hissue, fun marker hmarker => ?_, fun hnone => ?_⟩
  · obtain ⟨hm, hfound⟩ := of_marker?_eq_some hmarker
    refine ⟨hm, fun hshown hjoined => (joined_iff.mp hjoined).1 hshown, fun hjoined => ?_⟩
    exact Classical.byContradiction fun hno => hjoined (joined_iff.mpr ⟨hno, hfound⟩)
  · rw [hissue, Option.map_eq_none_iff, marker?_eq_none_iff]
    refine forall₂_congr fun marker hm => not_congr ?_
    rw [joined_iff]
    exact ⟨fun hfound => ⟨hnone marker hm, hfound⟩, And.right⟩

/-- A phrase is taken off beside a marker, and off a page without one. -/
theorem told_marker_iff_beside :
    let c : PreviewConfig := { allowedPhrases := ["?"] }
    let marked : DomSnapshot := { text := "What? Something went wrong" }
    let unmarked : DomSnapshot := { text := "What? Nothing" }
    marked.boundaryTripped = false ∧ marker? c marked.text = some "Something went wrong" ∧
      ¬Joined "Something went wrong".toList c.allowedPhrases marked.text.toList ∧
      unmarked.boundaryTripped = false ∧
      (∀ marker ∈ c.failureMarkers, ¬marker.toList <:+: unmarked.text.toList) ∧
      ∀ marker ∈ c.failureMarkers, ¬Joined marker.toList c.allowedPhrases unmarked.text.toList := by
  intro c marked unmarked
  have htold : marker? c marked.text = some "Something went wrong" := by decide +kernel
  have hshown : "Something went wrong".toList <:+: marked.text.toList := by decide +kernel
  have hnone : ∀ marker ∈ c.failureMarkers, ¬marker.toList <:+: unmarked.text.toList := by
    decide +kernel
  obtain ⟨_, hmarked, _⟩ := told_marker_iff c "App.tsx" marked rfl
  obtain ⟨_, _, hunmarked⟩ := told_marker_iff c "App.tsx" unmarked rfl
  exact ⟨rfl, htold, (hmarked _ htold).2.mp hshown, rfl, hnone, (hunmarked hnone).mp (by decide +kernel)⟩

/-- **A marker that a page does not show is joined**, and fails a page that passes without the phrase. -/
theorem joined_marker_fails :
    let dom : DomSnapshot := { text := "Something wXent wrong" }
    shownIssue? {} "App.tsx" dom = none ∧
      shownIssue? { allowedPhrases := ["X"] } "App.tsx" dom =
        some (markerIssue "App.tsx" "Something went wrong") ∧
      ¬"Something went wrong".toList <:+: dom.text.toList := by
  decide +kernel

end AppMend.Preview
