import AppMend.Preview.Inspection
import AppMend.Proofs.Text.Search

/-!
# Hosts of an address

An address is put together from a scheme, perhaps a user, a host, perhaps a number, and the rest
(`WebAddress`). Its host is found whatever stands around it (`hostOf?_text`): a scheme has no mark that ends
it, a user may have any number of at signs and colons and a number any number of colons, and in the rest
everything may come again. So a failed load is forgiven for its host alone (`forgiven_by_host`).
-/

namespace AppMend.Preview

/-- What separates the scheme of an address from the others. -/
def schemeEnd : List Char := "://".toList

/-- What ends the part of an address that names the host. -/
def restMarks : List Char := ['/', '?', '#']

/-- An address by its parts. -/
structure WebAddress where
  scheme : List Char
  user : Option (List Char) := none
  host : List Char
  port : Option (List Char) := none
  rest : List Char := []
  scheme_plain : ¬schemeEnd <:+: scheme
  user_plain : ∀ u ∈ user, ∀ c ∈ u, c ∉ restMarks
  host_ne_nil : host ≠ []
  host_plain : ∀ c ∈ host, c ∉ '@' :: ':' :: restMarks
  port_plain : ∀ n ∈ port, ∀ c ∈ n, c ∉ '@' :: restMarks
  rest_starts : ∀ c ∈ rest.head?, c ∈ restMarks

namespace WebAddress

variable {u : WebAddress}

/-- The user with the sign behind it. -/
def userPart (u : WebAddress) : List Char := u.user.elim [] (· ++ ['@'])

/-- The number with the colon before it. -/
def portPart (u : WebAddress) : List Char := u.port.elim [] (':' :: ·)

/-- What stands between the scheme and the rest. -/
def authority (u : WebAddress) : List Char := u.userPart ++ (u.host ++ u.portPart)

/-- An address as it is written. -/
def text (u : WebAddress) : String :=
  String.ofList (u.scheme ++ schemeEnd ++ (u.authority ++ u.rest))

/-! ## The parts of an address -/

theorem not_mem_restMarks_of_mem_authority {c : Char} (hc : c ∈ u.authority) : c ∉ restMarks := by
  simp only [authority, List.mem_append] at hc
  rcases hc with hc | hc | hc
  · cases hu : u.user with
    | none => simp [userPart, hu] at hc
    | some user =>
        simp only [userPart, hu, Option.elim_some, List.mem_append, List.mem_singleton] at hc
        rcases hc with hc | rfl
        · exact u.user_plain user hu c hc
        · decide
  · exact fun hm => u.host_plain c hc (List.mem_cons_of_mem _ (List.mem_cons_of_mem _ hm))
  · cases hp : u.port with
    | none => simp [portPart, hp] at hc
    | some port =>
        simp only [portPart, hp, Option.elim_some, List.mem_cons] at hc
        rcases hc with rfl | hc
        · decide
        · exact fun hm => u.port_plain port hp c hc (List.mem_cons_of_mem _ hm)

theorem at_not_mem : '@' ∉ u.host ++ u.portPart := by
  rw [List.mem_append, not_or]
  refine ⟨fun hc => u.host_plain _ hc List.mem_cons_self, fun hc => ?_⟩
  cases hp : u.port with
  | none => simp [portPart, hp] at hc
  | some port =>
      simp only [portPart, hp, Option.elim_some, List.mem_cons] at hc
      rcases hc with hc | hc
      · exact absurd hc (by decide)
      · exact u.port_plain port hp _ hc List.mem_cons_self

/-! ## How the host is cut out -/

/-- The scheme ends where its mark stands first: the mark does not overlap itself. -/
theorem cut?_text : Text.cut? schemeEnd u.text.toList = some (u.scheme, u.authority ++ u.rest) := by
  rw [text, String.toList_ofList, Text.cut?_eq_some_iff]
  refine ⟨rfl, fun x y hsplit => ?_⟩
  rw [List.append_assoc, List.append_assoc, List.append_eq_append_iff] at hsplit
  rcases hsplit with ⟨t, rfl, -⟩ | ⟨t, hscheme, hmarks⟩
  · simp
  · rcases t with _ | ⟨c₁, _ | ⟨c₂, _ | ⟨c₃, t⟩⟩⟩
    · simp [hscheme]
    · simp [schemeEnd] at hmarks
    · simp [schemeEnd] at hmarks
    · have hmark : c₁ :: c₂ :: c₃ :: t = schemeEnd ++ t := by
        obtain ⟨h₁, h₂, h₃, -⟩ : ':' = c₁ ∧ '/' = c₂ ∧ '/' = c₃ ∧ _ := by
          simpa [schemeEnd] using hmarks
        rw [← h₁, ← h₂, ← h₃]
        rfl
      exact absurd ⟨x, t, by rw [hscheme, hmark, List.append_assoc]⟩ u.scheme_plain

theorem takeWhile_authority : (u.authority ++ u.rest).takeWhile (· ∉ restMarks) = u.authority := by
  have hrest : u.rest.takeWhile (· ∉ restMarks) = [] := by
    cases hr : u.rest with
    | nil => rfl
    | cons c r =>
        have hc : c ∈ restMarks := u.rest_starts c (by rw [hr]; rfl)
        exact List.takeWhile_cons_of_neg (by simpa using hc)
  have hauthority : ∀ c ∈ u.authority, decide (c ∉ restMarks) = true := fun c hc =>
    decide_eq_true (not_mem_restMarks_of_mem_authority hc)
  rw [List.takeWhile_append_of_pos hauthority, hrest, List.append_nil]

/-- Behind the last at sign there is no user any more. -/
theorem afterLast_authority : PreviewConfig.afterLast '@' u.authority = u.host ++ u.portPart := by
  have hall : ∀ c ∈ (u.host ++ u.portPart).reverse, (c != '@') = true := fun c hc =>
    bne_iff_ne.mpr fun he => at_not_mem (he ▸ List.mem_reverse.mp hc)
  have hstop : u.userPart.reverse.takeWhile (· != '@') = [] := by
    cases hu : u.user with
    | none => simp [userPart, hu]
    | some user => simp [userPart, hu]
  rw [PreviewConfig.afterLast, authority, List.reverse_append, List.takeWhile_append_of_pos hall, hstop,
    List.append_nil, List.reverse_reverse]

theorem takeWhile_host : (u.host ++ u.portPart).takeWhile (· != ':') = u.host := by
  have hall : ∀ c ∈ u.host, (c != ':') = true := fun c hc =>
    bne_iff_ne.mpr fun he => u.host_plain c hc (he ▸ List.mem_cons_of_mem _ List.mem_cons_self)
  have hstop : u.portPart.takeWhile (· != ':') = [] := by
    cases hp : u.port with
    | none => simp [portPart, hp]
    | some port => simp [portPart, hp]
  rw [List.takeWhile_append_of_pos hall, hstop, List.append_nil]

/-- **The host of an address is found.** -/
theorem hostOf?_text (u : WebAddress) : PreviewConfig.hostOf? u.text.toList = some u.host := by
  have hcut : Text.cut? "://".toList u.text.toList = some (u.scheme, u.authority ++ u.rest) := cut?_text
  have hauthority : (u.authority ++ u.rest).takeWhile (fun c => c ∉ ['/', '?', '#']) = u.authority :=
    takeWhile_authority
  rw [PreviewConfig.hostOf?, hcut]
  simp only [hauthority, afterLast_authority, takeWhile_host]
  rw [if_neg (mt List.isEmpty_iff.mp u.host_ne_nil)]

end WebAddress

/-! ## Forgiven loads -/

/-- A host is one of the list or below one, at a point between two labels. -/
def Serves (c : PreviewConfig) (host : List Char) : Prop :=
  ∃ cdn ∈ c.cdnHosts, host = cdn.toList ∨ '.' :: cdn.toList <:+ host

theorem isWithin_iff {host cdn : List Char} :
    PreviewConfig.isWithin host cdn = true ↔ host = cdn ∨ '.' :: cdn <:+ host := by
  rw [PreviewConfig.isWithin, Bool.or_eq_true, beq_iff_eq, List.isSuffixOf_iff_suffix]

/-- **A failed load is forgiven for its host alone**: exactly if the host is one of the list or below one,
whatever the scheme, the user, the number and the rest of the address are. -/
theorem forgiven_by_host (c : PreviewConfig) (u : WebAddress) (entry error : String) :
    (c.isCdn u.text = true ↔ Serves c u.host) ∧
      (issueOf? c entry (.requestFailed u.text error) = none ↔ Serves c u.host) := by
  have hcdn : c.isCdn u.text = true ↔ Serves c u.host := by
    rw [PreviewConfig.isCdn, u.hostOf?_text, Option.any_some, List.any_eq_true]
    exact exists_congr fun cdn => and_congr_right fun _ => isWithin_iff
  refine ⟨hcdn, ?_⟩
  rw [← hcdn, issueOf?]
  split
  · rename_i h
    simp [h]
  · rename_i h
    simp [h]

/-- A host of the list does not count as a user or in a query. -/
example : PreviewConfig.isCdn {} "https://unpkg.com:1@api.example.com:80?at=://esm.sh/" = false := by
  decide

end AppMend.Preview
