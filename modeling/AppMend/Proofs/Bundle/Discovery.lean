import AppMend.Bundle.Discovery

/-!
# What a discovery finds

A discovery goes on until its queue is empty. `Drained` says what that comes to, without a bound on the
rounds; the invariant of the rounds is `Underway`: what was seen is what was read and what is queued, each
path once, and all of it lies among finitely many paths. So the queue is empty before the rounds of
`discover` are over (`drained_discover`), and their number is of no account.

What was reached stands in breadth-first order. That is an equation (`Drained.order`): the modules are the
start and then, in the order of the modules, what each of them imports, every path where it is met first.
A path is reached exactly if imports lead to it (`Drained.holds`), and what is reached stands in no other
order than that (`Drained.eq_of_order`).
-/

namespace AppMend.Bundle

variable {α β ε : Type} {visit : String → Except ε (α × List Resolution)} {path start : String}
  {imports : List Resolution} {us done queue seen : List String} {reached : List (Reached α)}

/-! ## Each text where it is met first -/

theorem eraseDups_of_nodup {xs : List String} (h : xs.Nodup) : xs.eraseDups = xs := by
  induction xs with
  | nil => rfl
  | cons x xs ih =>
      obtain ⟨hx, hxs⟩ := List.nodup_cons.mp h
      have hkept : xs.filter (fun y => !y == x) = xs := by
        refine List.filter_eq_self.mpr fun y hy => ?_
        have hne : y ≠ x := fun he => hx (he ▸ hy)
        simpa using hne
      rw [List.eraseDups_cons, hkept, ih hxs]

theorem nodup_eraseDups (xs : List String) : xs.eraseDups.Nodup := by
  -- on the length, because the texts like the first one are dropped from the rest
  induction hn : xs.length using Nat.strongRecOn generalizing xs with
  | ind n ih =>
      cases xs with
      | nil => exact .nil
      | cons x xs =>
          have hl : (xs.filter fun y => !y == x).length < n := by
            have := List.length_filter_le (fun y => !y == x) xs
            rw [← hn, List.length_cons]
            omega
          rw [List.eraseDups_cons, List.nodup_cons]
          refine ⟨fun hm => ?_, ih _ hl _ rfl⟩
          simpa using List.mem_eraseDups.mp hm

/-- What follows texts is met first where it follows these texts without repeats. -/
theorem eraseDups_append_congr {xs ys : List String} (h : xs.eraseDups = ys.eraseDups)
    (zs : List String) : (xs ++ zs).eraseDups = (ys ++ zs).eraseDups := by
  have hmem (z : String) : z ∈ xs ↔ z ∈ ys := by
    rw [← List.mem_eraseDups, h, List.mem_eraseDups]
  have hrest : zs.removeAll xs = zs.removeAll ys := by
    refine List.filter_congr fun z _ => ?_
    rw [Bool.eq_iff_iff]
    simp [hmem z]
  rw [List.eraseDups_append, List.eraseDups_append, h, hrest]

/-! ## What is queued -/

/-- The paths of the files among some imports, in order. -/
def targets (imports : List Resolution) : List String := imports.filterMap Resolution.inside?

/-- What is queued are the targets that were not seen, each once. -/
theorem unseen_eq (seen : List String) (imports : List Resolution) :
    unseen seen imports = ((targets imports).removeAll seen).eraseDups := by
  induction imports generalizing seen with
  | nil => rfl
  | cons r rest ih =>
      cases r with
      | outside name => exact ih seen
      | inside path =>
          show (if seen.contains path then unseen seen rest else path :: unseen (path :: seen) rest) =
            ((path :: targets rest).filter fun p => !seen.elem p).eraseDups
          by_cases hp : path ∈ seen
          · have hc : seen.contains path = true := by simpa using hp
            rw [if_pos hc, ih, List.filter_cons_of_neg (by simpa using hp)]
            rfl
          · have hc : ¬seen.contains path = true := by simpa using hp
            rw [if_neg hc, ih, List.filter_cons_of_pos (by simpa using hp), List.eraseDups_cons,
              List.filter_filter, List.removeAll]
            -- neither seen nor like `path`, in one test or in two
            have htest : (fun p => !(path :: seen).elem p) = fun p => !p == path && !seen.elem p := by
              funext p
              by_cases h : p = path <;> simp [h]
            rw [htest]

theorem mem_unseen {q : String} : q ∈ unseen seen imports ↔ q ∈ targets imports ∧ q ∉ seen := by
  rw [unseen_eq, List.mem_eraseDups, List.removeAll, List.mem_filter]
  simp

/-- What was seen and what is queued then are the texts met first. -/
theorem eraseDups_append_targets (h : seen.Nodup) (imports : List Resolution) :
    (seen ++ targets imports).eraseDups = seen ++ unseen seen imports := by
  rw [List.eraseDups_append, eraseDups_of_nodup h, unseen_eq]

/-! ## Rounds until the queue is empty -/

/-- What the reading of a queue comes to, and of all it leads to. It goes on until the queue is empty or
a module cannot be read. -/
inductive Drained (visit : String → Except ε (α × List Resolution)) :
    (queue seen : List String) → Except ε (List (Reached α)) → Prop where
  | empty {seen : List String} : Drained visit [] seen (.ok [])
  | unreadable {path : String} {queue seen : List String} {e : ε} : visit path = .error e →
      Drained visit (path :: queue) seen (.error e)
  | failed {path : String} {queue seen : List String} {result : α} {imports : List Resolution} {e : ε} :
      visit path = .ok (result, imports) →
      Drained visit (queue ++ unseen seen imports) (seen ++ unseen seen imports) (.error e) →
      Drained visit (path :: queue) seen (.error e)
  | read {path : String} {queue seen : List String} {result : α} {imports : List Resolution}
      {rest : List (Reached α)} : visit path = .ok (result, imports) →
      Drained visit (queue ++ unseen seen imports) (seen ++ unseen seen imports) (.ok rest) →
      Drained visit (path :: queue) seen (.ok (⟨path, result, imports⟩ :: rest))

/-- How far a discovery is: the paths that were seen are those of the modules that were read and those
in the queue, no path twice, all of them among some paths. -/
structure Underway (us done queue seen : List String) : Prop where
  seen_eq : seen = done ++ queue
  nodup : seen.Nodup
  among : ∀ p ∈ seen, p ∈ us

theorem underway_start (h : start ∈ us) : Underway us [] [start] [start] :=
  ⟨rfl, by simp, fun _ hp => List.mem_singleton.mp hp ▸ h⟩

/-- **A round keeps the invariant.** -/
theorem Underway.read (h : Underway us done (path :: queue) seen)
    (hi : ∀ q ∈ targets imports, q ∈ us) :
    Underway us (done ++ [path]) (queue ++ unseen seen imports) (seen ++ unseen seen imports) where
  seen_eq := by
    rw [h.seen_eq, List.append_assoc, List.append_assoc, List.cons_append, List.singleton_append]
  nodup := by
    rw [← eraseDups_append_targets h.nodup]
    exact nodup_eraseDups _
  among := by
    intro p hp
    rcases List.mem_append.mp hp with hp | hp
    · exact h.among p hp
    · exact hi p (mem_unseen.mp hp).1

/-- Not more modules were read than there are paths. -/
theorem Underway.length_le (h : Underway us done queue seen) : done.length ≤ us.length := by
  have hle := h.nodup.length_le_of_subset h.among
  rw [h.seen_eq, List.length_append] at hle
  omega

/-- **The queue is empty before the rounds are over.** -/
theorem drained_discover
    (hleads : ∀ path ∈ us, ∀ result imports, visit path = .ok (result, imports) →
      ∀ q ∈ targets imports, q ∈ us) {fuel : Nat} (h : Underway us done queue seen)
    (hf : us.length < fuel + done.length) : Drained visit queue seen (discover visit fuel queue seen) := by
  induction fuel generalizing done queue seen with
  | zero =>
      have := h.length_le
      omega
  | succ fuel ih =>
      cases queue with
      | nil => exact .empty
      | cons path queue =>
          unfold discover
          cases hv : visit path with
          | error e => exact .unreadable hv
          | ok r =>
              obtain ⟨result, imports⟩ := r
              have hpath : path ∈ us := h.among path (by rw [h.seen_eq]; simp)
              have hrest := ih (h.read (hleads path hpath result imports hv))
                (by rw [List.length_append, List.length_singleton]; omega)
              show Drained visit _ _ ((discover visit fuel _ _).bind fun rest => .ok _)
              cases hd : discover visit fuel (queue ++ unseen seen imports)
                  (seen ++ unseen seen imports) with
              | error e => exact .failed hv (hd ▸ hrest)
              | ok rest => exact .read hv (hd ▸ hrest)

/-! ## What was reached -/

/-- Every module that was reached was read. -/
theorem Drained.visited (h : Drained visit queue seen (.ok reached)) :
    ∀ m ∈ reached, visit m.path = .ok (m.result, m.imports) := by
  generalize hr : (Except.ok reached : Except ε (List (Reached α))) = r at h
  induction h generalizing reached with
  | empty => cases hr; simp
  | unreadable | failed => cases hr
  | read hv _ ih =>
      cases hr
      intro m hm
      rcases List.mem_cons.mp hm with rfl | hm
      · exact hv
      · exact ih rfl m hm

/-- **What holds of the queue and passes on to imports holds of all that is read**, also of a module that
cannot be read. -/
theorem Drained.holds {P : String → Prop} {r : Except ε (List (Reached α))}
    (h : Drained visit queue seen r) (hq : ∀ p ∈ queue, P p)
    (hstep : ∀ p result imports, P p → visit p = .ok (result, imports) → ∀ q ∈ targets imports, P q) :
    (∀ reached, r = .ok reached → ∀ m ∈ reached, P m.path) ∧
      ∀ e, r = .error e → ∃ p, P p ∧ visit p = .error e := by
  -- it passes on from a queue to the one behind a module that is read
  have next {path : String} {queue seen : List String} {result : α} {imports : List Resolution}
      (hq : ∀ p ∈ path :: queue, P p) (hv : visit path = .ok (result, imports)) :
      ∀ p ∈ queue ++ unseen seen imports, P p := by
    intro p hp
    rcases List.mem_append.mp hp with hp | hp
    · exact hq p (List.mem_cons_of_mem _ hp)
    · exact hstep path result imports (hq path List.mem_cons_self) hv p (mem_unseen.mp hp).1
  induction h with
  | empty => exact ⟨fun _ hr => by cases hr; simp, fun _ hr => by cases hr⟩
  | @unreadable path _ _ e hv =>
      refine ⟨fun _ hr => (by cases hr), fun _ hr => ?_⟩
      cases hr
      exact ⟨path, hq path List.mem_cons_self, hv⟩
  | failed hv _ ih => exact ih (next hq hv)
  | @read path _ _ _ _ rest hv _ ih =>
      refine ⟨fun reached hr m hm => ?_, fun e hr => by cases hr⟩
      cases hr
      rcases List.mem_cons.mp hm with rfl | hm
      · exact hq path List.mem_cons_self
      · exact (ih (next hq hv)).1 rest rfl m hm

/-- **The order of what was reached**: after what was read before, each path where it is first met among
what was seen and what the modules import, one after the other. -/
theorem Drained.order (h : Drained visit queue seen (.ok reached)) (done : List String)
    (hu : seen = done ++ queue) (hd : seen.Nodup) :
    done ++ reached.map (·.path) = (seen ++ reached.flatMap fun m => targets m.imports).eraseDups := by
  generalize hr : (Except.ok reached : Except ε (List (Reached α))) = r at h
  induction h generalizing reached done with
  | empty =>
      cases hr
      rw [List.flatMap_nil, List.append_nil, eraseDups_of_nodup hd, hu]
      simp
  | unreadable | failed => cases hr
  | @read path queue seen result imports rest hv _ ih =>
      cases hr
      have hmet := eraseDups_append_targets hd imports
      have hd' : (seen ++ unseen seen imports).Nodup := hmet ▸ nodup_eraseDups _
      have hrest := ih (done ++ [path]) (by rw [hu]; simp) hd' rfl
      have hfirst : (seen ++ unseen seen imports).eraseDups = (seen ++ targets imports).eraseDups := by
        rw [eraseDups_of_nodup hd', hmet]
      calc done ++ path :: rest.map (·.path)
          = done ++ [path] ++ rest.map (·.path) := by simp
        _ = (seen ++ unseen seen imports ++ rest.flatMap fun m => targets m.imports).eraseDups := hrest
        _ = (seen ++ targets imports ++ rest.flatMap fun m => targets m.imports).eraseDups :=
            eraseDups_append_congr hfirst _
        _ = (seen ++ (targets imports ++ rest.flatMap fun m => targets m.imports)).eraseDups := by
            rw [List.append_assoc]

/-- The paths of a discovery from a start: in breadth-first order, each once. -/
theorem Drained.paths_eq (h : Drained visit [start] [start] (.ok reached)) :
    reached.map (·.path) = (start :: reached.flatMap fun m => targets m.imports).eraseDups :=
  h.order [] rfl (by simp)

/-- The start was reached, and what the modules import, and nothing else. -/
theorem Drained.mem_paths_iff (h : Drained visit [start] [start] (.ok reached)) {q : String} :
    q ∈ reached.map (·.path) ↔ q = start ∨ ∃ m ∈ reached, q ∈ targets m.imports := by
  rw [h.paths_eq, List.mem_eraseDups, List.mem_cons, List.mem_flatMap]

theorem Drained.nodup_paths (h : Drained visit [start] [start] (.ok reached)) :
    (reached.map (·.path)).Nodup := by
  rw [h.paths_eq]
  exact nodup_eraseDups _

/-! ## Orders in which a discovery can go -/

theorem eraseDups_prefix {xs ys : List String} (h : xs <+: ys) : xs.eraseDups <+: ys.eraseDups := by
  obtain ⟨zs, rfl⟩ := h
  rw [List.eraseDups_append]
  exact List.prefix_append _ _

/-- **Breadth-first order is one order.** If some paths are the start and then what each of them imports,
every path where it is met first, and all of them are reached, then they are what is reached, in the order
of the discovery. -/
theorem Drained.eq_of_order {g : String → List String} {order : List String}
    (h : Drained visit queue seen (.ok reached)) (done : List String) (hu : seen = done ++ queue)
    (hg : ∀ m ∈ reached, targets m.imports = g m.path)
    (hseen : seen = (start :: done.flatMap g).eraseDups)
    (horder : order = (start :: order.flatMap g).eraseDups) (hdone : done <+: order)
    (hsub : order ⊆ done ++ reached.map (·.path)) : done ++ reached.map (·.path) = order := by
  generalize hr : (Except.ok reached : Except ε (List (Reached α))) = r at h
  induction h generalizing reached done with
  | empty =>
      cases hr
      rw [List.map_nil, List.append_nil] at hsub ⊢
      have hd : order.Nodup := horder ▸ nodup_eraseDups _
      exact hdone.eq_of_length_le (hd.length_le_of_subset hsub)
  | unreadable | failed => cases hr
  | @read path queue seen result imports rest hv _ ih =>
      cases hr
      have hpath : targets imports = g path := hg _ List.mem_cons_self
      -- what was seen comes first in the order as well
      have hfirst : seen <+: order := by
        obtain ⟨later, hlater⟩ := hdone
        rw [hseen, horder, ← hlater, List.flatMap_append, ← List.cons_append]
        exact eraseDups_prefix (List.prefix_append _ _)
      have hdone' : done ++ [path] <+: order := by
        refine List.IsPrefix.trans ?_ hfirst
        rw [hu]
        exact ⟨queue, by simp⟩
      have hseen' : seen ++ unseen seen imports = (start :: (done ++ [path]).flatMap g).eraseDups := by
        have hd : seen.Nodup := hseen ▸ nodup_eraseDups _
        have hmet : seen.eraseDups = (start :: done.flatMap g).eraseDups := by
          rw [eraseDups_of_nodup hd, hseen]
        rw [← eraseDups_append_targets hd, hpath, eraseDups_append_congr hmet, List.cons_append,
          List.flatMap_append, List.flatMap_singleton]
      have hrest := ih (done ++ [path]) (by rw [hu]; simp) (fun m hm => hg m (List.mem_cons_of_mem _ hm))
        hseen' hdone' (by simpa using hsub) rfl
      rw [← hrest]
      simp

end AppMend.Bundle
