import AppMend.Proofs.Preview.ScriptData

/-!
# The scripts of the page that runs an app

The page is put together of markup and the texts of five scripts (`harnessPage_eq`). Each piece of markup
leads from outside into a script, and each text is meant to end at the closing tag that the page has behind it.
Read as a browser reads it, the page has these scripts, unless the text of the app swallows the closing tag:
then the script of the app goes on to the end of the page, and nothing mounts the app (`scripts_eq_iff`).

The backslashes in the text of the app keep closing tags out of it (`not_has_closingTag`). They do nothing about
texts that swallow what follows (`swallows_escapeClosing_iff`).
-/

namespace AppMend.Preview

variable {c : PreviewConfig} {bundle entry : String} {text u v last : List Char} {x : Char}

/-! ## Pages of scripts -/

/-- The closing tag of a script. -/
def closing : List Char := ['<', '/', 's', 'c', 'r', 'i', 'p', 't', '>']

/-- A piece of a page: markup that ends with the opening tag of a script, and the text of the script. -/
structure Part where
  markup : List Char
  text : List Char

/-- A page with some scripts and with what follows the last one. -/
def assemble : List Part → List Char → List Char
  | [], last => last
  | p :: parts, last => p.markup ++ p.text ++ closing ++ assemble parts last

/-- The scripts that are meant, each ended by its own closing tag. -/
def elements : List Part → List Char → List Element
  | [], _ => []
  | p :: parts, last => ⟨p.text, some (closing ++ assemble parts last)⟩ :: elements parts last

theorem assemble_append (ps qs : List Part) (last : List Char) :
    assemble (ps ++ qs) last = assemble ps (assemble qs last) := by
  induction ps with
  | nil => rfl
  | cons p ps ih => simp only [List.cons_append, assemble, ih]

theorem elements_append (ps qs : List Part) (last : List Char) :
    elements (ps ++ qs) last = elements ps (assemble qs last) ++ elements qs last := by
  induction ps with
  | nil => rfl
  | cons p ps ih => simp only [List.cons_append, elements, assemble_append, ih]

/-- A text is a script that ends at the closing tag behind it. -/
def Confined (text : List Char) : Prop :=
  ∀ v, readScripts (.inside .plain []) (text ++ (closing ++ v)) =
    ⟨text, some (closing ++ v)⟩ :: readScripts .outside v

/-- A part whose markup opens a script that is confined. -/
structure Part.Sound (p : Part) : Prop where
  opens : Leads .outside p.markup (.inside .plain [])
  confined : Confined p.text

/-- A text that is not read doubly escaped in the end is confined. -/
theorem confined_of_after? (h : ∀ v, ∃ d ≠ .doubled, Depth.plain.after? text v = some d) :
    Confined text := by
  intro v
  obtain ⟨d, hd, hafter⟩ := h (closing ++ v)
  have hinside : (Mode.inside .plain []).after? text (closing ++ v) = some (.inside d text.reverse) := by
    rw [Mode.after?_inside, hafter, List.append_nil]
    rfl
  have hends : d.ends (closing ++ v) = true := by
    have hcloses : begins closingTag (closing ++ v) = true := rfl
    rw [Depth.ends, hcloses, Bool.and_true]
    exact bne_iff_ne.mpr hd
  have hnext : (Mode.inside d text.reverse).next? ('<' :: (closing.tail ++ v)) = none := if_pos hends
  have htag : (Mode.tag false none).after? closing.tail v = some .outside := rfl
  have hclosing : closing ++ v = '<' :: (closing.tail ++ v) := rfl
  rw [readScripts_append hinside, hclosing, readScripts_cons, hnext]
  simp only [readScripts_append htag, Mode.text, List.reverse_reverse]

/-- **Sound parts have the scripts that are meant.** -/
theorem readScripts_assemble {parts : List Part} (h : ∀ p ∈ parts, p.Sound) (last : List Char) :
    readScripts .outside (assemble parts last) = elements parts last ++ readScripts .outside last := by
  induction parts with
  | nil => rfl
  | cons p parts ih =>
      obtain ⟨⟨hopens, hconfined⟩, hparts⟩ := List.forall_mem_cons.mp h
      rw [assemble, List.append_assoc, List.append_assoc, readScripts_append (hopens _), hconfined,
        ih hparts]
      rfl

/-! ## The page -/

/-- Some lines, each with its end. -/
def unlines (lines : List String) : List Char := lines.flatMap fun line => line.toList ++ ['\n']

/-- The opening tag of a script that is loaded. -/
def loadingTag (url : String) : String := "<script crossorigin src=\"" ++ escapeText url ++ "\">"

/-- The libraries and the script that offers them. -/
def libraryParts (c : PreviewConfig) (entry : String) : List Part := [
  { markup := unlines ["<!DOCTYPE html>", "<html>", "<head>", "<meta charset=\"utf-8\">"] ++
      unlines ["<title>Preview: " ++ escapeText entry ++ "</title>"] ++ (loadingTag c.reactUrl).toList
    text := [] },
  { markup := '\n' :: (loadingTag c.reactDomUrl).toList
    text := [] },
  { markup := '\n' :: "<script>".toList
    text := '\n' :: unlines hostSetup }]

def appPart (bundle : String) : Part where
  markup := '\n' :: unlines ["</head>", "<body>", "<div id=\"root\"></div>"] ++ "<script>".toList
  text := '\n' :: unlines [escapeScript bundle]

def mountPart : Part where
  markup := '\n' :: "<script>".toList
  text := '\n' :: unlines mountScript

/-- The five scripts of the page. -/
def parts (c : PreviewConfig) (bundle entry : String) : List Part :=
  libraryParts c entry ++ [appPart bundle, mountPart]

/-- What follows the last script. -/
def pageEnd : List Char := '\n' :: unlines ["</body>", "</html>"]

theorem unlines_singleton (line : String) : unlines [line] = line.toList ++ ['\n'] := List.append_nil _

theorem getLast?_unlines (lines : List String) : ('\n' :: unlines lines).getLast? = some '\n' := by
  induction lines with
  | nil => rfl
  | cons line lines ih =>
      have hcons : '\n' :: unlines (line :: lines) = ('\n' :: line.toList) ++ ('\n' :: unlines lines) := by
        simp [unlines]
      rw [hcons, List.getLast?_append, ih]
      rfl

theorem intercalate_newline (lines : List String) :
    ("\n".intercalate (lines ++ [""])).toList = unlines lines := by
  rw [String.toList_intercalate]
  induction lines with
  | nil => rfl
  | cons line lines ih =>
      obtain ⟨next, rest, hrest⟩ : ∃ next rest, lines ++ [""] = next :: rest :=
        List.exists_cons_of_ne_nil (by simp)
      rw [hrest] at ih
      rw [List.cons_append, hrest, List.map_cons, List.map_cons, List.intercalate_cons_cons, ← List.map_cons,
        ih]
      rfl

/-- **The page is put together of these parts.** -/
theorem harnessPage_eq (c : PreviewConfig) (bundle entry : String) :
    (harnessPage c bundle entry).toList = assemble (parts c bundle entry) pageEnd := by
  have hlines : harnessPage c bundle entry = "\n".intercalate ((["<!DOCTYPE html>", "<html>", "<head>",
      "<meta charset=\"utf-8\">", "<title>Preview: " ++ escapeText entry ++ "</title>",
      "<script crossorigin src=\"" ++ escapeText c.reactUrl ++ "\"></script>",
      "<script crossorigin src=\"" ++ escapeText c.reactDomUrl ++ "\"></script>", "<script>"] ++ hostSetup ++
      ["</script>", "</head>", "<body>", "<div id=\"root\"></div>", "<script>", escapeScript bundle,
        "</script>", "<script>"] ++ mountScript ++ ["</script>", "</body>", "</html>"]) ++ [""]) := by
    unfold harnessPage
    simp only [List.append_assoc, List.cons_append, List.nil_append]
  have htag : "\">" ++ "</script>" = "\"></script>" := by decide
  have hclosed (url : String) :
      loadingTag url ++ "</script>" = "<script crossorigin src=\"" ++ escapeText url ++ "\"></script>" :=
    String.append_assoc.trans (congrArg _ htag)
  have hclosing : "</script>".toList = closing := by decide
  rw [hlines, intercalate_newline, ← hclosed, ← hclosed]
  simp only [parts, libraryParts, appPart, mountPart, List.cons_append, List.nil_append]
  rw [assemble, assemble, assemble, assemble, assemble, assemble]
  simp only [pageEnd, unlines, String.toList_append, hclosing, List.flatMap_append, List.flatMap_cons,
    List.flatMap_nil, List.append_assoc, List.cons_append, List.nil_append, List.append_nil]

/-! ## Markup -/

/-- No tag and no end of a value stands in an escaped text. -/
theorem not_mem_escapeText (s : String) : '<' ∉ (escapeText s).toList ∧ '"' ∉ (escapeText s).toList := by
  have hchar (c : Char) : '<' ∉ escapeChar c ∧ '"' ∉ escapeChar c := by
    unfold escapeChar
    split
    · decide
    · decide
    · decide
    · decide
    · rename_i hlt _ hquot
      simp only [List.mem_singleton]
      exact ⟨fun h => hlt h.symm, fun h => hquot h.symm⟩
  simp only [escapeText, String.toList_ofList, List.mem_flatMap, not_exists, not_and]
  exact ⟨fun c _ => (hchar c).1, fun c _ => (hchar c).2⟩

theorem leads_loadingTag (url : String) : Leads .outside (loadingTag url).toList (.inside .plain []) := by
  have htag : Leads .outside "<script crossorigin src=\"".toList (.tag true (some '"')) :=
    leads_of_stop (x := '"') (by decide) (by decide) (by decide)
  have hend : Leads (.tag true (some '"')) "\">".toList (.inside .plain []) :=
    leads_of_stop (x := '>') (by decide) (by decide) (by decide)
  show Leads .outside ("<script crossorigin src=\"" ++ escapeText url ++ "\">").toList _
  rw [String.toList_append, String.toList_append]
  exact (htag.append (leads_quoted true (not_mem_escapeText url).2)).append hend

/-- The opening tag of a script that stands in the page. -/
theorem leads_tag : Leads .outside "<script>".toList (.inside .plain []) :=
  leads_of_stop (x := '>') (by decide) (by decide) (by decide)

theorem leads_newline : Leads .outside ['\n'] .outside := leads_outside (by decide)

/-! ## Scripts of the page itself -/

/-- A script without a `<`. -/
theorem confined_of_not_mem (h : '<' ∉ text) : Confined text :=
  confined_of_after? fun v => ⟨.plain, by decide, after?_plain h v⟩

theorem not_mem_unlines {lines : List String} (hx : x ≠ '\n') (h : ∀ line ∈ lines, x ∉ line.toList) :
    x ∉ '\n' :: unlines lines := by
  simp only [unlines, List.mem_cons, List.mem_flatMap, List.mem_append, not_or, not_exists, not_and,
    List.not_mem_nil]
  exact ⟨hx, fun line hline => ⟨h line hline, hx, not_false⟩⟩

/-- A line that is written out is the text of its characters, which need not be decoded. -/
theorem forall_mem_ofList_cons {P : List Char → Prop} {s : List Char} {lines : List String} (h : P s)
    (hlines : ∀ line ∈ lines, P line.toList) : ∀ line ∈ String.ofList s :: lines, P line.toList :=
  List.forall_mem_cons.mpr ⟨by rwa [String.toList_ofList], hlines⟩

theorem not_mem_hostSetup : ∀ line ∈ hostSetup, '<' ∉ line.toList := by
  unfold hostSetup
  repeat refine forall_mem_ofList_cons (P := fun s => '<' ∉ s) (by decide) ?_
  exact List.forall_mem_nil _

/-- There is no tag in the script that mounts the app, and no end of a comment. -/
theorem not_mem_mountScript : ∀ line ∈ mountScript, '<' ∉ line.toList ∧ '>' ∉ line.toList := by
  unfold mountScript
  repeat refine forall_mem_ofList_cons (P := fun s => '<' ∉ s ∧ '>' ∉ s) (by decide) ?_
  -- the line with the marker is put together
  refine List.forall_mem_cons.mpr ⟨by decide, ?_⟩
  repeat refine forall_mem_ofList_cons (P := fun s => '<' ∉ s ∧ '>' ∉ s) (by decide) ?_
  exact List.forall_mem_nil _

theorem sound_libraryParts (c : PreviewConfig) (entry : String) : ∀ p ∈ libraryParts c entry, p.Sound := by
  have hhead : Leads .outside (unlines ["<!DOCTYPE html>", "<html>", "<head>", "<meta charset=\"utf-8\">"])
      .outside := leads_of_stop (x := '\n') (by decide) (by decide) (by decide)
  have htitle : Leads .outside (unlines ["<title>Preview: " ++ escapeText entry ++ "</title>"]) .outside := by
    have hbefore : Leads .outside "<title>Preview: ".toList .outside :=
      leads_of_stop (x := ' ') (by decide) (by decide) (by decide)
    have hafter : Leads .outside "</title>".toList .outside :=
      leads_of_stop (x := '>') (by decide) (by decide) (by decide)
    rw [unlines_singleton, String.toList_append, String.toList_append]
    exact ((hbefore.append (leads_outside (not_mem_escapeText entry).1)).append hafter).append leads_newline
  have hempty : Confined [] := confined_of_not_mem List.not_mem_nil
  have hsetup : Confined ('\n' :: unlines hostSetup) :=
    confined_of_not_mem (not_mem_unlines (by decide) not_mem_hostSetup)
  simp only [libraryParts, List.forall_mem_cons, List.not_mem_nil, false_imp_iff, implies_true, and_true]
  exact ⟨⟨(hhead.append htitle).append (leads_loadingTag c.reactUrl), hempty⟩,
    ⟨leads_newline.append (leads_loadingTag c.reactDomUrl), hempty⟩, ⟨leads_newline.append leads_tag, hsetup⟩⟩

theorem sound_mountPart : mountPart.Sound where
  opens := leads_newline.append leads_tag
  confined := confined_of_not_mem
    (not_mem_unlines (by decide) fun line hline => (not_mem_mountScript line hline).1)

theorem leads_appPart (bundle : String) : Leads .outside (appPart bundle).markup (.inside .plain []) := by
  have hbody : Leads .outside ('\n' :: unlines ["</head>", "<body>", "<div id=\"root\"></div>"]) .outside :=
    leads_of_stop (x := '\n') (by decide) (by decide) (by decide)
  exact hbody.append leads_tag

/-! ## The text of the app -/

theorem escapeClosing_of_closes {s : List Char} (h : closesScript s = true) :
    escapeClosing ('<' :: s) = '<' :: '\\' :: escapeClosing s := if_pos ⟨rfl, h⟩

theorem escapeClosing_cons {s : List Char} (h : ¬(x = '<' ∧ closesScript s = true)) :
    escapeClosing (x :: s) = x :: escapeClosing s := if_neg h

/-- What makes a `<` a closing tag, without what ends the name. -/
theorem closesScript_eq (s : List Char) :
    closesScript s = Text.beginsInAnyCase ['/', 's', 'c', 'r', 'i', 'p', 't'] s := by
  have hname : "/script".toList = ['/', 's', 'c', 'r', 'i', 'p', 't'] := by decide
  rw [closesScript, hname]

theorem eq_stroke_of_toLower {d : Char} (h : d.toLower = '/') : d = '/' := by
  unfold Char.toLower at h
  split at h
  · -- no capital is so near the end of the range
    have hval : d.val + 32 = 47 := congrArg Char.val h
    grind [UInt32.toNat_add]
  · exact h

/-- What closes a script goes on with a stroke. -/
theorem head_of_closesScript {s : List Char} (h : closesScript s = true) : ∃ t, s = '/' :: t := by
  rw [closesScript_eq] at h
  cases s with
  | nil => cases h
  | cons d t =>
      have hd : Text.isCaseOf '/' d = true := (Bool.and_eq_true_iff.mp h).1
      have hd : '/' = d.toLower := by simpa [Text.isCaseOf] using hd
      exact ⟨t, congrArg (· :: t) (eq_stroke_of_toLower hd.symm)⟩

/-- The end of a line makes up no closing tag. -/
theorem escapeClosing_newline (s : List Char) :
    escapeClosing (s ++ ['\n']) = escapeClosing s ++ ['\n'] := by
  have hany (word : List Char) (h : word.any (Text.isCaseOf · '\n') = false) (s : List Char) :
      Text.beginsInAnyCase word (s ++ ['\n']) = Text.beginsInAnyCase word s := by
    induction word generalizing s with
    | nil => rfl
    | cons c word ih =>
        obtain ⟨hc, hword⟩ := Bool.or_eq_false_iff.mp h
        cases s with
        | nil => exact Bool.and_eq_false_iff.mpr (.inl hc)
        | cons d s => exact congrArg (Text.isCaseOf c d && ·) (ih hword s)
  induction s with
  | nil => decide
  | cons c s ih =>
      have hcloses : closesScript (s ++ ['\n']) = closesScript s := by
        rw [closesScript_eq, closesScript_eq]
        exact hany _ (by decide) s
      rw [List.cons_append, escapeClosing, escapeClosing, hcloses, ih]
      split <;> rfl

/-- A mark without a `<` is found with the backslashes where it is found without them. -/
theorem begins_escapeClosing_tail {mark : Mark} (h : mark.avoids '<' = true) (s : List Char) :
    begins mark (escapeClosing s) = begins mark s := by
  rw [Mark.avoids_iff] at h
  induction mark generalizing s with
  | nil => rfl
  | cons p mark ih =>
      obtain ⟨hp, hmark⟩ := List.forall_mem_cons.mp h
      cases s with
      | nil => rfl
      | cons c s =>
          by_cases hc : c = '<' ∧ closesScript s = true
          · obtain ⟨rfl, hs⟩ := hc
            rw [escapeClosing_of_closes hs, begins_of_head hp, begins_of_head hp]
          · rw [escapeClosing_cons hc, begins, begins, ih hmark]

/-- So is a mark that goes on after a `<` with something else than a closing tag. -/
theorem begins_escapeClosing {p q : Char → Bool} {mark : Mark} (hb : q '\\' = false) (hq : q '/' = false)
    (h : Mark.avoids '<' (q :: mark) = true) (s : List Char) :
    begins (p :: q :: mark) (escapeClosing s) = begins (p :: q :: mark) s := by
  cases s with
  | nil => rfl
  | cons c s =>
      by_cases hc : c = '<' ∧ closesScript s = true
      · obtain ⟨rfl, hs⟩ := hc
        rw [escapeClosing_of_closes hs]
        obtain ⟨t, rfl⟩ := head_of_closesScript hs
        simp only [begins, hb, hq, Bool.false_and, Bool.and_false]
      · rw [escapeClosing_cons hc, begins, begins, begins_escapeClosing_tail h]

/-- What is found at the same places with the backslashes is found somewhere with them exactly if it is found
somewhere without them. -/
theorem exists_suffix_escapeClosing_iff {P : List Char → Prop} (hP : ∀ s, P (escapeClosing s) ↔ P s)
    (hb : ∀ s, ¬P ('\\' :: s)) (s : List Char) :
    (∃ v, v <:+ escapeClosing s ∧ P v) ↔ ∃ v, v <:+ s ∧ P v := by
  induction s with
  | nil => rfl
  | cons c s ih =>
      rw [exists_suffix_cons_iff, ← hP, ← ih]
      by_cases hc : c = '<' ∧ closesScript s = true
      · obtain ⟨rfl, hs⟩ := hc
        rw [escapeClosing_of_closes hs, exists_suffix_cons_iff, exists_suffix_cons_iff, or_iff_right (hb _)]
      · rw [escapeClosing_cons hc, exists_suffix_cons_iff]

/-- **The backslashes do nothing about texts that swallow what follows.** -/
theorem swallows_escapeClosing_iff (s : List Char) : Swallows (escapeClosing s) ↔ Swallows s := by
  have hstart (s : List Char) : begins commentStart (escapeClosing s) = begins commentStart s :=
    begins_escapeClosing (by decide) (by decide) (by decide) s
  have hend (s : List Char) : Has commentEnd (escapeClosing s) ↔ Has commentEnd s :=
    exists_suffix_escapeClosing_iff
      (fun s => iff_of_eq (congrArg (· = true) (begins_escapeClosing (by decide) (by decide) (by decide) s)))
      (fun s h => Bool.false_ne_true h) s
  have hopening (s : List Char) : Has openingTag (escapeClosing s) ↔ Has openingTag s :=
    exists_suffix_escapeClosing_iff
      (fun s => iff_of_eq (congrArg (· = true) (begins_escapeClosing (by decide) (by decide) (by decide) s)))
      (fun s h => Bool.false_ne_true h) s
  exact exists_suffix_escapeClosing_iff (fun s => by rw [hstart, hend, hopening])
    (fun s h => Bool.false_ne_true h.1) s

theorem beginsInAnyCase_of_begins {word s : List Char} {mark : Mark} (hword : word.map Char.toLower = word)
    (h : begins (.anyCase word ++ mark) s = true) : Text.beginsInAnyCase word s = true := by
  induction word generalizing s with
  | nil => rfl
  | cons c word ih =>
      obtain ⟨hc, hword⟩ := List.cons.inj hword
      cases s with
      | nil => cases h
      | cons d s =>
          obtain ⟨hd, hs⟩ := Bool.and_eq_true_iff.mp h
          have hcase : Text.isCaseOf c d = true := by simp [Text.isCaseOf, hc, beq_iff_eq.mp hd]
          exact Bool.and_eq_true_iff.mpr ⟨hcase, ih hword hs⟩

/-- **They keep closing tags out.** -/
theorem not_has_closingTag (s : List Char) : ¬Has closingTag (escapeClosing s) := by
  induction s with
  | nil =>
      rintro ⟨v, hv, h⟩
      rw [List.suffix_nil.mp hv] at h
      cases h
  | cons c s ih =>
      by_cases hc : c = '<' ∧ closesScript s = true
      · obtain ⟨rfl, hs⟩ := hc
        rw [escapeClosing_of_closes hs, has_cons_iff, has_cons_iff]
        rintro (h | h | h)
        · cases h
        · cases h
        · exact ih h
      · rw [escapeClosing_cons hc, has_cons_iff]
        rintro (h | h)
        · -- the rest would close a script without the backslashes as well
          obtain ⟨hlt, h⟩ := Bool.and_eq_true_iff.mp h
          rw [begins_escapeClosing_tail (by decide)] at h
          have hcloses : closesScript s = true := by
            rw [closesScript_eq]
            cases s with
            | nil => cases h
            | cons d s =>
                obtain ⟨hd, h⟩ := Bool.and_eq_true_iff.mp h
                rw [beq_iff_eq.mp hd]
                exact beginsInAnyCase_of_begins (by decide) h
          exact hc ⟨beq_iff_eq.mp hlt, hcloses⟩
        · exact ih h

theorem leads_pageEnd : Leads .outside pageEnd .outside :=
  leads_of_stop (x := '\n') (by decide) (by decide) (by decide)

/-! ## The scripts of the page -/

/-- The text of the app as it stands in the page. -/
theorem text_appPart (bundle : String) :
    (appPart bundle).text = '\n' :: escapeClosing (bundle.toList ++ ['\n']) := by
  rw [escapeClosing_newline]
  show '\n' :: unlines [escapeScript bundle] = _
  rw [unlines_singleton, escapeScript, String.toList_ofList]

/-- **Its text is doubly escaped in the end exactly if the app swallows what follows.** -/
theorem after?_appPart (bundle : String) : ∃ d, (∀ v, Depth.plain.after? (appPart bundle).text v = some d) ∧
    (d = .doubled ↔ Swallows (bundle.toList ++ ['\n'])) := by
  have hlast : (appPart bundle).text.getLast? = some '\n' := getLast?_unlines _
  have hno : ¬Has closingTag (appPart bundle).text := by
    rw [text_appPart, has_cons_iff, not_or]
    exact ⟨Bool.false_ne_true, not_has_closingTag _⟩
  have hswallows : Swallows (appPart bundle).text ↔ Swallows (bundle.toList ++ ['\n']) := by
    rw [text_appPart, swallows_cons_iff, swallows_escapeClosing_iff, or_iff_right]
    exact fun h => Bool.false_ne_true h.1
  obtain ⟨d, hd⟩ := exists_after? hno .plain
  refine ⟨d, fun v => (Depth.after?_stop (x := '\n') (by decide) hlast .plain v).trans hd, ?_⟩
  rw [← hswallows, ← (after?_eq_doubled_iff hno).1, hd, Option.some_inj]

/-- What the page goes on with behind the text of the app. -/
def pageRest : List Char := closing ++ assemble [mountPart] pageEnd

/-- Read doubly escaped, nothing of it ends an element. -/
theorem after?_pageRest : Depth.doubled.after? pageRest [] = some .escaped := by
  have hopened : Depth.doubled.after? (closing ++ mountPart.markup) (mountPart.text ++ (closing ++ pageEnd)) =
      some .doubled := (Depth.after?_stop (x := '>') (by decide) (by decide) _ _).trans (by decide)
  have hmount : Depth.doubled.after? mountPart.text (closing ++ pageEnd) = some .doubled := by
    refine (Depth.after?_stop (x := '\n') (by decide) (getLast?_unlines _) _ _).trans (after?_doubled ?_ ?_)
    · exact not_mem_unlines (by decide) fun line hline => (not_mem_mountScript line hline).1
    · exact not_mem_unlines (by decide) fun line hline => (not_mem_mountScript line hline).2
  have hend : Depth.doubled.after? (closing ++ pageEnd) [] = some .escaped := by decide
  have hsplit : pageRest = (closing ++ mountPart.markup) ++ (mountPart.text ++ (closing ++ pageEnd)) := by
    rw [pageRest, assemble, assemble, List.append_assoc, List.append_assoc, List.append_assoc]
  rw [hsplit, Depth.after?_append, List.append_nil, hopened, Option.bind_some, Depth.after?_append,
    List.append_nil, hmount, Option.bind_some, hend]

/-- The libraries are loaded and offered whatever the app is. -/
theorem scripts_harnessPage (c : PreviewConfig) (bundle entry : String) :
    scripts (harnessPage c bundle entry).toList =
      elements (libraryParts c entry) (assemble [appPart bundle, mountPart] pageEnd) ++
        readScripts .outside (assemble [appPart bundle, mountPart] pageEnd) := by
  rw [harnessPage_eq, parts, assemble_append]
  exact readScripts_assemble (sound_libraryParts c entry) _

theorem readScripts_of_swallows (h : Swallows (bundle.toList ++ ['\n'])) :
    readScripts .outside (assemble [appPart bundle, mountPart] pageEnd) =
      [⟨(appPart bundle).text ++ pageRest, none⟩] := by
  obtain ⟨d, hafter, hd⟩ := after?_appPart bundle
  obtain rfl := hd.mpr h
  have happ : (Mode.inside .plain []).after? (appPart bundle).text pageRest =
      some (.inside .doubled (appPart bundle).text.reverse) := by
    rw [Mode.after?_inside, hafter, List.append_nil]
    rfl
  have hrest : (Mode.inside .doubled (appPart bundle).text.reverse).after? pageRest [] =
      some (.inside .escaped (pageRest.reverse ++ (appPart bundle).text.reverse)) := by
    rw [Mode.after?_inside, after?_pageRest]
    rfl
  have hpage : assemble [appPart bundle, mountPart] pageEnd =
      (appPart bundle).markup ++ ((appPart bundle).text ++ pageRest) := by
    rw [assemble, List.append_assoc, List.append_assoc]
    rfl
  rw [hpage, readScripts_append (leads_appPart bundle _), readScripts_append happ, ← List.append_nil pageRest,
    readScripts_append hrest, List.append_nil]
  show [(⟨(pageRest.reverse ++ (appPart bundle).text.reverse).reverse, none⟩ : Element)] = _
  rw [List.reverse_append, List.reverse_reverse, List.reverse_reverse]

theorem readScripts_of_not_swallows (h : ¬Swallows (bundle.toList ++ ['\n'])) :
    readScripts .outside (assemble [appPart bundle, mountPart] pageEnd) =
      elements [appPart bundle, mountPart] pageEnd := by
  obtain ⟨d, hafter, hd⟩ := after?_appPart bundle
  have happ : (appPart bundle).Sound :=
    ⟨leads_appPart bundle, confined_of_after? fun v => ⟨d, mt hd.mp h, hafter v⟩⟩
  have hend : readScripts .outside pageEnd = [] := by
    rw [← List.append_nil pageEnd, readScripts_append (leads_pageEnd _)]
    rfl
  have hsound : ∀ p ∈ [appPart bundle, mountPart], p.Sound := by
    simp [happ, sound_mountPart]
  rw [readScripts_assemble hsound, hend, List.append_nil]

/-- **The page has the five scripts that are meant exactly if the app does not swallow its closing tag.** If it
does, its script goes on to the end of the page, and is the last one. -/
theorem scripts_eq_iff (c : PreviewConfig) (bundle entry : String) :
    (harnessPage c bundle entry).toList = assemble (parts c bundle entry) pageEnd ∧
    (scripts (harnessPage c bundle entry).toList = elements (parts c bundle entry) pageEnd ↔
      ¬Swallows (bundle.toList ++ ['\n'])) ∧
    (scripts (harnessPage c bundle entry).toList =
      (elements (parts c bundle entry) pageEnd).take 3 ++ [⟨(appPart bundle).text ++ pageRest, none⟩] ↔
      Swallows (bundle.toList ++ ['\n'])) := by
  have hmeant : elements (parts c bundle entry) pageEnd =
      elements (libraryParts c entry) (assemble [appPart bundle, mountPart] pageEnd) ++
        elements [appPart bundle, mountPart] pageEnd := elements_append _ _ _
  have htake : (elements (parts c bundle entry) pageEnd).take 3 =
      elements (libraryParts c entry) (assemble [appPart bundle, mountPart] pageEnd) := by
    rw [hmeant]
    rfl
  refine ⟨harnessPage_eq c bundle entry, ?_⟩
  rw [htake, hmeant, scripts_harnessPage, List.append_right_inj, List.append_right_inj]
  by_cases h : Swallows (bundle.toList ++ ['\n'])
  · rw [readScripts_of_swallows h]
    simp [h, elements]
  · rw [readScripts_of_not_swallows h]
    simp [h, elements]

/-- **The start of a comment and the opening tag of a script are enough.** Then the page has four scripts, the
last one without an end, and none of them mounts the app. -/
theorem scripts_swallowed :
    let page := (harnessPage {} "<!--<script>" "src/App.tsx").toList
    (scripts page).map (·.rest.isSome) = [true, true, true, false] ∧
      scripts page ≠ elements (parts {} "<!--<script>" "src/App.tsx") pageEnd := by
  intro page
  have hswallows : Swallows ("<!--<script>".toList ++ ['\n']) := by decide
  have hscripts : (scripts page).map (·.rest.isSome) = [true, true, true, false] := by
    rw [scripts_harnessPage, readScripts_of_swallows hswallows]
    rfl
  refine ⟨hscripts, fun he => ?_⟩
  rw [he] at hscripts
  cases hscripts

example : ¬Swallows "const start = '<!-- <script> -->';\n".toList := by decide

end AppMend.Preview
