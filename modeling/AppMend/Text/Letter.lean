import AppMend.Text.Property

/-!
# Classes of characters and lower case

The classes that scanning and reading tell characters by: letters, digits, blanks, parts of a word,
parts of a name. Each agrees with its ASCII class below 128 and reads a table beyond. Lower case is
taken over a whole text, because a capital sigma at the end of a word has a form of its own.
-/

namespace AppMend.Text

/-- A letter in any script. -/
def isLetter (c : Char) : Bool :=
  if c.toNat < 128 then c.isAlpha else memFlips alphabeticFlips c.toNat

/-- A number in any script. -/
def isNumeric (c : Char) : Bool :=
  if c.toNat < 128 then c.isDigit else memFlips numericFlips c.toNat

/-- A letter or a number in any script. -/
def isAlnum (c : Char) : Bool := isLetter c || isNumeric c

/-- A character of a word: a letter, a mark, a decimal digit or a connector. -/
def isWord (c : Char) : Bool :=
  if c.toNat < 128 then c.isAlphanum || c == '_' else memFlips wordFlips c.toNat

/-- A letter that is in lower case. -/
def isLowercase (c : Char) : Bool :=
  if c.toNat < 128 then c.isLower else memFlips lowercaseFlips c.toNat

/-- A blank: the property White_Space. -/
def isBlank (c : Char) : Bool :=
  let n := c.toNat
  n == 32 || (9 ≤ n && n ≤ 13) || n == 0x85 || n == 0xA0 || n == 0x1680 ||
    (0x2000 ≤ n && n ≤ 0x200A) || n == 0x2028 || n == 0x2029 || n == 0x202F || n == 0x205F ||
    n == 0x3000

/-- A blank within ASCII; a vertical tab is not one. -/
def isAsciiBlank (c : Char) : Bool :=
  c == ' ' || c == '\t' || c == '\n' || c == '\r' || c == '\x0c'

/-- A letter or digit within ASCII. -/
abbrev isAsciiAlnum (c : Char) : Bool := c.isAlphanum

def isHexDigit (c : Char) : Bool :=
  c.isDigit || ('a' ≤ c && c ≤ 'f') || ('A' ≤ c && c ≤ 'F')

/-- A character that may stand inside a name in a script: a letter or number, `_` or `$`. -/
def isNamePart (c : Char) : Bool := isAlnum c || c == '_' || c == '$'

/-- A character that may begin an identifier. -/
def isIdStart (c : Char) : Bool :=
  if c.toNat < 128 then c.isAlpha || c == '_' || c == '$' else memFlips idStartFlips c.toNat

/-- A character that may continue an identifier. -/
def isIdContinue (c : Char) : Bool :=
  if c.toNat < 128 then c.isAlphanum || c == '_' || c == '$'
  else memFlips idContinueFlips c.toNat || c.toNat == 0x200C || c.toNat == 0x200D

theorem isAlnum_of_isLetter {c : Char} (h : isLetter c) : isAlnum c := by
  simp [isAlnum, h]

theorem isNamePart_of_isAlnum {c : Char} (h : isAlnum c) : isNamePart c := by
  simp [isNamePart, h]

/-- Every blank of ASCII is a blank. -/
theorem isBlank_of_isAsciiBlank {c : Char} (h : isAsciiBlank c) : isBlank c := by
  simp only [isAsciiBlank, Bool.or_eq_true, beq_iff_eq] at h
  rcases h with (((rfl | rfl) | rfl) | rfl) | rfl <;> decide

/-- The code points of the blanks. -/
def blankCodes : List Nat := [9, 10, 11, 12, 13, 32, 0x85, 0xA0, 0x1680, 0x2000, 0x2001, 0x2002, 0x2003,
  0x2004, 0x2005, 0x2006, 0x2007, 0x2008, 0x2009, 0x200A, 0x2028, 0x2029, 0x202F, 0x205F, 0x3000]

theorem toNat_mem_of_isBlank {c : Char} (h : isBlank c) : c.toNat ∈ blankCodes := by
  simp only [isBlank, Bool.or_eq_true, Bool.and_eq_true, decide_eq_true_eq, beq_iff_eq] at h
  simp only [blankCodes, List.mem_cons, List.not_mem_nil, or_false]
  omega

/-- No blank is a character of a word. -/
theorem isWord_of_isBlank {c : Char} (h : isBlank c) : isWord c = false := by
  have hcodes : ∀ n ∈ blankCodes, isWord (Char.ofNat n) = false := by decide +kernel
  rw [← Char.ofNat_toNat c]
  exact hcodes _ (toNat_mem_of_isBlank h)

/-! ## Lower case -/

private def shiftBy : List (Nat × Nat × Nat × Int) → Nat → Nat
  | [], n => n
  | (first, last, step, delta) :: runs, n =>
    if n < first then n
    else if n ≤ last && (n - first) % step == 0 then (n + delta).toNat
    else shiftBy runs n

/-- The lower case of one character out of context. Only the dotted capital I yields two. -/
def lowerChar (c : Char) : List Char :=
  if c.toNat < 128 then [c.toLower]
  else if c.toNat == 0x130 then ['i', '\u0307']
  else [Char.ofNat (shiftBy lowerRuns c.toNat)]

private def isCased (c : Char) : Bool :=
  if c.toNat < 128 then c.isAlpha else memFlips casedFlips c.toNat

private def isCaseIgnorable (c : Char) : Bool :=
  if c.toNat < 128 then c == '\'' || c == '.' || c == ':' || c == '^' || c == (Char.ofNat 96)
  else memFlips caseIgnorableFlips c.toNat

/-- Whether the nearest character that is not skipped in case matters is a cased one. -/
private def nextIsCased (s : List Char) : Bool :=
  ((s.dropWhile isCaseIgnorable).head?.map isCased).getD false

/-- Lower case of what follows the text `before`, which is given in reverse. -/
private def lowerAfter (before : List Char) : List Char → List Char
  | [] => []
  | c :: s =>
    (if c == 'Σ' then [if nextIsCased before && !nextIsCased s then 'ς' else 'σ']
      else lowerChar c) ++ lowerAfter (c :: before) s

/-- A text in lower case. A capital sigma that ends a word becomes a final sigma. -/
def lower (s : List Char) : List Char := lowerAfter [] s

/-! ## Either case -/

/-- Whether `d` is the ASCII character `c` in either case. A long s counts as an s and the Kelvin sign
as a k. -/
def isCaseOf (c d : Char) : Bool :=
  c.toLower == d.toLower || (c.toLower == 's' && d == 'ſ') || (c.toLower == 'k' && d == '\u212a')

/-- Whether a text begins with an ASCII text, in either case. -/
def beginsInAnyCase : List Char → List Char → Bool
  | [], _ => true
  | _ :: _, [] => false
  | c :: p, d :: s => isCaseOf c d && beginsInAnyCase p s

end AppMend.Text
