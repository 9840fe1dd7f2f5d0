import AppMend.Text.Letter

/-!
# Character references in markup

Text within elements may write a character by its number or by a name, between an ampersand and a
semicolon. What is no such reference stands for itself.
-/

namespace AppMend.Script

/-- The names of characters, with their code points. -/
def namedEntities : List (String × Nat) := [
  ("quot", 34), ("amp", 38), ("apos", 39), ("lt", 60), ("gt", 62), ("nbsp", 160), ("iexcl", 161),
  ("cent", 162), ("pound", 163), ("curren", 164), ("yen", 165), ("brvbar", 166), ("sect", 167),
  ("uml", 168), ("copy", 169), ("ordf", 170), ("laquo", 171), ("not", 172), ("shy", 173),
  ("reg", 174), ("macr", 175), ("deg", 176), ("plusmn", 177), ("sup2", 178), ("sup3", 179),
  ("acute", 180), ("micro", 181), ("para", 182), ("middot", 183), ("cedil", 184), ("sup1", 185),
  ("ordm", 186), ("raquo", 187), ("frac14", 188), ("frac12", 189), ("frac34", 190),
  ("iquest", 191), ("Agrave", 192), ("Aacute", 193), ("Acirc", 194), ("Atilde", 195),
  ("Auml", 196), ("Aring", 197), ("AElig", 198), ("Ccedil", 199), ("Egrave", 200), ("Eacute", 201),
  ("Ecirc", 202), ("Euml", 203), ("Igrave", 204), ("Iacute", 205), ("Icirc", 206), ("Iuml", 207),
  ("ETH", 208), ("Ntilde", 209), ("Ograve", 210), ("Oacute", 211), ("Ocirc", 212), ("Otilde", 213),
  ("Ouml", 214), ("times", 215), ("Oslash", 216), ("Ugrave", 217), ("Uacute", 218), ("Ucirc", 219),
  ("Uuml", 220), ("Yacute", 221), ("THORN", 222), ("szlig", 223), ("agrave", 224), ("aacute", 225),
  ("acirc", 226), ("atilde", 227), ("auml", 228), ("aring", 229), ("aelig", 230), ("ccedil", 231),
  ("egrave", 232), ("eacute", 233), ("ecirc", 234), ("euml", 235), ("igrave", 236),
  ("iacute", 237), ("icirc", 238), ("iuml", 239), ("eth", 240), ("ntilde", 241), ("ograve", 242),
  ("oacute", 243), ("ocirc", 244), ("otilde", 245), ("ouml", 246), ("divide", 247),
  ("oslash", 248), ("ugrave", 249), ("uacute", 250), ("ucirc", 251), ("uuml", 252),
  ("yacute", 253), ("thorn", 254), ("yuml", 255), ("OElig", 0x152), ("oelig", 0x153),
  ("Scaron", 0x160), ("scaron", 0x161), ("Yuml", 0x178), ("fnof", 0x192), ("circ", 0x2c6),
  ("tilde", 0x2dc), ("Alpha", 0x391), ("Beta", 0x392), ("Gamma", 0x393), ("Delta", 0x394),
  ("Epsilon", 0x395), ("Zeta", 0x396), ("Eta", 0x397), ("Theta", 0x398), ("Iota", 0x399),
  ("Kappa", 0x39a), ("Lambda", 0x39b), ("Mu", 0x39c), ("Nu", 0x39d), ("Xi", 0x39e),
  ("Omicron", 0x39f), ("Pi", 0x3a0), ("Rho", 0x3a1), ("Sigma", 0x3a3), ("Tau", 0x3a4),
  ("Upsilon", 0x3a5), ("Phi", 0x3a6), ("Chi", 0x3a7), ("Psi", 0x3a8), ("Omega", 0x3a9),
  ("alpha", 0x3b1), ("beta", 0x3b2), ("gamma", 0x3b3), ("delta", 0x3b4), ("epsilon", 0x3b5),
  ("zeta", 0x3b6), ("eta", 0x3b7), ("theta", 0x3b8), ("iota", 0x3b9), ("kappa", 0x3ba),
  ("lambda", 0x3bb), ("mu", 0x3bc), ("nu", 0x3bd), ("xi", 0x3be), ("omicron", 0x3bf),
  ("pi", 0x3c0), ("rho", 0x3c1), ("sigmaf", 0x3c2), ("sigma", 0x3c3), ("tau", 0x3c4),
  ("upsilon", 0x3c5), ("phi", 0x3c6), ("chi", 0x3c7), ("psi", 0x3c8), ("omega", 0x3c9),
  ("thetasym", 0x3d1), ("upsih", 0x3d2), ("piv", 0x3d6), ("ensp", 0x2002), ("emsp", 0x2003),
  ("thinsp", 0x2009), ("zwnj", 0x200c), ("zwj", 0x200d), ("lrm", 0x200e), ("rlm", 0x200f),
  ("ndash", 0x2013), ("mdash", 0x2014), ("lsquo", 0x2018), ("rsquo", 0x2019), ("sbquo", 0x201a),
  ("ldquo", 0x201c), ("rdquo", 0x201d), ("bdquo", 0x201e), ("dagger", 0x2020), ("Dagger", 0x2021),
  ("bull", 0x2022), ("hellip", 0x2026), ("permil", 0x2030), ("prime", 0x2032), ("Prime", 0x2033),
  ("lsaquo", 0x2039), ("rsaquo", 0x203a), ("oline", 0x203e), ("frasl", 0x2044), ("euro", 0x20ac),
  ("image", 0x2111), ("weierp", 0x2118), ("real", 0x211c), ("trade", 0x2122), ("alefsym", 0x2135),
  ("larr", 0x2190), ("uarr", 0x2191), ("rarr", 0x2192), ("darr", 0x2193), ("harr", 0x2194),
  ("crarr", 0x21b5), ("lArr", 0x21d0), ("uArr", 0x21d1), ("rArr", 0x21d2), ("dArr", 0x21d3),
  ("hArr", 0x21d4), ("forall", 0x2200), ("part", 0x2202), ("exist", 0x2203), ("empty", 0x2205),
  ("nabla", 0x2207), ("isin", 0x2208), ("notin", 0x2209), ("ni", 0x220b), ("prod", 0x220f),
  ("sum", 0x2211), ("minus", 0x2212), ("lowast", 0x2217), ("radic", 0x221a), ("prop", 0x221d),
  ("infin", 0x221e), ("ang", 0x2220), ("and", 0x2227), ("or", 0x2228), ("cap", 0x2229),
  ("cup", 0x222a), ("int", 0x222b), ("there4", 0x2234), ("sim", 0x223c), ("cong", 0x2245),
  ("asymp", 0x2248), ("ne", 0x2260), ("equiv", 0x2261), ("le", 0x2264), ("ge", 0x2265),
  ("sub", 0x2282), ("sup", 0x2283), ("nsub", 0x2284), ("sube", 0x2286), ("supe", 0x2287),
  ("oplus", 0x2295), ("otimes", 0x2297), ("perp", 0x22a5), ("sdot", 0x22c5), ("lceil", 0x2308),
  ("rceil", 0x2309), ("lfloor", 0x230a), ("rfloor", 0x230b), ("lang", 0x2329), ("rang", 0x232a),
  ("loz", 0x25ca), ("spades", 0x2660), ("clubs", 0x2663), ("hearts", 0x2665), ("diams", 0x2666)]

private def digitValue? (base : Nat) (d : Char) : Option Nat :=
  let n :=
    if d.isDigit then d.toNat - 48
    else if 'a' ≤ d ∧ d ≤ 'f' then d.toNat - 87
    else if 'A' ≤ d ∧ d ≤ 'F' then d.toNat - 55 else 16
  if n < base then some n else none

private def entityNumber? (base : Nat) (digits : List Char) : Option Nat :=
  if digits.isEmpty then none
  else digits.foldl (fun n d => n.bind fun n => (digitValue? base d).map (n * base + ·)) (some 0)

/-- The character of a code point. -/
private def characterOf (n : Nat) : Option Char := if n.isValidChar then some (Char.ofNat n) else none

/-- The character that a reference names, by what stands between its ampersand and its semicolon. -/
def entity? (name : List Char) : Option Char :=
  match name with
  | '#' :: 'x' :: digits => (entityNumber? 16 digits).bind characterOf
  | '#' :: digits => (entityNumber? 10 digits).bind characterOf
  | _ => ((namedEntities.find? fun e => e.1.toList == name).map (·.2)).bind characterOf

/-- The character that a reference stands for, and its length, after the ampersand. -/
def reference? (s : List Char) : Option (Char × Nat) :=
  let name := s.takeWhile fun c => c != ';' && c != '&'
  if (s.drop name.length).head? == some ';' then (entity? name).map (·, name.length + 1) else none

/-- A text with its references replaced, after so many characters that are passed over. -/
def decodeAfter : Nat → List Char → List Char
  | _, [] => []
  | k + 1, _ :: s => decodeAfter k s
  | 0, c :: s =>
    if c = '&' then
      match reference? s with
      | some (x, n) => x :: decodeAfter n s
      | none => c :: decodeAfter 0 s
    else c :: decodeAfter 0 s

/-- A text with its references replaced by their characters. -/
def decodeEntities (s : List Char) : List Char := decodeAfter 0 s

/-! ## Text between elements -/

/-- A blank within a line of markup. -/
def isMarkupBlank (c : Char) : Bool :=
  Text.isBlank c && c != '\n' && c != '\r' && c != '\u2028' && c != '\u2029' ||
    c == '\ufeff' || c == '\u200b'

private def markupLines (cur : List Char) : List Char → List (List Char)
  | [] => [cur.reverse]
  | c :: s =>
    if c = '\n' ∨ c = '\r' ∨ c = '\u2028' ∨ c = '\u2029' then cur.reverse :: markupLines [] s
    else markupLines (c :: cur) s

private def trimStart (s : List Char) : List Char := s.dropWhile isMarkupBlank

private def trimEnd (s : List Char) : List Char := (trimStart s.reverse).reverse

/-- Lines without the blanks next to a line end, the first one kept as it begins. -/
private def trimmedLines : Bool → List (List Char) → List (List Char)
  | _, [] => []
  | true, [l] => [l]
  | false, [l] => [trimStart l]
  | true, l :: ls => trimEnd l :: trimmedLines false ls
  | false, l :: ls => trimEnd (trimStart l) :: trimmedLines false ls

/-- What text between elements says: its lines without the blanks around their ends, those that are not
empty joined by a space, and its references replaced. Nothing is left of line ends and blanks alone. -/
def markupText? (s : List Char) : Option String :=
  let said := (trimmedLines true (markupLines [] s)).filter (!·.isEmpty)
  if said.isEmpty then none
  else some (String.ofList ([' '].intercalate (said.map decodeEntities)))

end AppMend.Script
