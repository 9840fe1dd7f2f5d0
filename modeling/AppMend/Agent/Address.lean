import AppMend.Text.Lines

/-!
# Addresses of the web

An address is written in one form, however it was given: nothing stands around it, line ends and tabs
within are left out, a path begins with a slash, its steps `.` and `..` are taken, and a character that
an address cannot have stands there as its bytes.
-/

namespace AppMend

structure Address where
  scheme : String
  host : List Char
  /-- The number after the host, unless it is the usual one of the scheme. -/
  number : Option Nat
  /-- What stands between the slashes of the path, the first one of which leads it. -/
  steps : List (List Char)
  query : Option (List Char)
  fragment : Option (List Char)
deriving DecidableEq, Inhabited

namespace Address

/-! ## Escapes -/

private def upperHex (n : Nat) : List Char := (Nat.toDigits 16 n).map Char.toUpper

/-- A byte as an escape. -/
def escapeByte (b : UInt8) : List Char :=
  '%' :: (if b < 16 then '0' :: upperHex b.toNat else upperHex b.toNat)

/-- A text in which the bytes of some characters stand for these. -/
def escape (isKept : Char → Bool) (s : List Char) : List Char := s.flatMap fun c =>
  if isKept c then [c] else (String.singleton c).toUTF8.toList.flatMap escapeByte

/-- A character that stands for itself unless it is one of some others. -/
private def standsBut (others : String) (c : Char) : Bool :=
  ' ' < c && c < '\x7f' && !others.toList.contains c

def inPath : Char → Bool := standsBut ("\"#<>?\x7b\x7d".push (Char.ofNat 96))

def inQuery : Char → Bool := standsBut "\"#<>'"

def inFragment : Char → Bool := standsBut ("\"<>".push (Char.ofNat 96))

/-! ## Paths -/

def isSlash (c : Char) : Bool := c == '/' || c == '\\'

/-- A step with the escapes of points undone. -/
def withPoints : List Char → List Char
  | '%' :: '2' :: e :: s =>
    if e = 'e' ∨ e = 'E' then '.' :: withPoints s else '%' :: '2' :: e :: withPoints s
  | c :: s => c :: withPoints s
  | [] => []

/-- Takes the steps of a path, after some that were taken, the last one first. A path that ends in a
step to where it is, or one up, ends in a slash. -/
def walk (taken : List (List Char)) : List (List Char) → List (List Char)
  | [] => taken.reverse
  | s :: more =>
    let ends := if more.isEmpty then [[]] else []
    if withPoints s = "..".toList then walk (ends ++ taken.drop 1) more
    else if withPoints s = ".".toList then walk (ends ++ taken) more
    else walk (s :: taken) more

/-! ## Reading -/

/-- The usual number of a scheme, if it is one of the web. -/
def usualNumber? : String → Option Nat
  | "http" => some 80
  | "https" => some 443
  | _ => none

/-- A host, and a number after a colon. -/
private def hostAndNumber? (s : List Char) : Option (List Char × Option Nat) :=
  let digits := (s.reverse.takeWhile Char.isDigit).reverse
  let before := s.take (s.length - digits.length)
  if before.getLast? = some ':' then
    let number := digits.foldl (fun n c => 10 * n + (c.toNat - 48)) 0
    if 1 < before.length ∧ number < 65536 then
      some (before.dropLast, if digits.isEmpty then none else some number)
    else none
  else if s.isEmpty || (s.contains ':' && s.getLast? != some ']') then none
  else some (s, none)

/-- What follows a mark, if the text begins with it. -/
private def afterMark (mark : Char) : List Char → Option (List Char)
  | c :: s => if c = mark then some s else none
  | [] => none

/-- The address that a text gives, if it gives one of the web. -/
def read? (text : List Char) : Option Address := do
  let isEdge (c : Char) : Bool := c ≤ ' '
  let s := ((text.dropWhile isEdge).reverse.dropWhile isEdge).reverse
  let s := s.filter fun c => c != '\t' && c != '\n' && c != '\r'
  let scheme := String.ofList ((s.takeWhile (· != ':')).map Char.toLower)
  let usual ← usualNumber? scheme
  let s := (s.drop (scheme.length + 1)).dropWhile isSlash
  let endsHost (c : Char) : Bool := isSlash c || c == '?' || c == '#'
  let (host, number) ← hostAndNumber? (s.takeWhile (!endsHost ·))
  let s := s.dropWhile (!endsHost ·)
  let path := s.takeWhile fun c => c != '?' && c != '#'
  let s := s.drop path.length
  let query := (afterMark '?' s).map fun q => escape inQuery (q.takeWhile (· != '#'))
  let fragment := (afterMark '#' (s.dropWhile (· != '#'))).map (escape inFragment)
  pure
    { scheme, host := host.map Char.toLower, number := number.filter (· != usual)
      steps := walk [] ((Text.stretches isSlash (path.drop 1)).map (escape inPath)), query, fragment }

/-- An address as it is written. -/
def text (a : Address) : String :=
  let part (mark : String) : Option (List Char) → String
    | some s => mark ++ String.ofList s
    | none => ""
  a.scheme ++ "://" ++ String.ofList a.host ++
    (match a.number with
      | some n => ":" ++ toString n
      | none => "") ++
    String.join (a.steps.map fun s => "/" ++ String.ofList s) ++ part "?" a.query ++ part "#" a.fragment

end Address

end AppMend
