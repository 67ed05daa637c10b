import MergeGate.Version.Basic

/-
  MergeGate/Version/Reader.lean
  =============================
  **Reading versions.**  `Version.read?` reads a complete version: three numbers without leading
  zeros, then perhaps pre-release identifiers after a hyphen and build identifiers after a plus.

  A lock manifest may resolve a package to a text that is no such version.  `Version.coerce?`
  makes the best of it: what surrounds the version is trimmed, with the signs `=` and `v` before
  it; a complete version within bounds is taken as it is; otherwise the first row of at most 16
  digits is the major number, and the rows that directly follow after points are the minor and
  the patch number, as far as they are no longer than that, else zero.  Nothing comes of a text
  without such a row.

  The conversion of rows into numbers is a parameter of `Version.coerceBy?`; `Version.coerce?` converts
  every row.
-/

namespace MergeGate.Version

open MergeGate.Text

/-- The most digits of a number that takes part in the order of versions. -/
def maxDigits : Nat := 16

/-- A number without leading zeros, and what follows it. -/
def readNumeral? : List Char → Option (Nat × List Char)
  | [] => none
  | '0' :: rest => some (0, rest)
  | c :: rest =>
    if isAsciiDigit c then
      let p := (c :: rest).span isAsciiDigit
      some (numeralValue p.1, p.2)
    else none

def isIdentifierChar (c : Char) : Bool := isAsciiLetter c || isAsciiDigit c || c = '-'

/-- Whether a row of characters is a build identifier. -/
def isBuildIdentifier (i : Identifier) : Bool := !i.isEmpty && i.all isIdentifierChar

/-- Whether a row of characters is a pre-release identifier: a number has no leading zero. -/
def isPreIdentifier (i : Identifier) : Bool :=
  isBuildIdentifier i && (!i.all isAsciiDigit || i = ['0'] || i.head? ≠ some '0')

/-- What follows the pre-release identifiers: nothing, or build identifiers after a mark, which have
to pass the test. -/
def readBuild? (isBuild : Identifier → Bool) : List Char → Option (List Identifier)
  | [] => some []
  | _ :: cs =>
    let is := splitAt (· = '.') cs
    if is.all isBuild then some is else none

/-- Cuts what follows the numbers into pre-release and build identifiers, which have to pass the
two tests. -/
def readMarks? (isPre isBuild : Identifier → Bool) (cs : List Char) :
    Option (List Identifier × List Identifier) :=
  match cs with
  | [] => some ([], [])
  | '-' :: rest =>
    let p := rest.span (· ≠ '+')
    let is := splitAt (· = '.') p.1
    if is.all isPre then (readBuild? isBuild p.2).map fun b => (is, b) else none
  | '+' :: rest => (readBuild? isBuild ('+' :: rest)).map fun b => ([], b)
  | _ => none

def read? (cs : List Char) : Option Version :=
  match readNumeral? cs with
  | some (major, '.' :: cs₁) =>
    match readNumeral? cs₁ with
    | some (minor, '.' :: cs₂) =>
      match readNumeral? cs₂ with
      | some (patch, cs₃) =>
        (readMarks? isPreIdentifier isBuildIdentifier cs₃).map fun (pre, build) =>
          ⟨major, minor, patch, pre, build⟩
      | none => none
    | _ => none
  | _ => none

/-- Whether a number of the version, or a number among its pre-release identifiers, has too many
digits. -/
def isOversized (v : Version) : Bool :=
  Nat.pow 10 maxDigits ≤ v.major || Nat.pow 10 maxDigits ≤ v.minor || Nat.pow 10 maxDigits ≤ v.patch
    || v.pre.any fun i => i.isNumber && maxDigits < i.length

/-! ### Making the best of a text -/

/-- The first whole row of at most `maxDigits` digits, and what follows it; `inRow` holds when a
digit stands directly before. -/
def findRow? (inRow : Bool) : List Char → Option (List Char × List Char)
  | [] => none
  | c :: cs =>
    if !isDigit c then findRow? false cs
    else if inRow then findRow? true cs
    else
      let p := (c :: cs).span isDigit
      if p.1.length ≤ maxDigits then some p else findRow? true cs

/-- A whole row of at most `maxDigits` digits directly after a point. -/
def nextRow? : List Char → Option (List Char × List Char)
  | '.' :: cs =>
    let p := cs.span isDigit
    if 1 ≤ p.1.length && p.1.length ≤ maxDigits then some p else none
  | _ => none

/-- The signs that may stand before a version. -/
def isSign (c : Char) : Bool := c = '=' || c = 'v'

/-- A text without what may surround a version. -/
def bare (cs : List Char) : List Char := trim ((trim cs).dropWhile isSign)

section Conversion

variable {m : Type → Type} [Monad m] (number : List Char → m Nat)

/-- The version made of the first rows of digits, which `number` turns into numbers. -/
def ofRowsBy? (cs : List Char) : m (Option Version) := do
  match findRow? false cs with
  | none => return none
  | some (major, rest) =>
    match nextRow? rest with
    | none => return some ⟨← number major, 0, 0, [], []⟩
    | some (minor, rest') =>
      match nextRow? rest' with
      | none => return some ⟨← number major, ← number minor, 0, [], []⟩
      | some (patch, _) => return some ⟨← number major, ← number minor, ← number patch, [], []⟩

/-- The version that a text stands for, if `complete` reads complete versions. -/
def coerceBy? (complete : List Char → Option Version) (cs : List Char) : m (Option Version) := do
  let cs := bare cs
  match complete cs with
  | some v => if v.isOversized then ofRowsBy? number cs else return some v
  | none => ofRowsBy? number cs

end Conversion

/-- The version made of the first rows of digits. -/
def ofRows? (cs : List Char) : Option Version := ofRowsBy? (m := Id) numeralValue cs

/-- The version that a text stands for. -/
def coerce? (cs : List Char) : Option Version := coerceBy? (m := Id) numeralValue read? cs

/-- `coerce?` on stored texts. -/
def ofString? (s : String) : Option Version := coerce? s.toList

theorem ofRows?_eq (cs : List Char) :
    ofRows? cs =
      match findRow? false cs with
      | none => none
      | some (major, rest) =>
        match nextRow? rest with
        | none => some ⟨numeralValue major, 0, 0, [], []⟩
        | some (minor, rest') =>
          match nextRow? rest' with
          | none => some ⟨numeralValue major, numeralValue minor, 0, [], []⟩
          | some (patch, _) => some ⟨numeralValue major, numeralValue minor, numeralValue patch, [], []⟩ := rfl

theorem coerce?_eq (cs : List Char) :
    coerce? cs =
      match read? (bare cs) with
      | some v => if v.isOversized then ofRows? (bare cs) else some v
      | none => ofRows? (bare cs) := rfl

theorem coerce?_of_read? {cs : List Char} {v : Version} (h : read? (bare cs) = some v)
    (hv : v.isOversized = false) : coerce? cs = some v := by
  simp [coerce?_eq, h, hv]

end MergeGate.Version
