/-
  MergeGate/Text/Blank.lean
  =========================
  **Blank characters, trimming and words.**  Every place of the gate that trims a text or
  cuts it into words uses the one class of blank characters given here: the white space of
  Unicode together with the four information separators U+001C to U+001F.  The zero width
  space, the byte order mark and the Mongolian vowel separator are not blank.

  A text is a `List Char` throughout the rules of the gate; `String` is used where a text is
  only stored or written.
-/

namespace MergeGate.Text

def isBlank (c : Char) : Bool :=
  let n := c.toNat
  (9 ≤ n && n ≤ 13) || (28 ≤ n && n ≤ 32) || n == 0x85 || n == 0xa0 || n == 0x1680
    || (0x2000 ≤ n && n ≤ 0x200a) || n == 0x2028 || n == 0x2029 || n == 0x202f
    || n == 0x205f || n == 0x3000

def trimFront (cs : List Char) : List Char := cs.dropWhile isBlank

/-- A text without the blanks at its end. -/
def trimBack (cs : List Char) : List Char := (cs.reverse.dropWhile isBlank).reverse

/-- A text without the blanks at either side. -/
def trim (cs : List Char) : List Char := trimBack (trimFront cs)

/-- `trim` on stored texts. -/
def trimmed (s : String) : String := String.ofList (trim s.toList)

/-- The first text if it is there and is not empty, or else the second. -/
def filledOr (s : Option String) (other : String) : String :=
  match s with
  | none => other
  | some s => if s = "" then other else s

/-! ### Words -/

/-- Puts a finished word in front of the others; an empty one is no word. -/
def consWord (w : List Char) (ws : List (List Char)) : List (List Char) :=
  if w.isEmpty then ws else w :: ws

/-- The word that `cs` begins with (empty before a blank) and the words after it. -/
def wordsAux : List Char → List Char × List (List Char)
  | [] => ([], [])
  | c :: cs =>
    let p := wordsAux cs
    if isBlank c then ([], consWord p.1 p.2) else (c :: p.1, p.2)

/-- The maximal runs of characters that are not blank. -/
def words (cs : List Char) : List (List Char) :=
  let p := wordsAux cs
  consWord p.1 p.2

/-! ### Cutting at a separator -/

/-- The pieces between the places where `hit` holds; always at least one piece. -/
def splitAt (hit : Char → Bool) : List Char → List (List Char)
  | [] => [[]]
  | c :: cs =>
    if hit c then [] :: splitAt hit cs
    else
      match splitAt hit cs with
      | [] => [[c]]
      | p :: ps => (c :: p) :: ps

/-- Texts written one after the other with a separator between them. -/
def joinWith (sep : List Char) : List (List Char) → List Char
  | [] => []
  | [p] => p
  | p :: q :: ps => p ++ sep ++ joinWith sep (q :: ps)

/-- Whether `pat` stands at the front of `cs`, and if so what follows it. -/
def dropLead : List Char → List Char → Option (List Char)
  | [], cs => some cs
  | _ :: _, [] => none
  | p :: ps, c :: cs => if p = c then dropLead ps cs else none

/-- Whether `pat` stands anywhere in the text. -/
def holds (pat : List Char) : List Char → Bool
  | [] => pat.isEmpty
  | c :: cs => (dropLead pat (c :: cs)).isSome || holds pat cs

/-- The ASCII lower-case form; other characters stand for themselves. -/
def lowerAscii (c : Char) : Char :=
  if 'A' ≤ c ∧ c ≤ 'Z' then Char.ofNat (c.toNat + 32) else c

/-- The ASCII upper-case form; other characters stand for themselves. -/
def upperAscii (c : Char) : Char :=
  if 'a' ≤ c ∧ c ≤ 'z' then Char.ofNat (c.toNat - 32) else c

theorem trimFront_of_not_blank {c : Char} (cs : List Char) (h : isBlank c = false) :
    trimFront (c :: cs) = c :: cs := by
  simp [trimFront, h]

theorem words_nil : words [] = [] := rfl

theorem splitAt_ne_nil (hit : Char → Bool) (cs : List Char) : splitAt hit cs ≠ [] := by
  cases cs with
  | nil => simp [splitAt]
  | cons c cs =>
    simp only [splitAt]
    split
    · simp
    · split <;> simp

end MergeGate.Text
