import MergeGate.Range.Expression
import MergeGate.Version.Reader
import MergeGate.Datum

/-
  MergeGate/Range/Reader.lean
  ===========================
  **Reading ranges.**  A range is written as alternatives with `||` between them.  An alternative
  is two partial versions with a hyphen between blanks, or any number of partial versions, each
  with a sign or none.  Blanks after a sign, also inside one, are ignored.

  A partial version is one to three numbers or wildcards with points between them, perhaps after
  a `v`; identifiers may follow the third.  A number has at most 16 digits and no leading zero;
  its digits after the first may be those of any script.

  `Range.parse` compiles a range or names the first word in it that it cannot read.

  A row of digits becomes a number where it is read.  The readers take that conversion, and the effects
  it may have, as a parameter (`Range.parseBy`); `Range.parse` and the readers it is made of convert every
  row, and their equations are what other modules go by.
-/

namespace MergeGate

open MergeGate.Text MergeGate.Version

/-- Why a range cannot be read. -/
inductive RangeReason where
  | notText
  | notVersion (word : List Char)
  | unexpected (word : List Char)
  deriving DecidableEq, Repr

/-- A range that cannot be read. -/
structure RangeError where
  range : String
  reason : RangeReason
  deriving DecidableEq, Repr

/-- What messages say of a reason. -/
def RangeReason.label : RangeReason → String
  | .notText => "range must be a string"
  | .notVersion w => "'" ++ String.ofList w ++ "' is not a version"
  | .unexpected w => "unexpected '" ++ String.ofList w ++ "'"

/-- The sentence that tells of an error. -/
def RangeError.message (e : RangeError) : String :=
  "invalid version range '" ++ e.range ++ "': " ++ e.reason.label

/-! ### Words -/

/-- Whether a row of characters is a pre-release identifier of a range: at most 16 digits, or
digits, a letter or hyphen, and further letters, digits and hyphens. -/
def isRangePreIdentifier (i : Identifier) : Bool :=
  match i.dropWhile isDigit with
  | [] => 1 ≤ i.length && i.length ≤ maxDigits
  | c :: cs => (isAsciiLetter c || c = '-') && cs.all isIdentifierChar

/-- A text without a `v` at its front. -/
def dropV : List Char → List Char
  | 'v' :: cs => cs
  | cs => cs

/-- The sign at the front of a word, and what follows it. -/
def readSign : List Char → Sign × List Char
  | '<' :: '=' :: cs => (.atMost, cs)
  | '>' :: '=' :: cs => (.atLeast, cs)
  | '~' :: '>' :: cs => (.tilde, cs)
  | '<' :: cs => (.below, cs)
  | '>' :: cs => (.above, cs)
  | '=' :: cs => (.exact, cs)
  | '~' :: cs => (.tilde, cs)
  | '^' :: cs => (.caret, cs)
  | cs => (.exact, cs)

/-- A text without an equals sign at its front. -/
def dropEquals : List Char → List Char
  | '=' :: cs => cs
  | cs => cs

/-! ### Alternatives -/

/-- The characters that signs are made of. -/
def isSignChar (c : Char) : Bool := c = '<' || c = '>' || c = '=' || c = '~' || c = '^'

/-- A text without the blanks after signs; `skipping` holds directly after one. -/
def closeGaps (skipping : Bool) : List Char → List Char
  | [] => []
  | c :: cs =>
    if skipping && isBlank c then closeGaps true cs else c :: closeGaps (isSignChar c) cs

/-- The pieces between double bars; always at least one. -/
def splitBars : List Char → List (List Char)
  | [] => [[]]
  | '|' :: '|' :: cs => [] :: splitBars cs
  | c :: cs =>
    match splitBars cs with
    | [] => [[c]]
    | p :: ps => (c :: p) :: ps

/-! ### Readers -/

section Readers

variable {m : Type → Type} [Monad m] (number : List Char → m Nat)

/-- A number or a wildcard, and what follows it. -/
def readNumberBy? : List Char → m (Option (Option Nat × List Char))
  | [] => return none
  | c :: cs => do
    if c = 'x' || c = 'X' || c = '*' then return some (none, cs)
    else if c = '0' then return some (some (← number ['0']), cs)
    else if isAsciiDigit c then
      let p := cs.span isDigit
      if p.1.length < maxDigits then return some (some (← number (c :: p.1)), p.2) else return none
    else return none

/-- Reads a partial version, which is the whole text. -/
def Partial.readBy? (cs : List Char) : m (Option Partial) := do
  match ← readNumberBy? number (dropV cs) with
  | some (a, []) => return some (.ofNumbers [] [] a none none)
  | some (a, '.' :: cs₁) =>
    match ← readNumberBy? number cs₁ with
    | some (b, []) => return some (.ofNumbers [] [] a b none)
    | some (b, '.' :: cs₂) =>
      match ← readNumberBy? number cs₂ with
      | some (c, cs₃) =>
        return (readMarks? isRangePreIdentifier isBuildIdentifier cs₃).map fun (pre, build) =>
          .ofNumbers pre build a b c
      | none => return none
    | _ => return none
  | _ => return none

/-- Reads a word: a sign and a partial version. -/
def readSimpleBy? (word : List Char) : m (Option (Sign × Partial)) := do
  let p := readSign word
  return (← Partial.readBy? number p.2).map fun v => (p.1, v)

/-- Reads an end of a hyphen range, which may have one equals sign before it. -/
def readEndBy? (cs : List Char) : m (Option Partial) := Partial.readBy? number (dropEquals cs)

/-- Reads words in order; the first that cannot be read is the error. -/
def readSimplesBy : List (List Char) → ExceptT RangeReason m (List (Sign × Partial))
  | [] => return []
  | w :: ws => do
    match ← (readSimpleBy? number w : m _) with
    | none => throw (.unexpected w)
    | some s => return s :: (← readSimplesBy ws)

def Clause.readBy (cs : List Char) : ExceptT RangeReason m Clause := do
  match words cs with
  | [low, ['-'], high] =>
    match ← (readEndBy? number low : m _) with
    | none => throw (.notVersion low)
    | some l =>
      match ← (readEndBy? number high : m _) with
      | none => throw (.notVersion high)
      | some h => return .between l h
  | _ => return .all (← readSimplesBy number (words (closeGaps false (trim cs))))

/-- Reads alternatives in order. -/
def readClausesBy : List (List Char) → ExceptT RangeReason m (List Clause)
  | [] => return []
  | p :: ps => return (← Clause.readBy number p) :: (← readClausesBy ps)

def Range.parseBy (s : String) : ExceptT RangeError m Range := do
  match ← ((readClausesBy number (splitBars s.toList)).run : m _) with
  | .error e => throw ⟨s, e⟩
  | .ok cs => return ⟨s, cs.map Clause.bounds⟩

end Readers

/-! ### Readers that convert every row -/

def readNumber? (cs : List Char) : Option (Option Nat × List Char) := readNumberBy? (m := Id) numeralValue cs

def Partial.read? (cs : List Char) : Option Partial := Partial.readBy? (m := Id) numeralValue cs

def readSimple? (word : List Char) : Option (Sign × Partial) := readSimpleBy? (m := Id) numeralValue word

def readEnd? (cs : List Char) : Option Partial := readEndBy? (m := Id) numeralValue cs

def readSimples (ws : List (List Char)) : Except RangeReason (List (Sign × Partial)) :=
  readSimplesBy (m := Id) numeralValue ws

def Clause.read (cs : List Char) : Except RangeReason Clause := Clause.readBy (m := Id) numeralValue cs

def readClauses (ps : List (List Char)) : Except RangeReason (List Clause) :=
  readClausesBy (m := Id) numeralValue ps

def Range.parse (s : String) : Except RangeError Range := Range.parseBy (m := Id) numeralValue s

theorem readNumber?_cons (c : Char) (cs : List Char) :
    readNumber? (c :: cs) =
      if c = 'x' || c = 'X' || c = '*' then some (none, cs)
      else if c = '0' then some (some 0, cs)
      else if isAsciiDigit c then
        if (cs.span isDigit).1.length < maxDigits then
          some (some (numeralValue (c :: (cs.span isDigit).1)), (cs.span isDigit).2)
        else none
      else none := rfl

theorem Partial.read?_eq (cs : List Char) :
    Partial.read? cs =
      match readNumber? (dropV cs) with
      | some (a, []) => some (.ofNumbers [] [] a none none)
      | some (a, '.' :: cs₁) =>
        match readNumber? cs₁ with
        | some (b, []) => some (.ofNumbers [] [] a b none)
        | some (b, '.' :: cs₂) =>
          match readNumber? cs₂ with
          | some (c, cs₃) =>
            (readMarks? isRangePreIdentifier isBuildIdentifier cs₃).map fun (pre, build) =>
              .ofNumbers pre build a b c
          | none => none
        | _ => none
      | _ => none := rfl

theorem readSimple?_eq (word : List Char) :
    readSimple? word = (Partial.read? (readSign word).2).map fun v => ((readSign word).1, v) := rfl

theorem readEnd?_eq (cs : List Char) : readEnd? cs = Partial.read? (dropEquals cs) := rfl

theorem readSimples_cons (w : List Char) (ws : List (List Char)) :
    readSimples (w :: ws) =
      match readSimple? w with
      | none => .error (.unexpected w)
      | some s =>
        match readSimples ws with
        | .error e => .error e
        | .ok ss => .ok (s :: ss) := by
  unfold readSimples readSimple?
  rw [readSimplesBy]
  cases readSimpleBy? (m := Id) numeralValue w with
  | none => rfl
  | some s => cases readSimplesBy (m := Id) numeralValue ws <;> rfl

theorem Clause.read_eq (cs : List Char) :
    Clause.read cs =
      match words cs with
      | [low, ['-'], high] =>
        match readEnd? low with
        | none => .error (.notVersion low)
        | some l =>
          match readEnd? high with
          | none => .error (.notVersion high)
          | some h => .ok (.between l h)
      | _ =>
        match readSimples (words (closeGaps false (trim cs))) with
        | .error e => .error e
        | .ok ss => .ok (.all ss) := by
  unfold Clause.read Clause.readBy readSimples readEnd?
  split
  · rename_i low high _
    cases readEndBy? (m := Id) numeralValue low with
    | none => rfl
    | some l => cases readEndBy? (m := Id) numeralValue high <;> rfl
  · cases readSimplesBy (m := Id) numeralValue (words (closeGaps false (trim cs))) <;> rfl

theorem readClauses_cons (p : List Char) (ps : List (List Char)) :
    readClauses (p :: ps) =
      match Clause.read p with
      | .error e => .error e
      | .ok c =>
        match readClauses ps with
        | .error e => .error e
        | .ok cs => .ok (c :: cs) := by
  unfold readClauses Clause.read
  rw [readClausesBy]
  cases Clause.readBy (m := Id) numeralValue p with
  | error e => rfl
  | ok c => cases readClausesBy (m := Id) numeralValue ps <;> rfl

theorem Range.parse_eq (s : String) :
    Range.parse s =
      match readClauses (splitBars s.toList) with
      | .error e => .error ⟨s, e⟩
      | .ok cs => .ok ⟨s, cs.map Clause.bounds⟩ := by
  unfold Range.parse Range.parseBy readClauses
  cases readClausesBy (m := Id) numeralValue (splitBars s.toList) <;> rfl

/-! ### Whole ranges -/

/-- Compiles a range given as a JSON value, which has to be a text. -/
def Range.ofJson : Json → Except RangeError Range
  | .text s => Range.parse s
  | v => .error ⟨v.plainText, .notText⟩

/-- Whether a range can be read. -/
def Range.isValid (v : Json) : Bool := (Range.ofJson v).toBool

/-- Whether the version that a text stands for lies in a range; a text that stands for none lies
in no range, whatever the range. -/
def satisfies (version : String) (range : Json) : Except RangeError Bool :=
  match Version.ofString? version with
  | none => .ok false
  | some v => (Range.ofJson range).map fun r => r.accepts v

theorem splitBars_ne_nil (cs : List Char) : splitBars cs ≠ [] := by
  fun_induction splitBars cs <;> simp_all

end MergeGate
