import MergeGate.Text.Digit

/-
  MergeGate/Command/Arguments.lean
  ================================
  **The arguments of a command.**  An argument is an option, a word, or the mark `--`, after which all
  arguments are words.  A long option may be shortened as long as it stays unambiguous, and its
  value may follow after `=`; short options may be run together.  Words with a dash at the front
  are words if they are negative numbers or hold a blank.
-/

namespace MergeGate.Command

open MergeGate.Text

/-- An option that a command knows. -/
structure Known where
  name : List Char
  takesValue : Bool
  deriving DecidableEq, Repr

inductive Argument where
  /-- An option as it is known, and what is written with it as its value. -/
  | option (known : Known) (value : Option (List Char))
  | unknown
  | word (cs : List Char)
  | mark
  deriving DecidableEq, Repr

/-- Whether a text has one dash at its front. -/
def isShort : List Char → Bool
  | '-' :: c :: _ => c ≠ '-'
  | _ => false

/-- A text cut at its first equals sign. -/
def cutAtEquals (cs : List Char) : Option (List Char × List Char) :=
  if cs.contains '=' then some (cs.takeWhile (· ≠ '='), (cs.dropWhile (· ≠ '=')).drop 1) else none

def named? (known : List Known) (name : List Char) : Option Known := known.find? fun k => k.name == name

/-- The options that a long text may be short for. -/
def longCandidates (known : List Known) (cs : List Char) : List Argument :=
  let (name, value) : List Char × Option (List Char) :=
    match cutAtEquals cs with
    | some (name, value) => (name, some value)
    | none => (cs, none)
  (known.filter fun k => name.isPrefixOf k.name).map fun k => .option k value

/-- The options that a text with one dash may begin with or be short for. -/
def shortCandidates (known : List Known) (cs : List Char) : List Argument :=
  known.filterMap fun k =>
    if k.name == cs.take 2 then some (.option k (some (cs.drop 2)))
    else if cs.isPrefixOf k.name then some (.option k none)
    else none

def isNegativeNumber : List Char → Bool
  | '-' :: cs =>
    let cs := if cs.getLast? = some '\n' then cs.dropLast else cs
    let rest := cs.dropWhile isDigit
    match rest with
    | [] => !cs.isEmpty
    | '.' :: ds => !ds.isEmpty && ds.all isDigit
    | _ => false
  | _ => false

/-- What an argument before any mark is; none if it is ambiguous. -/
def classify (known : List Known) (cs : List Char) : Option Argument :=
  if cs = ['-', '-'] then some .mark
  else if cs.head? ≠ some '-' then some (.word cs)
  else
    match named? known cs with
    | some k => some (.option k none)
    | none =>
      if cs.length = 1 then some (.word cs)
      else
        match (cutAtEquals cs).bind fun p => (named? known p.1).map fun k => Argument.option k (some p.2) with
        | some a => some a
        | none =>
          match if isShort cs then shortCandidates known cs else longCandidates known cs with
          | [a] => some a
          | _ :: _ :: _ => none
          | [] => some (if isNegativeNumber cs || cs.contains ' ' then .word cs else .unknown)

/-- What the arguments are; none if one of them is ambiguous. -/
def classifyAll (known : List Known) : List (List Char) → Option (List Argument)
  | [] => some []
  | cs :: rest => do
    let a ← classify known cs
    if a = .mark then return a :: rest.map .word
    else return a :: (← classifyAll known rest)

/-- An option with the value it is given. -/
structure Use where
  name : List Char
  value : Option (List Char)
  deriving DecidableEq, Repr

/-- The short options that are run together with a first one; none if one of them is not known. -/
def cluster (known : List Known) (name : List Char) : List Char → Option (List Use)
  | [] => some [⟨name, none⟩]
  | c :: cs =>
    match named? known ['-', c] with
    | some next => (cluster known next.name cs).map (⟨name, none⟩ :: ·)
    | none => none

end MergeGate.Command
