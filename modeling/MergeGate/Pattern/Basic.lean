import MergeGate.Text.Casing

/-
  MergeGate/Pattern/Basic.lean
  ============================
  **Patterns for pull request titles.**  A pattern is a regular expression with groups, references
  to what a group matched, assertions about what stands before or after, and greedy, lazy and
  possessive repetition.  This module gives its syntax tree and the width of a tree, which is the
  least and the greatest length of a text that it can match.

  Characters are code points, so that a set may range over points that no text holds.
-/

namespace MergeGate

namespace Pattern

/-- What a letter in an inline flag group turns on. -/
inductive Mode where
  /-- Letters match in either case. -/
  | ignoreCase
  /-- The anchors of a line hold at each line. -/
  | multiline
  /-- A point matches a line feed too. -/
  | dotAll
  /-- Blanks and remarks in the pattern are skipped. -/
  | spaced
  /-- Classes and cases are those of ASCII. -/
  | ascii
  /-- Classes and cases are those of all scripts. -/
  | unicode
  /-- Classes and cases are those of a locale, which patterns for texts cannot have. -/
  | locale
  /-- Repetition is not available. -/
  | plain
  deriving DecidableEq, Repr

def Mode.ofLetter? : Char → Option Mode
  | 'i' => some .ignoreCase
  | 'm' => some .multiline
  | 's' => some .dotAll
  | 'x' => some .spaced
  | 'a' => some .ascii
  | 'u' => some .unicode
  | 'L' => some .locale
  | 't' => some .plain
  | _ => none

/-- Whether a mode chooses between classes of characters. -/
def Mode.choosesClasses (m : Mode) : Bool := m == .ascii || m == .unicode || m == .locale

/-- The modes in force while a tree is matched. -/
structure Modes where
  ignoreCase : Bool := false
  multiline : Bool := false
  dotAll : Bool := false
  ascii : Bool := false
  deriving DecidableEq, Repr

/-- Switches one mode; those that concern the reading of a pattern only change nothing. -/
def Modes.switch (value : Bool) (ms : Modes) : Mode → Modes
  | .ignoreCase => { ms with ignoreCase := value }
  | .multiline => { ms with multiline := value }
  | .dotAll => { ms with dotAll := value }
  | .ascii => { ms with ascii := value }
  | .unicode => { ms with ascii := !value }
  | _ => ms

/-- Switches some modes on and others off. -/
def Modes.scoped (ms : Modes) (on off : List Mode) : Modes :=
  off.foldl (Modes.switch false) (on.foldl (Modes.switch true) ms)

inductive CharClass where
  | digit
  | blank
  | word
  deriving DecidableEq, Repr

inductive SetItem where
  | one (code : Nat)
  | range (low high : Nat)
  | ofClass (kind : CharClass) (negated : Bool)
  deriving DecidableEq, Repr

/-- A condition on the place where it stands. -/
inductive Anchor where
  | lineStart
  | lineEnd
  | textStart
  | textEnd
  | boundary
  | notBoundary
  deriving DecidableEq, Repr

/-- Which count of repetitions is tried first, and whether others are tried at all. -/
inductive Greed where
  | greedy
  | lazy
  | possessive
  deriving DecidableEq, Repr

/-- The least and the greatest length of a text. -/
structure Width where
  least : Nat
  greatest : Nat
  deriving DecidableEq, Repr

inductive Node where
  | empty
  | code (n : Nat)
  | notCode (n : Nat)
  | any
  | set (negated : Bool) (items : List SetItem)
  | anchor (a : Anchor)
  | cat (first second : Node)
  | alt (first second : Node)
  /-- What a numbered group matches is kept. -/
  | group (index : Nat) (body : Node)
  | scoped (on off : List Mode) (body : Node)
  /-- Only the first way to match the body is tried. -/
  | atomic (body : Node)
  | ahead (negated : Bool) (body : Node)
  | behind (width : Width) (negated : Bool) (body : Node)
  | repeated (least : Nat) (greatest : Option Nat) (greed : Greed) (body : Node)
  /-- The text that a group matched, whose own width is given. -/
  | reference (index : Nat) (width : Width)
  | conditional (index : Nat) (yes no : Node)
  deriving Repr

/-- No width is taken to be more than this. -/
def widthCap : Nat := Nat.pow 2 64

/-- A width that keeps to the cap. -/
def Width.capped (w : Width) : Width := ⟨min w.least widthCap, min w.greatest widthCap⟩

/-- The width of one text after another. -/
def Width.add (v w : Width) : Width := Width.capped ⟨v.least + w.least, v.greatest + w.greatest⟩

/-- The width of either of two texts. -/
def Width.either (v w : Width) : Width := ⟨min v.least w.least, max v.greatest w.greatest⟩

def Width.repeated (least : Nat) (greatest : Option Nat) (w : Width) : Width :=
  Width.capped ⟨w.least * least,
    match greatest with
    | some n => w.greatest * n
    | none => if w.greatest = 0 then 0 else widthCap⟩

def Node.width : Node → Width
  | .empty | .anchor _ | .ahead .. | .behind .. => ⟨0, 0⟩
  | .code _ | .notCode _ | .any | .set .. => ⟨1, 1⟩
  | .cat a b => a.width.add b.width
  | .alt a b => a.width.either b.width
  | .group _ body | .scoped _ _ body | .atomic body => body.width
  | .repeated least greatest _ body => body.width.repeated least greatest
  | .reference _ width => width
  | .conditional _ yes no => yes.width.either no.width

/-- Trees one after the other. -/
def Node.catAll : List Node → Node
  | [] => .empty
  | [n] => n
  | n :: ns => .cat n (catAll ns)

/-- Trees of which one is to match, the first that can. -/
def Node.altAll : List Node → Node
  | [] => .empty
  | [n] => n
  | n :: ns => .alt n (altAll ns)

end Pattern

end MergeGate
