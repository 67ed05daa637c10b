import MergeGate.Text.Blank

/-
  MergeGate/Path.lean
  ===================
  **Paths.**  A path is where it starts and the names on the way.  It is read from text by cutting
  at slashes; empty names and single points say nothing and are dropped, double points stay.  Two
  slashes at the front, neither one nor three, are a start of their own.

  `Path.join` goes on from a path, `Path.relativeTo?` tells the way from one path down to another,
  and `Path.resolve` gives the path from the root without double points.
-/

namespace MergeGate

open MergeGate.Text

inductive Anchor where
  | here
  | root
  | doubleRoot
  deriving DecidableEq, Repr

def Anchor.text : Anchor → List Char
  | .here => []
  | .root => ['/']
  | .doubleRoot => ['/', '/']

structure Path where
  anchor : Anchor
  names : List (List Char)
  deriving DecidableEq, Repr

namespace Path

/-- Whether a piece between slashes is a name. -/
def isName (n : List Char) : Bool := n ≠ [] && n ≠ ['.']

def namesOf (cs : List Char) : List (List Char) := (splitAt (· = '/') cs).filter isName

/-- The start of a text. -/
def anchorOf (cs : List Char) : Anchor :=
  match (cs.takeWhile (· = '/')).length with
  | 0 => .here
  | 2 => .doubleRoot
  | _ => .root

def ofChars (cs : List Char) : Path := ⟨anchorOf cs, namesOf cs⟩

def ofString (s : String) : Path := ofChars s.toList

def toChars (p : Path) : List Char :=
  match p.anchor.text ++ joinWith ['/'] p.names with
  | [] => ['.']
  | cs => cs

def text (p : Path) : String := String.ofList p.toChars

/-- Whether a path starts at a root. -/
def isAbsolute (p : Path) : Bool := p.anchor ≠ .here

/-- The second path as seen from the first. -/
def join (p q : Path) : Path := if q.isAbsolute then q else ⟨p.anchor, p.names ++ q.names⟩

/-- The names that lead from a path down to another one. -/
def relativeTo? (p base : Path) : Option Path :=
  if p.anchor = base.anchor then
    if base.names.isPrefixOf p.names then some ⟨.here, p.names.drop base.names.length⟩ else none
  else none

/-- Goes along names from names that lead down from the root. -/
def descend : List (List Char) → List (List Char) → List (List Char)
  | done, [] => done.reverse
  | done, n :: ns => if n = ['.', '.'] then descend (done.drop 1) ns else descend (n :: done) ns

/-- The path from the root, without double points; `here` is where relative paths start. -/
def resolve (here p : Path) : Path := ⟨.root, descend [] (here.join p).names⟩

/-- The last part of the last name, from its last point on, if something stands on either side. -/
def suffix (p : Path) : List Char :=
  match p.names.getLast? with
  | none => []
  | some n =>
    let tail := (n.reverse.takeWhile (· ≠ '.')).reverse
    if tail.length + 1 < n.length && !tail.isEmpty then '.' :: tail else []

end Path

end MergeGate
