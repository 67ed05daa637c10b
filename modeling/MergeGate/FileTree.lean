import MergeGate.Path
import MergeGate.Text.Quoted
import MergeGate.Text.Utf8

/-
  MergeGate/FileTree.lean
  =======================
  **Files and folders.**  A `FileTree` is what the gate sees of the files around it: some files and
  folders by the names that lead to them from the root.  All names on the way to one of them lead
  to folders.  `Surroundings` adds where relative paths start and what the variables of the run
  are.

  A path is followed name by name, and double points go back up from where they stand, so that a
  path through something that is no folder leads nowhere.  Nothing is ever found under a name with
  a null character.

  The system may refuse what it is asked for (`PathFault`): names and paths that are too long to be
  looked for, what lies in a folder that may not be searched, and the octets of a file that is there
  but cannot be read.
-/

namespace MergeGate

open MergeGate.Text

/-- What the system says when it refuses something: a number and a sentence. -/
structure Refusal where
  number : Nat
  sentence : String
  deriving DecidableEq, Repr

namespace Refusal

def denied : Refusal := ⟨13, "Permission denied"⟩

def tooLong : Refusal := ⟨36, "File name too long"⟩

end Refusal

/-- What is found under a path: a sealed file cannot be read, and a barred folder cannot be searched. -/
inductive Entry where
  | file (octets : List UInt8)
  | sealed (r : Refusal)
  | folder
  | barred
  deriving DecidableEq, Repr

/-- Files and folders by the names that lead to them. -/
structure FileTree where
  entries : List (List (List Char) × Entry) := []

/-- A path that the system refuses to look for or to read. -/
structure PathFault where
  path : Path
  refusal : Refusal
  deriving DecidableEq, Repr

/-- The sentence that tells of a fault. -/
def PathFault.message (f : PathFault) : String :=
  "[Errno " ++ toString f.refusal.number ++ "] " ++ f.refusal.sentence ++ ": " ++ quoted f.path.text

namespace FileTree

/-- What the names from the root lead to. -/
def at? (t : FileTree) (names : List (List Char)) : Option Entry :=
  match t.entries.lookup names with
  | some e => some e
  | none => if names.isEmpty || t.entries.any fun e => names.isPrefixOf e.1 then some .folder else none

/-- How many octets a name may have. -/
def nameLimit : Nat := 255

/-- How many octets a path may have. -/
def pathLimit : Nat := 4095

/-- Whether a text takes more octets than a limit. -/
def isLonger (limit : Nat) (cs : List Char) : Bool := limit < (encodeUtf8 cs).length

/-- The outcome of following names, of which one may be refused. -/
inductive Finding where
  | found (e : Entry)
  | nothing
  | refused (r : Refusal)
  deriving DecidableEq, Repr

/-- Follows names from the folder at `done`, whose names are in reverse. -/
def follow (t : FileTree) : List (List Char) → List (List Char) → Finding
  | done, [] =>
    match t.at? done.reverse with
    | some e => .found e
    | none => .nothing
  | done, n :: ns =>
    if t.at? done.reverse = some .barred then .refused .denied
    else if t.at? done.reverse ≠ some .folder then .nothing
    else if n = ['.', '.'] then follow t (done.drop 1) ns
    else if isLonger nameLimit n then .refused .tooLong
    else follow t (n :: done) ns

/-- What a path leads to; relative paths start at `here`. -/
def find (t : FileTree) (here p : Path) : Except PathFault (Option Entry) :=
  if p.toChars.contains '\x00' then .ok none
  else if isLonger pathLimit p.toChars then .error ⟨p, .tooLong⟩
  else
    match follow t [] (here.join p).names with
    | .found e => .ok (some e)
    | .nothing => .ok none
    | .refused r => .error ⟨p, r⟩

end FileTree

/-- What surrounds a run of the gate. -/
structure Surroundings where
  /-- Where relative paths start. -/
  here : Path
  files : FileTree
  settings : List (String × String) := []

namespace Surroundings

/-- Whether there is something under a path. -/
def holds (s : Surroundings) (p : Path) : Except PathFault Bool := (s.files.find s.here p).map Option.isSome

/-- What the file under a path holds, none if there is no file. -/
def octets? (s : Surroundings) (p : Path) : Except PathFault (Option (List UInt8)) :=
  match s.files.find s.here p with
  | .ok (some (.file octets)) => .ok (some octets)
  | .ok (some (.sealed r)) => .error ⟨p, r⟩
  | .ok _ => .ok none
  | .error f => .error f

def valueOf? (s : Surroundings) (name : String) : Option String := s.settings.lookup name

/-- The value of a variable that is not empty. -/
def filledValue? (s : Surroundings) (name : String) : Option String :=
  (s.valueOf? name).filter (· ≠ "")

end Surroundings

end MergeGate
