import MergeGate.Pattern.Fault

/-
  MergeGate/Pattern/Token.lean
  ============================
  **Reading a pattern token by token.**  A backslash and the character after it are one token, any
  other character is one by itself.  A reading knows the tokens that are left, the position of
  the first of them, and what has been learnt so far: the modes of the whole pattern, the groups
  opened and closed and their names, and the groups that conditions ask for.

  A pattern that ends in a single backslash is at fault as soon as the token before it is used up.
-/

namespace MergeGate

namespace Pattern

open MergeGate.Text

inductive Token where
  | plain (c : Char)
  | escaped (c : Char)
  deriving DecidableEq, Repr

/-- A token as it is written. -/
def Token.chars : Token → List Char
  | .plain c => [c]
  | .escaped c => ['\\', c]

/-- The tokens of a text; the second part tells of a backslash with nothing after it. -/
def tokensOf : List Char → List Token × Bool
  | [] => ([], false)
  | ['\\'] => ([], true)
  | '\\' :: c :: cs => let p := tokensOf cs; (.escaped c :: p.1, p.2)
  | c :: cs => let p := tokensOf cs; (.plain c :: p.1, p.2)

/-- The state of a reading. -/
structure Scan where
  rest : List Token
  position : Nat := 0
  /-- A backslash follows the last token. -/
  dangling : Bool
  /-- The modes of the whole pattern. -/
  modes : List Mode := []
  /-- The widths of the groups opened so far; none while a group is open. -/
  widths : List (Option Width) := []
  names : List (List Char × Nat) := []
  /-- While a lookbehind is read: how many groups there were before it. -/
  outerGroups : Option Nat := none
  /-- The groups that conditions ask for by number, and where. -/
  asked : List (Nat × Nat) := []

abbrev Reading := StateT Scan (Except Fault)

/-- Stops with a fault some characters before the current position. -/
def failBack {α : Type} (cause : Cause) (back : Nat := 0) : Reading α := fun s =>
  .error ⟨cause, some (s.position - back)⟩

/-- Stops with a fault at a position. -/
def failAt {α : Type} (cause : Cause) (position : Nat) : Reading α := fun _ => .error ⟨cause, some position⟩

/-- Stops with a fault of the whole pattern. -/
def failWhole {α : Type} (cause : Cause) : Reading α := fun _ => .error ⟨cause, none⟩

/-- The next token, which stays. -/
def peek : Reading (Option Token) := fun s => .ok (s.rest.head?, s)

/-- The state after the next token. -/
def Scan.advance (s : Scan) : Except Fault Scan :=
  match s.rest with
  | [] => .ok s
  | t :: ts =>
    let position := s.position + t.chars.length
    if ts.isEmpty && s.dangling then .error ⟨.escapeAtEnd, some position⟩
    else .ok { s with rest := ts, position := position }

/-- Takes the next token. -/
def take : Reading (Option Token) := fun s =>
  match s.advance with
  | .ok s' => .ok (s.rest.head?, s')
  | .error e => .error e

/-- Takes the next token if it is a certain character. -/
def accept (c : Char) : Reading Bool := do
  if (← peek) = some (.plain c) then
    let _ ← take
    return true
  else return false

/-- Takes at most `n` characters of a class. -/
def takeSome (hit : Char → Bool) : Nat → Reading (List Char)
  | 0 => return []
  | n + 1 => do
    match ← peek with
    | some (.plain c) =>
      if hit c then
        let _ ← take
        return c :: (← takeSome hit n)
      else return []
    | _ => return []

/-- Takes all characters of a class. -/
def takeAll (hit : Char → Bool) : Reading (List Char) := do takeSome hit (← get).rest.length

/-- Takes what comes before a closing character, `what` says what for; `taken` is in reverse. -/
def takeNameFrom (closer : Char) (what : String) : Nat → List Char → Reading (List Char)
  | 0, _ => failBack (.missingName what)
  | n + 1, taken => do
    match ← take with
    | none =>
      if taken.isEmpty then failBack (.missingName what)
      else failBack (.unterminatedName closer) taken.length
    | some t =>
      if t = .plain closer then
        if taken.isEmpty then failBack (.missingName what) 1 else return taken.reverse
      else takeNameFrom closer what n (t.chars.reverse ++ taken)

/-- Takes what comes before a closing character. -/
def takeName (closer : Char) (what : String) : Reading (List Char) := do
  takeNameFrom closer what ((← get).rest.length + 1) []

/-- Skips tokens up to and including a character; false if the pattern ends first. -/
def skipPast (c : Char) : Nat → Reading Bool
  | 0 => return false
  | n + 1 => do
    match ← take with
    | none => return false
    | some t => if t = .plain c then return true else skipPast c n

/-! ### Groups -/

/-- How many groups have been opened. -/
def Scan.groupCount (s : Scan) : Nat := s.widths.length

/-- The width of a group that is closed. -/
def Scan.closedWidth? (s : Scan) (index : Nat) : Option Width :=
  match index with
  | 0 => none
  | i + 1 => (s.widths[i]?).join

/-- Opens the next group. -/
def openGroup (name : Option (List Char)) : Reading Nat := do
  let index := (← get).groupCount + 1
  modify fun s => { s with widths := s.widths ++ [none] }
  match name with
  | none => return index
  | some name =>
    match (← get).names.lookup name with
    | some earlier => failBack (.groupRedefined name index earlier) (name.length + 1)
    | none =>
      modify fun s => { s with names := (name, index) :: s.names }
      return index

/-- Closes a group, whose body has a width. -/
def closeGroup (index : Nat) (width : Width) : Reading Unit :=
  modify fun s => { s with widths := s.widths.set (index - 1) (some width) }

/-- Inside a lookbehind only groups that were closed before it may be asked for. -/
def checkLookbehind (index : Nat) : Reading Unit := do
  let s ← get
  match s.outerGroups with
  | none => return ()
  | some outer =>
    if (s.closedWidth? index).isNone then failBack .openGroup
    else if outer < index then failBack .groupOfSameLookbehind
    else return ()

end Pattern

end MergeGate
