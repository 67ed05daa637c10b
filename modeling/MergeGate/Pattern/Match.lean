import MergeGate.Pattern.Reader

/-
  MergeGate/Pattern/Match.lean
  ============================
  **Finding a pattern in a text.**  A tree is matched from a standpoint, which is a position in the
  text and what the groups have matched so far, and goes on with a continuation.  The ways to match
  a tree are tried in order of priority, and the first one from which the continuation succeeds
  counts.  `Pattern.isFoundIn` asks whether there is a match anywhere.

  A repetition whose body has matched nothing at a place is not tried there again; so the number
  of rounds is bounded by the length of the text, and no recursion needs more.
-/

namespace MergeGate

namespace Pattern

open MergeGate.Text

/-! ### Characters -/

/-- Whether a code point belongs to a class. -/
def CharClass.has (ascii : Bool) (kind : CharClass) (n : Nat) : Bool :=
  let c := Char.ofNat n
  let known := n < 128 || !ascii
  match kind with
  | .digit => known && isDigit c
  | .blank => if ascii then n == 32 || (9 ≤ n && n ≤ 13) else isBlank c
  | .word => known && (isAlphanumeric c || n == 95)

/-- The code points that count for a character: those alike with it when case is ignored. -/
def Modes.counting (ms : Modes) (n : Nat) : List Nat :=
  if !ms.ignoreCase then [n] else if ms.ascii then variantsAscii n else variants n

/-- The last code point of the basic plane. -/
def basicPlaneEnd : Nat := 0xffff

/-- Whether a member of a set has a code point, `n` being the character in the text and `m` what
counts for it.  Beyond the basic plane a single letter in a set stands for its small form. -/
def SetItem.has (ms : Modes) (n m : Nat) : SetItem → Bool
  | .one code => if ms.ignoreCase && basicPlaneEnd < code then lowerPoint n == code else m == code
  | .range low high => low ≤ m && m ≤ high
  | .ofClass kind negated => kind.has ms.ascii m != negated

def setHas (ms : Modes) (negated : Bool) (items : List SetItem) (n : Nat) : Bool :=
  ((ms.counting n).any fun m => items.any (SetItem.has ms n m)) != negated

/-- The test of a tree that always takes one character. -/
def Node.test? (ms : Modes) : Node → Option (Char → Bool)
  | .code n => some fun c => (ms.counting c.toNat).contains n
  | .notCode n => some fun c => !(ms.counting c.toNat).contains n
  | .any => some fun c => ms.dotAll || c != '\n'
  | .set negated items => some fun c => setHas ms negated items c.toNat
  | .scoped on off body => body.test? (ms.scoped on off)
  | _ => none

/-! ### Standpoints -/

/-- A standpoint in a text; the latest openings and closings of groups come first. -/
structure Stand where
  position : Nat
  opened : List (Nat × Nat) := []
  closed : List (Nat × Nat) := []

/-- The span that a group has matched. -/
def Stand.span? (s : Stand) (index : Nat) : Option (Nat × Nat) :=
  match s.opened.lookup index, s.closed.lookup index with
  | some a, some b => if b < a then none else some (a, b)
  | _, _ => none

/-- What is left to do from a standpoint. -/
abbrev Goal := Stand → Option Stand

/-- Whether a character of a word stands at a position. -/
def isWordAt (ms : Modes) (text : Array Char) (position : Nat) : Bool :=
  match text[position]? with
  | some c => CharClass.word.has ms.ascii c.toNat
  | none => false

def Anchor.holdsAt (ms : Modes) (text : Array Char) (position : Nat) : Anchor → Bool
  | .lineStart => position == 0 || ms.multiline && text[position - 1]? == some '\n'
  | .lineEnd =>
    position == text.size || text[position]? == some '\n' && (ms.multiline || position + 1 == text.size)
  | .textStart => position == 0
  | .textEnd => position == text.size
  | .boundary => !text.isEmpty && isEdge
  | .notBoundary => !text.isEmpty && !isEdge
where
  isEdge : Bool := (0 < position && isWordAt ms text (position - 1)) != isWordAt ms text position

/-- A character as it counts in a comparison with what a group has matched. -/
def Modes.compared (ms : Modes) (c : Char) : Char :=
  if !ms.ignoreCase then c else if ms.ascii then lowerAscii c else lower c

/-- Whether the text from `b` on repeats the `count` characters from `a` on. -/
def repeatsAt (ms : Modes) (text : Array Char) (a b : Nat) : Nat → Bool
  | 0 => true
  | count + 1 =>
    match text[a]?, text[b]? with
    | some c, some d => ms.compared c == ms.compared d && repeatsAt ms text (a + 1) (b + 1) count
    | _, _ => false

/-! ### Repetition of one character -/

/-- How many characters from a position on pass a test, at most `limit`. -/
def runLength (text : Array Char) (test : Char → Bool) (position : Nat) : Nat → Nat
  | 0 => 0
  | limit + 1 =>
    match text[position]? with
    | some c => if test c then runLength text test (position + 1) limit + 1 else 0
    | none => 0

/-- Tries the goal after `count` characters, then after fewer, down to `least`. -/
def fewer (goal : Goal) (s : Stand) (least : Nat) : Nat → Option Stand
  | 0 => if least = 0 then goal s else none
  | count + 1 =>
    if count + 1 < least then none
    else
      match goal { s with position := s.position + (count + 1) } with
      | some r => some r
      | none => fewer goal s least count

/-- Tries the goal after `count` characters, then after more, `spare` times at most. -/
def more (goal : Goal) (s : Stand) (count : Nat) : Nat → Option Stand
  | 0 => goal { s with position := s.position + count }
  | spare + 1 =>
    match goal { s with position := s.position + count } with
    | some r => some r
    | none => more goal s (count + 1) spare

def repeatTest (text : Array Char) (test : Char → Bool) (least : Nat) (greatest : Option Nat) (greed : Greed)
    (goal : Goal) : Goal := fun s =>
  let left := text.size - s.position
  let limit := match greatest with
    | some n => min n left
    | none => left
  let count := runLength text test s.position limit
  if count < least then none
  else
    match greed with
    | .greedy => fewer goal s least count
    | .lazy => more goal s least (count - least)
    | .possessive => goal { s with position := s.position + count }

/-! ### Repetition of a tree -/

/-- Whether one more round may be tried after `count` of them. -/
def allowsRound (greatest : Option Nat) (count : Nat) : Bool :=
  match greatest with
  | some n => count < n
  | none => true

/-- Repeats as often as possible; `step` matches the body and goes on, `last` is where the latest
optional round began. -/
def greedyRounds (step : Goal → Goal) (least : Nat) (greatest : Option Nat) (goal : Goal) :
    Nat → Nat → Option Nat → Goal
  | 0, _, _, _ => none
  | n + 1, count, last, s =>
    if count < least then step (greedyRounds step least greatest goal n (count + 1) last) s
    else if allowsRound greatest count && last != some s.position then
      match step (greedyRounds step least greatest goal n (count + 1) (some s.position)) s with
      | some r => some r
      | none => goal s
    else goal s

/-- Repeats as seldom as possible. -/
def lazyRounds (step : Goal → Goal) (least : Nat) (greatest : Option Nat) (goal : Goal) :
    Nat → Nat → Option Nat → Goal
  | 0, _, _, _ => none
  | n + 1, count, last, s =>
    if count < least then step (lazyRounds step least greatest goal n (count + 1) last) s
    else
      match goal s with
      | some r => some r
      | none =>
        if allowsRound greatest count && last != some s.position then
          step (lazyRounds step least greatest goal n (count + 1) (some s.position)) s
        else none

/-- Repeats as often as possible, without ever going back. -/
def possessiveRounds (step : Goal) (least : Nat) (greatest : Option Nat) : Nat → Nat → Option Nat → Goal
  | 0, _, _, _ => none
  | n + 1, count, last, s =>
    if count < least then
      match step s with
      | some r => possessiveRounds step least greatest n (count + 1) last r
      | none => none
    else if allowsRound greatest count && last != some s.position then
      match step s with
      | some r => possessiveRounds step least greatest n (count + 1) (some s.position) r
      | none => some s
    else some s

/-- Repeats what `step` matches; there are at most `least` rounds that have to be made, and after
them one for each character that is left, and one that matches nothing. -/
def repeatStep (text : Array Char) (step : Goal → Goal) (least : Nat) (greatest : Option Nat) (greed : Greed)
    (goal : Goal) : Goal := fun s =>
  let rounds := least + (text.size - s.position) + 3
  match greed with
  | .greedy => greedyRounds step least greatest goal rounds 0 none s
  | .lazy => lazyRounds step least greatest goal rounds 0 none s
  | .possessive =>
    match possessiveRounds (step some) least greatest rounds 0 none s with
    | some r => goal r
    | none => none

/-! ### Trees -/

/-- Goes on after one character that passes a test. -/
def oneChar (text : Array Char) (test : Char → Bool) (goal : Goal) : Goal := fun s =>
  match text[s.position]? with
  | some c => if test c then goal { s with position := s.position + 1 } else none
  | none => none

/-- Goes on from where an assertion is made, if it holds; what groups matched in it is kept. -/
def asserted (negated : Bool) (inner : Option Stand) (goal : Goal) : Goal := fun s =>
  match inner, negated with
  | some r, false => goal { r with position := s.position }
  | none, true => goal s
  | _, _ => none

/-- Matches a tree from a standpoint and goes on. -/
def Node.run (text : Array Char) : Node → Modes → Goal → Goal
  | .empty, _, goal, s => goal s
  | .anchor a, ms, goal, s => if a.holdsAt ms text s.position then goal s else none
  | .cat a b, ms, goal, s => a.run text ms (b.run text ms goal) s
  | .alt a b, ms, goal, s =>
    match a.run text ms goal s with
    | some r => some r
    | none => b.run text ms goal s
  | .group index body, ms, goal, s =>
    body.run text ms (fun r => goal { r with closed := (index, r.position) :: r.closed })
      { s with opened := (index, s.position) :: s.opened }
  | .scoped on off body, ms, goal, s => body.run text (ms.scoped on off) goal s
  | .atomic body, ms, goal, s =>
    match body.run text ms some s with
    | some r => goal r
    | none => none
  | .ahead negated body, ms, goal, s => asserted negated (body.run text ms some s) goal s
  | .behind width negated body, ms, goal, s =>
    let inner :=
      if s.position < width.least then none
      else body.run text ms some { s with position := s.position - width.least }
    asserted negated inner goal s
  | .repeated least greatest greed body, ms, goal, s =>
    match body.test? ms with
    | some test => repeatTest text test least greatest greed goal s
    | none => repeatStep text (body.run text ms) least greatest greed goal s
  | .reference index _, ms, goal, s =>
    match s.span? index with
    | some (a, b) =>
      if repeatsAt ms text a s.position (b - a) then goal { s with position := s.position + (b - a) } else none
    | none => none
  | .conditional index yes no, ms, goal, s =>
    if (s.span? index).isSome then yes.run text ms goal s else no.run text ms goal s
  | .code n, ms, goal, s => oneChar text (fun c => (ms.counting c.toNat).contains n) goal s
  | .notCode n, ms, goal, s => oneChar text (fun c => !(ms.counting c.toNat).contains n) goal s
  | .any, ms, goal, s => oneChar text (fun c => ms.dotAll || c != '\n') goal s
  | .set negated items, ms, goal, s => oneChar text (fun c => setHas ms negated items c.toNat) goal s

def matchesAt (p : Pattern) (text : Array Char) (position : Nat) : Bool :=
  (p.node.run text p.modes some ⟨position, [], []⟩).isSome

/-- Whether a pattern matches somewhere in a text. -/
def isFoundIn (p : Pattern) (cs : List Char) : Bool :=
  let text := cs.toArray
  (List.range (text.size + 1)).any (p.matchesAt text)

theorem isFoundIn_iff (p : Pattern) (cs : List Char) :
    p.isFoundIn cs = true ↔ ∃ i, i ≤ cs.length ∧ p.matchesAt cs.toArray i = true := by
  simp only [isFoundIn, List.any_eq_true, List.mem_range, List.size_toArray, Nat.lt_succ_iff]

end Pattern

end MergeGate
