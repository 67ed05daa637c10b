import MergeGate.Calendar
import MergeGate.Text.Integer
import MergeGate.Json.Value
import MergeGate.Text.Quoted

/-
  MergeGate/Datum.lean
  ====================
  **Values of a policy document.**  A policy file is a tree of values: those of JSON, and beyond
  them octets, dates, moments, pairs, sets, and mappings with keys of any kind.  A list or a
  mapping may also hold itself: then it is the body of a `knot`, and inside the body a `loop` of
  the same number stands for it.

  A value that stands where the policy wants a text is turned into one: `Datum.text?` is the text
  of a value on its own, `Datum.literal` its text as part of another value, where texts are
  quoted.  A value has no text if an integer in it is too long or its collections are nested too
  deep (`Datum.fault?`).  `Datum.untied` undoes a knot at the top of a value, so that each part of it
  can be looked at on its own.
-/

namespace MergeGate

open MergeGate.Text MergeGate.Decimal MergeGate.Calendar

/-- A value of a policy document. -/
inductive Datum where
  | null
  | bool (b : Bool)
  | int (n : Int)
  | number (x : Binary)
  | text (s : String)
  | octets (bs : List UInt8)
  | date (d : Date)
  | moment (t : Moment)
  | list (items : List Datum)
  | pair (fst snd : Datum)
  | set (items : List Datum)
  | mapping (entries : List (Datum × Datum))
  | knot (id : Nat) (body : Datum)
  | loop (id : Nat) (ofMapping : Bool)
  deriving Inhabited

namespace Datum

/-! ### JSON among the values -/

mutual

/-- A JSON value as a value of a document. -/
def ofJson : Json → Datum
  | .null => .null
  | .bool b => .bool b
  | .int n => .int n
  | .number x => .number x
  | .text s => .text s
  | .list xs => .list (ofItems xs)
  | .object ms => .mapping (ofMembers ms)

def ofItems : List Json → List Datum
  | [] => []
  | x :: xs => ofJson x :: ofItems xs

/-- The members of a JSON object, their names as texts. -/
def ofMembers : List (String × Json) → List (Datum × Datum)
  | [] => []
  | (k, v) :: ms => (.text k, ofJson v) :: ofMembers ms

end

/-! ### Texts of values -/

/-- What is shown of a container inside itself. -/
def elided (ofMapping : Bool) : List Char :=
  if ofMapping then ['\x7b', '.', '.', '.', '\x7d'] else ['[', '.', '.', '.', ']']

def isMapping : Datum → Bool
  | .mapping _ => true
  | _ => false

mutual

/-- The text of a value as part of another; `path` holds the knots around it. -/
def literalIn (path : List Nat) : Datum → List Char
  | .null => "None".toList
  | .bool true => "True".toList
  | .bool false => "False".toList
  | .int n => integer n
  | .number x => x.text
  | .text s => quote s.toList
  | .octets bs => quoteBytes bs
  | .date d => d.literal
  | .moment t => t.literal
  | .list xs => '[' :: literalItems path true xs ++ [']']
  | .pair a b => '(' :: literalIn path a ++ ',' :: ' ' :: literalIn path b ++ [')']
  | .set [] => "set()".toList
  | .set xs => '\x7b' :: literalItems path true xs ++ ['\x7d']
  | .mapping es => '\x7b' :: literalEntries path true es ++ ['\x7d']
  | .knot id body => if path.contains id then elided body.isMapping else literalIn (id :: path) body
  | .loop _ ofMapping => elided ofMapping

/-- Items with a comma between them; `first` holds before the first one. -/
def literalItems (path : List Nat) (first : Bool) : List Datum → List Char
  | [] => []
  | x :: xs => (if first then [] else [',', ' ']) ++ literalIn path x ++ literalItems path false xs

/-- Entries with a comma between them and a colon after each key. -/
def literalEntries (path : List Nat) (first : Bool) : List (Datum × Datum) → List Char
  | [] => []
  | (k, v) :: es =>
    (if first then [] else [',', ' ']) ++ literalIn path k ++ ':' :: ' ' :: literalIn path v
      ++ literalEntries path false es

end

/-- The text of a value as it is shown inside lists. -/
def literal (v : Datum) : List Char := literalIn [] v

/-- The text of a value on its own: texts and dates are not quoted. -/
def plain : Datum → List Char
  | .text s => s.toList
  | .date d => d.text
  | .moment t => t.text
  | v => literal v

/-! ### Values that cannot be written -/

/-- Whether an integer has too many digits to be written in base ten. -/
def isOversized (n : Int) : Bool := 14283 < n.natAbs.log2 && Nat.pow 10 digitLimit ≤ n.natAbs

/-- Why a value cannot be turned into text. -/
inductive TextFault where
  /-- An integer in it has too many digits. -/
  | oversized
  /-- Its collections are nested too deep. -/
  | tooDeep
  deriving DecidableEq, Repr

/-- The sentence that tells of a fault. -/
def TextFault.message : TextFault → String
  | .oversized =>
    "Exceeds the limit (4300 digits) for integer string conversion; "
      ++ "use sys.set_int_max_str_digits() to increase the limit"
  | .tooDeep => "maximum recursion depth exceeded"

/-- How many collections may lie inside each other in a value that is turned into text.  What stops the
writing is the number of calls that are open, so the bound holds where a policy is read; with more calls
around it, or with more than one call for a level, it is lower. -/
def depthLimit : Nat := 990

mutual

/-- The first fault that is met when a value is written as part of another.  `path` holds the knots around
it, and `room` is how many more collections may be entered. -/
def faultIn (path : List Nat) (room : Nat) : Datum → Option TextFault
  | .int n => if isOversized n then some .oversized else none
  | .list xs => if room = 0 then some .tooDeep else faultInItems path (room - 1) xs
  | .pair a b =>
    if room = 0 then some .tooDeep else (faultIn path (room - 1) a).or (faultIn path (room - 1) b)
  | .set xs => if room = 0 then some .tooDeep else faultInItems path (room - 1) xs
  | .mapping es => if room = 0 then some .tooDeep else faultInEntries path (room - 1) es
  | .knot id body => if path.contains id then none else faultIn (id :: path) room body
  | _ => none

def faultInItems (path : List Nat) (room : Nat) : List Datum → Option TextFault
  | [] => none
  | x :: xs => (faultIn path room x).or (faultInItems path room xs)

def faultInEntries (path : List Nat) (room : Nat) : List (Datum × Datum) → Option TextFault
  | [] => none
  | (k, v) :: es => ((faultIn path room k).or (faultIn path room v)).or (faultInEntries path room es)

end

/-- What keeps a value from being written, if anything does. -/
def fault? (v : Datum) : Option TextFault := faultIn [] depthLimit v

/-- The text of a value on its own. -/
def text? (v : Datum) : Except TextFault String :=
  match v.fault? with
  | some fault => .error fault
  | none => .ok (String.ofList v.plain)

/-! ### Knots -/

mutual

/-- Puts a knot in the place of the loops that stand for it. -/
def resolve (id : Nat) (whole : Datum) : Datum → Datum
  | .list xs => .list (resolveItems id whole xs)
  | .pair a b => .pair (resolve id whole a) (resolve id whole b)
  | .set xs => .set (resolveItems id whole xs)
  | .mapping es => .mapping (resolveEntries id whole es)
  | .knot j body => if j = id then .knot j body else .knot j (resolve id whole body)
  | .loop j ofMapping => if j = id then whole else .loop j ofMapping
  | v => v

def resolveItems (id : Nat) (whole : Datum) : List Datum → List Datum
  | [] => []
  | x :: xs => resolve id whole x :: resolveItems id whole xs

def resolveEntries (id : Nat) (whole : Datum) : List (Datum × Datum) → List (Datum × Datum)
  | [] => []
  | (k, v) :: es => (resolve id whole k, resolve id whole v) :: resolveEntries id whole es

end

/-- The value without a knot at its top. -/
def untied : Datum → Datum
  | .knot id body => resolve id (.knot id body) body
  | v => v

/-! ### Keys -/

/-- A number that is an integer as that integer, a truth value as one or zero. -/
def canonical : Datum → Datum
  | .bool b => .int (if b then 1 else 0)
  | .number x =>
    match x.integer? with
    | some n => .int n
    | none => .number x
  | v => v

/-- Whether two values are the same key: numbers are if they have one value.  Collections are no keys. -/
def isSameKey (a b : Datum) : Bool :=
  match a.canonical, b.canonical with
  | .null, .null => true
  | .int m, .int n => m == n
  | .number x, .number y => x == y
  | .text s, .text t => s == t
  | .octets s, .octets t => s == t
  | .date d, .date e => d == e
  | .moment s, .moment t => s == t
  | _, _ => false

/-- Gives a key a value; a key that is there already keeps its place and its form. -/
def putEntry {α : Type} (key : Datum) (value : α) : List (Datum × α) → List (Datum × α)
  | [] => [(key, value)]
  | (k, v) :: es => if isSameKey k key then (k, value) :: es else (k, v) :: putEntry key value es

/-- The value of the entry with a text as its key. -/
def lookup (name : String) : List (Datum × Datum) → Option Datum
  | [] => none
  | (.text k, v) :: es => if k = name then some v else lookup name es
  | _ :: es => lookup name es

end Datum

/-- The text of a JSON value on its own, as messages show it. -/
def Json.plainText (v : Json) : String := String.ofList (Datum.ofJson v).plain

/-- The text of a JSON value as part of another. -/
def Json.literal (v : Json) : String := String.ofList (Datum.ofJson v).literal

end MergeGate
