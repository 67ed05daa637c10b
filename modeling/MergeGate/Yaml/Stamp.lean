import MergeGate.Yaml.Cursor

/-
  MergeGate/Yaml/Stamp.lean
  =========================
  **Dates and moments as YAML writes them.**  A stamp is a date of figures, perhaps with a time of day,
  a fraction of the second and an offset from universal time.  Month and day of a date alone have
  two figures each when it stands plain; under a tag, and before a time, one figure will do.
-/

namespace MergeGate.Yaml

open MergeGate.Text MergeGate.Calendar

/-- The offset of a moment. -/
inductive Zone where
  | universal
  | offset (isWest : Bool) (hour minute : Nat)
  deriving DecidableEq, Repr

/-- A time of day; the fraction is given by its digits. -/
structure DayTime where
  hour : Nat
  minute : Nat
  second : Nat
  fraction : List Char
  zone : Option Zone
  deriving DecidableEq, Repr

/-- A date and perhaps a time of day; `isFull` holds when month and day have two figures. -/
structure Stamp where
  year : Nat
  month : Nat
  day : Nat
  isFull : Bool
  time : Option DayTime
  deriving DecidableEq, Repr

/-- Takes at least `least` and at most `most` digits. -/
def takeDigits (least most : Nat) (cs : List Char) : Option (List Char × List Char) :=
  let digits := (cs.take most).takeWhile isAsciiDigit
  if digits.length < least then none else some (digits, cs.drop digits.length)

def takeChar (c : Char) : List Char → Option (List Char)
  | [] => none
  | d :: cs => if d = c then some cs else none

/-- Takes what separates date and time. -/
def takeTimeMark : List Char → Option (List Char)
  | 'T' :: cs => some cs
  | 't' :: cs => some cs
  | c :: cs => if isInline c then some (cs.dropWhile isInline) else none
  | [] => none

/-- Takes the digits of a fraction after its point; none without a point. -/
def takeFraction : List Char → List Char × List Char
  | '.' :: cs => (cs.takeWhile isAsciiDigit, cs.dropWhile isAsciiDigit)
  | cs => ([], cs)

/-- The minutes of an offset, which may be left out. -/
def zoneMinutes? : List Char → Option Nat
  | [] => some 0
  | ':' :: cs =>
    match takeDigits 2 2 cs with
    | some (digits, []) => some (numeralValue digits)
    | _ => none
  | _ => none

/-- The zone at the end of a stamp; the outer option is none if there is something else. -/
def zoneOf? (cs : List Char) : Option (Option Zone) :=
  if cs.isEmpty then some none
  else
    match cs.dropWhile isInline with
    | ['Z'] => some (some .universal)
    | c :: rest =>
      if c = '+' ∨ c = '-' then
        match takeDigits 1 2 rest with
        | some (hour, rest) => (zoneMinutes? rest).map fun m => some (.offset (c == '-') (numeralValue hour) m)
        | none => none
      else none
    | [] => none

def DayTime.ofText? (cs : List Char) : Option DayTime := do
  let (hour, cs) ← takeDigits 1 2 cs
  let (minute, cs) ← takeDigits 2 2 (← takeChar ':' cs)
  let (second, cs) ← takeDigits 2 2 (← takeChar ':' cs)
  let (fraction, cs) := takeFraction cs
  let zone ← zoneOf? cs
  return ⟨numeralValue hour, numeralValue minute, numeralValue second, fraction, zone⟩

/-- A text without the one line feed that it may end with. -/
def dropFinalBreak (cs : List Char) : List Char :=
  if cs.getLast? = some '\n' then cs.dropLast else cs

def Stamp.ofText? (cs : List Char) : Option Stamp := do
  let (year, cs) ← takeDigits 4 4 (dropFinalBreak cs)
  let (month, cs) ← takeDigits 1 2 (← takeChar '-' cs)
  let (day, cs) ← takeDigits 1 2 (← takeChar '-' cs)
  let time ← if cs.isEmpty then pure none else do
    let cs ← takeTimeMark cs
    pure (some (← DayTime.ofText? cs))
  return ⟨numeralValue year, numeralValue month, numeralValue day, month.length = 2 ∧ day.length = 2, time⟩

/-- Whether a stamp counts as one where it stands plain. -/
def Stamp.isPlain (s : Stamp) : Bool := s.isFull || s.time.isSome

/-- The first six digits of a fraction, as a number of millionths. -/
def microsOf (digits : List Char) : Nat :=
  let ds := digits.take 6
  numeralValue ds * Nat.pow 10 (6 - ds.length)

def Zone.minutes : Zone → Int
  | .universal => 0
  | .offset isWest hour minute => if isWest then -(hour * 60 + minute) else hour * 60 + minute

/-- The date of a stamp without a time. -/
def Stamp.date (s : Stamp) : Except RangeFault Date := Date.make s.year s.month s.day

def Stamp.moment (s : Stamp) (t : DayTime) : Except RangeFault Moment :=
  Moment.make s.year s.month s.day t.hour t.minute t.second (microsOf t.fraction) (t.zone.map Zone.minutes)

end MergeGate.Yaml
