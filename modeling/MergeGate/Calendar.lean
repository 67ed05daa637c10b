import MergeGate.Text.Digit

/-
  MergeGate/Calendar.lean
  =======================
  **Dates and moments.**  A policy file may hold a date or a moment where a text is expected; the
  gate shows it in figures.  `Date.make` and `Moment.make` build one from its figures or say
  which figure is out of range, the year first, then the month, the day and the time of day.

  A moment may have an offset from universal time, in minutes, which is less than a day.
-/

namespace MergeGate.Calendar

open MergeGate.Text

/-- Which figure of a date or a moment is out of range. -/
inductive RangeFault where
  | year (n : Nat)
  | month
  | day
  | hour
  | minute
  | second
  | offset (minutes : Int)
  deriving DecidableEq, Repr

structure Date where
  year : Nat
  month : Nat
  day : Nat
  deriving DecidableEq, Repr

/-- A date with a time of day and perhaps an offset in minutes. -/
structure Moment where
  date : Date
  hour : Nat
  minute : Nat
  second : Nat
  micro : Nat
  offset : Option Int
  deriving DecidableEq, Repr

/-- Whether a year has a 29th of February. -/
def isLeap (y : Nat) : Bool := y % 4 = 0 && (y % 100 ≠ 0 || y % 400 = 0)

/-- The number of days of a month. -/
def daysIn (y m : Nat) : Nat :=
  if m = 2 then (if isLeap y then 29 else 28)
  else if m = 4 || m = 6 || m = 9 || m = 11 then 30
  else 31

/-- The date of three figures. -/
def Date.make (year month day : Nat) : Except RangeFault Date :=
  if year = 0 || 9999 < year then .error (.year year)
  else if month = 0 || 12 < month then .error .month
  else if day = 0 || daysIn year month < day then .error .day
  else .ok ⟨year, month, day⟩

/-- The moment of its figures; a faulty offset is told before any other fault. -/
def Moment.make (year month day hour minute second micro : Nat) (offset : Option Int) :
    Except RangeFault Moment :=
  let faultyOffset := offset.filter fun m => m ≤ -1440 || 1440 ≤ m
  match faultyOffset with
  | some m => .error (.offset m)
  | none =>
    match Date.make year month day with
    | .error e => .error e
    | .ok d =>
      if 23 < hour then .error .hour
      else if 59 < minute then .error .minute
      else if 59 < second then .error .second
      else .ok ⟨d, hour, minute, second, micro, offset⟩

/-! ### Texts -/

/-- A number padded with zeros to a width. -/
def padded (width n : Nat) : List Char :=
  let ds := numeral n
  List.replicate (width - ds.length) '0' ++ ds

/-- Figures in a row, with a separator between them. -/
def figures (sep : List Char) (ns : List (List Char)) : List Char := joinWith sep ns

/-- A date as `2020-01-31`. -/
def Date.text (d : Date) : List Char :=
  padded 4 d.year ++ '-' :: padded 2 d.month ++ '-' :: padded 2 d.day

/-- An offset as `+02:00`. -/
def offsetText (minutes : Int) : List Char :=
  let n := minutes.natAbs
  (if minutes < 0 then '-' else '+') :: padded 2 (n / 60) ++ ':' :: padded 2 (n % 60)

/-- A moment as `2020-01-31 10:20:30.500000+02:00`, without an empty fraction. -/
def Moment.text (t : Moment) : List Char :=
  t.date.text ++ ' ' :: padded 2 t.hour ++ ':' :: padded 2 t.minute ++ ':' :: padded 2 t.second
    ++ (if t.micro = 0 then [] else '.' :: padded 6 t.micro)
    ++ (match t.offset with
        | none => []
        | some m => offsetText m)

/-- A span of minutes as days and seconds, as it is shown inside lists. -/
def spanLiteral (minutes : Int) : List Char :=
  let days := minutes.fdiv 1440
  let seconds := (minutes - days * 1440) * 60
  let parts := (if days = 0 then [] else ["days=".toList ++ integer days])
    ++ (if seconds = 0 then [] else ["seconds=".toList ++ integer seconds])
  "datetime.timedelta(".toList ++ (if parts.isEmpty then ['0'] else figures [',', ' '] parts) ++ [')']

/-- A date as it is shown inside lists. -/
def Date.literal (d : Date) : List Char :=
  "datetime.date(".toList ++ figures [',', ' '] [numeral d.year, numeral d.month, numeral d.day] ++ [')']

/-- An offset as it is shown inside lists. -/
def offsetLiteral (minutes : Int) : List Char :=
  if minutes = 0 then "datetime.timezone.utc".toList
  else "datetime.timezone(".toList ++ spanLiteral minutes ++ [')']

/-- A moment as it is shown inside lists: seconds and their fraction only where they are needed. -/
def Moment.literal (t : Moment) : List Char :=
  let base := [numeral t.date.year, numeral t.date.month, numeral t.date.day, numeral t.hour, numeral t.minute]
  let tail := if t.micro ≠ 0 then [numeral t.second, numeral t.micro]
    else if t.second ≠ 0 then [numeral t.second] else []
  let zone := match t.offset with
    | none => []
    | some m => ["tzinfo=".toList ++ offsetLiteral m]
  "datetime.datetime(".toList ++ figures [',', ' '] (base ++ tail ++ zone) ++ [')']

/-- The sentence that tells of a fault. -/
def RangeFault.message : RangeFault → String
  | .year n => "year " ++ toString n ++ " is out of range"
  | .month => "month must be in 1..12"
  | .day => "day is out of range for month"
  | .hour => "hour must be in 0..23"
  | .minute => "minute must be in 0..59"
  | .second => "second must be in 0..59"
  | .offset m =>
    "offset must be a timedelta strictly between -timedelta(hours=24) and timedelta(hours=24), not "
      ++ String.ofList (spanLiteral m) ++ "."

end MergeGate.Calendar
