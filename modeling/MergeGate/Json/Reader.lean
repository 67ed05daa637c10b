import MergeGate.Json.Value
import MergeGate.Text.Integer
import MergeGate.Text.Lines
import MergeGate.Text.Quoted

/-
  MergeGate/Json/Reader.lean
  ==========================
  **Reading JSON.**  `Json.read` gives the value of a text or the first fault in it.  Beyond the
  standard grammar the words `NaN`, `Infinity` and `-Infinity` are numbers.  Of members with one
  name the last counts, at the place of the first.

  A fault inside the text carries how many characters are left where it was noticed; from that
  and the whole text follows its place.  Two faults are limits instead: an integer of more
  digits than `digitLimit`, and lists and objects nested deeper than `maxDepth`.
-/

namespace MergeGate.Json

open MergeGate.Text MergeGate.Decimal

/-- What is wrong with the text at some place. -/
inductive Defect where
  | expectedValue
  | expectedName
  | expectedColon
  | expectedComma
  | extraData
  | unterminatedText
  | controlCharacter
  | badEscape
  | badCodeEscape
  | byteOrderMark
  deriving DecidableEq, Repr

/-- What messages say of a defect. -/
def Defect.label : Defect → String
  | .expectedValue => "Expecting value"
  | .expectedName => "Expecting property name enclosed in double quotes"
  | .expectedColon => "Expecting ':' delimiter"
  | .expectedComma => "Expecting ',' delimiter"
  | .extraData => "Extra data"
  | .unterminatedText => "Unterminated string starting at"
  | .controlCharacter => "Invalid control character at"
  | .badEscape => "Invalid \\escape"
  | .badCodeEscape => "Invalid \\uXXXX escape"
  | .byteOrderMark => "Unexpected UTF-8 BOM (decode using utf-8-sig)"

/-- Why a text has no value. -/
inductive ReadError where
  | malformed (defect : Defect) (place : Place)
  | tooManyDigits (count : Nat)
  | tooDeep (inObject : Bool)
  deriving DecidableEq, Repr

/-- How deep lists and objects may be nested: the calls that may be open, one for each level. -/
def maxDepth : Nat := 990

/-- The sentence that tells of an error. -/
def ReadError.message : ReadError → String
  | .malformed d p =>
    d.label ++ ": line " ++ toString p.line ++ " column " ++ toString p.column
      ++ " (char " ++ toString p.offset ++ ")"
  | .tooManyDigits n => digitLimitMessage n
  | .tooDeep inObject =>
    "maximum recursion depth exceeded while decoding a JSON " ++ (if inObject then "object" else "array")
      ++ " from a unicode string"

/-- A fault met while reading: `left` characters remain at its place. -/
inductive Fault where
  | malformed (defect : Defect) (left : Nat)
  | tooManyDigits (count : Nat)
  | tooDeep (inObject : Bool)
  deriving DecidableEq, Repr

/-- The fault in terms of the whole text. -/
def Fault.toError (whole : List Char) : Fault → ReadError
  | .malformed d left => .malformed d (placeAt whole (whole.length - left))
  | .tooManyDigits n => .tooManyDigits n
  | .tooDeep inObject => .tooDeep inObject

/-- The characters that may stand between the parts of a value. -/
def isGap (c : Char) : Bool := c = ' ' || c = '\t' || c = '\n' || c = '\r'

/-- The text after its gap. -/
def skipGap (cs : List Char) : List Char := cs.dropWhile isGap

/-! ### Texts -/

/-- The character a one-letter escape stands for. -/
def escaped? : Char → Option Char
  | '\x22' => some '\x22'
  | '\\' => some '\\'
  | '/' => some '/'
  | 'b' => some '\x08'
  | 'f' => some '\x0c'
  | 'n' => some '\n'
  | 'r' => some '\r'
  | 't' => some '\t'
  | _ => none

/-- Four hexadecimal digits and what follows them. -/
def readCode? : List Char → Option (Nat × List Char)
  | a :: b :: c :: d :: rest =>
    match hexValue? a, hexValue? b, hexValue? c, hexValue? d with
    | some a, some b, some c, some d => some (((a * 16 + b) * 16 + c) * 16 + d, rest)
    | _, _, _, _ => none
  | _ => none

/-- Whether a code is the first half of a pair. -/
def isHighHalf (n : Nat) : Bool := 0xd800 ≤ n && n ≤ 0xdbff

/-- Whether a code is the second half of a pair. -/
def isLowHalf (n : Nat) : Bool := 0xdc00 ≤ n && n ≤ 0xdfff

/-- The character of a code.  A half that stands alone is no character, so texts cannot tell which one it
was: U+FFFD stands for all of them. -/
def charOfCode (n : Nat) : Char :=
  if isHighHalf n || isLowHalf n then Char.ofNat 0xfffd else Char.ofNat n

/-- The character of the two halves of a pair. -/
def joinHalves (high low : Nat) : Char :=
  Char.ofNat (0x10000 + (high - 0xd800) * 1024 + (low - 0xdc00))

/-- A fault met inside a text; one that is not ended is told of where it began. -/
inductive TextFault where
  | unended
  | malformed (defect : Defect) (left : Nat)
  deriving DecidableEq, Repr

/-- The fault in a value that begins with the text; `start` are its opening mark and what follows. -/
def TextFault.toFault (start : List Char) : TextFault → Fault
  | .unended => .malformed .unterminatedText start.length
  | .malformed d left => .malformed d left

/-- Reads the rest of a text after its opening mark; `done` is what was read, in reverse. -/
def readText : Nat → List Char → List Char → Except TextFault (String × List Char)
  | 0, _, _ => .error .unended
  | _ + 1, _, [] => .error .unended
  | fuel + 1, done, c :: cs =>
    if c = '\x22' then .ok (String.ofList done.reverse, cs)
    else if c = '\\' then
      match cs with
      | [] => .error .unended
      | 'u' :: rest =>
        match readCode? rest with
        | none => .error (.malformed .badCodeEscape cs.length)
        | some (n, rest') =>
          -- the mark that ends the text has to be there as well
          if rest'.isEmpty then .error (.malformed .badCodeEscape cs.length)
          else if isHighHalf n then
            match rest' with
            | '\\' :: 'u' :: more =>
              if (more.drop 4).isEmpty then readText fuel (charOfCode n :: done) rest'
              else
                match readCode? more with
                | none => .error (.malformed .badCodeEscape (more.length + 1))
                | some (low, rest₂) =>
                  if isLowHalf low then readText fuel (joinHalves n low :: done) rest₂
                  else readText fuel (charOfCode n :: done) rest'
            | _ => readText fuel (charOfCode n :: done) rest'
          else readText fuel (charOfCode n :: done) rest'
      | e :: rest =>
        match escaped? e with
        | some x => readText fuel (x :: done) rest
        | none => .error (.malformed .badEscape (c :: cs).length)
    else if c.toNat ≤ 0x1f then .error (.malformed .controlCharacter (c :: cs).length)
    else readText fuel (c :: done) cs

/-! ### Numbers -/

/-- The digits at the front and what follows them. -/
def spanDigits (cs : List Char) : List Char × List Char := cs.span isAsciiDigit

/-- The part of a number after its point: digits, of which there is at least one. -/
def readFraction (cs : List Char) : List Char × List Char :=
  match cs with
  | '.' :: rest =>
    match spanDigits rest with
    | ([], _) => ([], cs)
    | p => p
  | _ => ([], cs)

/-- The exponent of a number, if it has one. -/
def readExponent (cs : List Char) : Option Int × List Char :=
  match cs with
  | e :: rest =>
    if e = 'e' || e = 'E' then
      let (negative, rest) : Bool × List Char := match rest with
        | '-' :: r => (true, r)
        | '+' :: r => (false, r)
        | r => (false, r)
      match spanDigits rest with
      | ([], _) => (none, cs)
      | (ds, rest) =>
        let n : Int := numeralValue ds
        (some (if negative then -n else n), rest)
    else (none, cs)
  | [] => (none, cs)

/-- A number: its whole digits are `0` or begin with another digit. -/
def readNumber (negative : Bool) (cs : List Char) : Option (Except Fault (Json × List Char)) :=
  let whole : Option (List Char × List Char) := match cs with
    | [] => none
    | c :: rest => if c = '0' then some ([c], rest) else if isAsciiDigit c then some (spanDigits cs) else none
  whole.map fun (ds, rest) =>
    let (fs, rest₁) := readFraction rest
    let (e, rest₂) := readExponent rest₁
    if fs.isEmpty && e.isNone then
      if digitLimit < ds.length then .error (.tooManyDigits ds.length)
      else
        let n : Int := numeralValue ds
        .ok (.int (if negative then -n else n), rest)
    else
      .ok (.number (.ofDigits negative (ds ++ fs) (e.getD 0 - fs.length)), rest₂)

/-! ### Values -/

/-- A value that is neither text, list nor object. -/
def readScalar (cs : List Char) : Except Fault (Json × List Char) :=
  let number : Except Fault (Json × List Char) :=
    match cs with
    | '-' :: rest => (readNumber true rest).getD (.error (.malformed .expectedValue cs.length))
    | _ => (readNumber false cs).getD (.error (.malformed .expectedValue cs.length))
  match dropLead ['n', 'u', 'l', 'l'] cs with
  | some rest => .ok (.null, rest)
  | none =>
  match dropLead ['t', 'r', 'u', 'e'] cs with
  | some rest => .ok (.bool true, rest)
  | none =>
  match dropLead ['f', 'a', 'l', 's', 'e'] cs with
  | some rest => .ok (.bool false, rest)
  | none =>
  match dropLead ['N', 'a', 'N'] cs with
  | some rest => .ok (.number .notANumber, rest)
  | none =>
  match dropLead ['I', 'n', 'f', 'i', 'n', 'i', 't', 'y'] cs with
  | some rest => .ok (.number .infinity, rest)
  | none =>
  match dropLead ['-', 'I', 'n', 'f', 'i', 'n', 'i', 't', 'y'] cs with
  | some rest => .ok (.number Binary.infinity.negated, rest)
  | none => number

mutual

/-- Reads a value.  `fuel` bounds the work, `depth` is how many more levels may be opened. -/
def readValue : Nat → Nat → List Char → Except Fault (Json × List Char)
  | 0, _, cs => .error (.malformed .expectedValue cs.length)
  | _ + 1, _, [] => .error (.malformed .expectedValue 0)
  | fuel + 1, depth, c :: cs =>
    if c = '\x22' then
      match readText fuel [] cs with
      | .ok (s, rest) => .ok (.text s, rest)
      | .error e => .error (e.toFault (c :: cs))
    else if c = '\x7b' then
      match depth with
      | 0 => .error (.tooDeep true)
      | depth + 1 =>
        match skipGap cs with
        | '\x7d' :: rest => .ok (.object [], rest)
        | rest => readMembers fuel depth [] rest
    else if c = '[' then
      match depth with
      | 0 => .error (.tooDeep false)
      | depth + 1 =>
        match skipGap cs with
        | ']' :: rest => .ok (.list [], rest)
        | rest => readItems fuel depth [] rest
    else readScalar (c :: cs)

/-- Reads the items of a list and its end; `done` holds the items read, in reverse. -/
def readItems : Nat → Nat → List Json → List Char → Except Fault (Json × List Char)
  | 0, _, _, cs => .error (.malformed .expectedValue cs.length)
  | fuel + 1, depth, done, cs =>
    match readValue fuel depth cs with
    | .error e => .error e
    | .ok (v, rest) =>
      match skipGap rest with
      | ']' :: rest' => .ok (.list (v :: done).reverse, rest')
      | ',' :: rest' => readItems fuel depth (v :: done) (skipGap rest')
      | rest' => .error (.malformed .expectedComma rest'.length)

/-- Reads the members of an object and its end; `done` holds the members read, in reverse. -/
def readMembers : Nat → Nat → Members → List Char → Except Fault (Json × List Char)
  | 0, _, _, cs => .error (.malformed .expectedName cs.length)
  | fuel + 1, depth, done, cs =>
    match cs with
    | '\x22' :: cs' =>
      match readText fuel [] cs' with
      | .error e => .error (e.toFault cs)
      | .ok (name, rest) =>
        match skipGap rest with
        | ':' :: rest' =>
          match readValue fuel depth (skipGap rest') with
          | .error e => .error e
          | .ok (v, rest'') =>
            match skipGap rest'' with
            | '\x7d' :: after => .ok (.object (Members.ofList ((name, v) :: done).reverse), after)
            | ',' :: after => readMembers fuel depth ((name, v) :: done) (skipGap after)
            | after => .error (.malformed .expectedComma after.length)
        | rest' => .error (.malformed .expectedColon rest'.length)
    | _ => .error (.malformed .expectedName cs.length)

end

/-- Reads a whole text: a value with nothing but gaps around it. -/
def readWhole (cs : List Char) : Except Fault Json :=
  match cs with
  | '\ufeff' :: _ => .error (.malformed .byteOrderMark cs.length)
  | _ =>
    match readValue (2 * cs.length + 1) maxDepth (skipGap cs) with
    | .error e => .error e
    | .ok (v, rest) =>
      match skipGap rest with
      | [] => .ok v
      | rest' => .error (.malformed .extraData rest'.length)

/-- The value of a text. -/
def read (cs : List Char) : Except ReadError Json :=
  match readWhole cs with
  | .ok v => .ok v
  | .error f => .error (f.toError cs)

/-- `read` on stored texts. -/
def readString (s : String) : Except ReadError Json := read s.toList

end MergeGate.Json
