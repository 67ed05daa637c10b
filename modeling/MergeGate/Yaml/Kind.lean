import MergeGate.Yaml.Stamp

/-
  MergeGate/Yaml/Kind.lean
  ========================
  **What kind of value a node is.**  A tag names the kind.  A plain scalar without a tag is of the kind
  whose form it has: an empty one is null, `yes` and `off` are truth values, numbers may be
  written in several bases and with underscores, and what has no other form is a text.
-/

namespace MergeGate.Yaml

open MergeGate.Text

inductive Kind where
  | null
  | truth
  | integer
  | fraction
  | octets
  | stamp
  | text
  | list
  | mapping
  | set
  | ordered
  | pairs
  /-- The key of entries that are merged into a mapping. -/
  | merge
  /-- The key of the value that a mapping stands for. -/
  | value
  | unknown
  deriving DecidableEq, Repr, Inhabited

/-- What the names of all known kinds begin with. -/
def kindSpace : List Char := "tag:yaml.org,2002:".toList

/-- The kind of a name without its beginning. -/
def Kind.ofWord (s : String) : Kind :=
  match s with
  | "null" => .null
  | "bool" => .truth
  | "int" => .integer
  | "float" => .fraction
  | "binary" => .octets
  | "timestamp" => .stamp
  | "str" => .text
  | "seq" => .list
  | "map" => .mapping
  | "set" => .set
  | "omap" => .ordered
  | "pairs" => .pairs
  | "merge" => .merge
  | "value" => .value
  | _ => .unknown

def Kind.ofName (name : List Char) : Kind :=
  match dropLead kindSpace name with
  | some word => .ofWord (String.ofList word)
  | none => .unknown

/-! ### Forms of plain scalars -/

/-- A text without the sign at its front. -/
def dropSign : List Char → List Char
  | '+' :: cs => cs
  | '-' :: cs => cs
  | cs => cs

/-- Whether `c` is a digit or an underscore. -/
def isDigitOrLow (c : Char) : Bool := isAsciiDigit c || c == '_'

/-- Whether a text is a digit followed by digits and underscores. -/
def isDigitRow : List Char → Bool
  | [] => false
  | c :: cs => isAsciiDigit c && cs.all isDigitOrLow

/-- Whether a text is a number below sixty of one or two digits. -/
def isSixtieth : List Char → Bool
  | [c] => isAsciiDigit c
  | [a, b] => 48 ≤ a.toNat && a.toNat ≤ 53 && isAsciiDigit b
  | _ => false

/-- Whether a text is the exponent of a number. -/
def isExponent : List Char → Bool
  | e :: s :: cs => (e == 'e' || e == 'E') && (s == '+' || s == '-') && !cs.isEmpty && cs.all isAsciiDigit
  | _ => false

/-- Whether what follows the point of a number is digits, underscores and perhaps an exponent. -/
def isFractionTail (cs : List Char) : Bool :=
  let rest := cs.dropWhile isDigitOrLow
  rest.isEmpty || isExponent rest

def isIntegerForm (cs : List Char) : Bool :=
  let cs := dropSign cs
  match cs with
  | ['0'] => true
  | '0' :: 'b' :: ds => !ds.isEmpty && ds.all fun c => c == '0' || c == '1' || c == '_'
  | '0' :: 'x' :: ds => !ds.isEmpty && ds.all fun c => (hexValue? c).isSome || c == '_'
  | '0' :: ds => !ds.isEmpty && ds.all fun c => 48 ≤ c.toNat && c.toNat ≤ 55 || c == '_'
  | _ =>
    match splitAt (· == ':') cs with
    | first :: more => isDigitRow first && first.head? != some '0' && more.all isSixtieth
    | [] => false

/-- Whether a text has the form of a number in base sixty with a fraction. -/
def isSixtyForm (cs : List Char) : Bool :=
  match splitAt (· == ':') cs with
  | first :: second :: more =>
    let parts := second :: more
    let last := parts.getLastD []
    isDigitRow first && parts.dropLast.all isSixtieth
      && isSixtieth (last.takeWhile (· != '.'))
      && match last.dropWhile (· != '.') with
        | '.' :: tail => tail.all isDigitOrLow
        | _ => false
  | _ => false

/-- Whether a text has the form of a number with a fraction. -/
def isFractionForm (cs : List Char) : Bool :=
  let signed := dropSign cs
  let lead := signed.takeWhile isDigitOrLow
  let plain :=
    match signed.dropWhile isDigitOrLow with
    | '.' :: tail => isDigitRow lead && isFractionTail tail
    | _ => false
  let short :=
    match cs with
    | '.' :: c :: tail => isAsciiDigit c && isFractionTail tail
    | _ => false
  plain || short || isSixtyForm signed
    || [".inf", ".Inf", ".INF"].any (·.toList == signed) || [".nan", ".NaN", ".NAN"].any (·.toList == cs)

def truthWords : List String :=
  ["yes", "Yes", "YES", "no", "No", "NO", "true", "True", "TRUE", "false", "False", "FALSE", "on", "On", "ON",
    "off", "Off", "OFF"]

def nullWords : List String := ["", "~", "null", "Null", "NULL"]

/-- The kind of a plain scalar without a tag. -/
def Kind.ofPlain (cs : List Char) : Kind :=
  let cs := if cs.length ≤ 1 then cs else dropFinalBreak cs
  if truthWords.any (·.toList == cs) then .truth
  else if isFractionForm cs then .fraction
  else if isIntegerForm cs then .integer
  else if cs == ['<', '<'] then .merge
  else if nullWords.any (·.toList == cs) then .null
  else if (Stamp.ofText? cs).any Stamp.isPlain then .stamp
  else if cs == ['='] then .value
  else .text

end MergeGate.Yaml
