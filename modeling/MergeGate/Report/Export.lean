import MergeGate.Report.Basic
import MergeGate.Manifest.Basic
import MergeGate.Path
import MergeGate.Json.Reader

/-
  MergeGate/Report/Export.lean
  ============================
  **Values as JSON.**  Data about a run is made of more than JSON: severities, paths, records,
  verdicts, violations, octets, tuples, sets, and mappings with keys of any kind.  `Exported.toJson`
  turns such a value into JSON so that the result does not depend on the order in which mappings and
  sets list what they hold: members are in the order of their names, which are the texts of the
  keys, and the items of a set in the order of their texts.

  A violation is a `finding`, whose context is a mapping like any other: it may hold sets and other
  values beyond JSON.
-/

namespace MergeGate

open MergeGate.Text MergeGate.Decimal

/-- A value that can be shown as JSON. -/
inductive Exported where
  | null
  | bool (b : Bool)
  | int (n : Int)
  | number (x : Binary)
  | text (s : String)
  | octets (bs : List UInt8)
  | severity (s : Severity)
  | path (p : Path)
  | record (r : Record)
  | verdict (status : String) (failing : Bool) (threshold : Severity)
  | finding (rule : String) (severity : Severity) (message : String) (remediation : Option String)
      (context : List (Exported × Exported))
  | list (items : List Exported)
  | tuple (items : List Exported)
  | set (items : List Exported)
  | mapping (entries : List (Exported × Exported))
  deriving Inhabited

namespace Exported

/-! ### Keys -/

def truthText (b : Bool) : List Char := if b then "True".toList else "False".toList

/-- A severity as part of another text. -/
def severityLiteral (s : Severity) : List Char :=
  ("<Severity." ++ s.loudLabel ++ ": " ++ quoted s.label ++ ">").toList

mutual

/-- The text of a value as part of another. -/
def literal : Exported → List Char
  | .null => "None".toList
  | .bool b => truthText b
  | .int n => integer n
  | .number x => x.text
  | .text s => quote s.toList
  | .octets bs => quoteBytes bs
  | .severity s => severityLiteral s
  | .path p => ("PosixPath(" ++ quoted p.text ++ ")").toList
  | .record r => ("DependencyRecord(name=" ++ quoted r.name ++ ", version=" ++ quoted r.version ++ ")").toList
  | .verdict status failing threshold =>
    ("Verdict(status=" ++ quoted status ++ ", failing=").toList ++ truthText failing
      ++ ", threshold=".toList ++ severityLiteral threshold ++ [')']
  | .finding rule level message remediation context =>
    ("Violation(rule_id=" ++ quoted rule ++ ", severity=").toList ++ severityLiteral level
      ++ (", message=" ++ quoted message ++ ", remediation=" ++ (remediation.map quoted).getD "None"
        ++ ", context=").toList ++ '\x7b' :: literalEntries true context ++ ['\x7d', ')']
  | .list xs => '[' :: literalItems true xs ++ [']']
  | .tuple [x] => '(' :: literal x ++ [',', ')']
  | .tuple xs => '(' :: literalItems true xs ++ [')']
  | .set [] => "set()".toList
  | .set xs => '\x7b' :: literalItems true xs ++ ['\x7d']
  | .mapping es => '\x7b' :: literalEntries true es ++ ['\x7d']

/-- Items with a comma between them. -/
def literalItems (first : Bool) : List Exported → List Char
  | [] => []
  | x :: xs => (if first then [] else [',', ' ']) ++ literal x ++ literalItems false xs

/-- Entries with a comma between them and a colon after each key. -/
def literalEntries (first : Bool) : List (Exported × Exported) → List Char
  | [] => []
  | (k, v) :: es =>
    (if first then [] else [',', ' ']) ++ literal k ++ ':' :: ' ' :: literal v ++ literalEntries false es

end

def keyText : Exported → String
  | .text s => s
  | .severity s => s.label
  | .path p => p.text
  | .record r => r.text
  | v => String.ofList v.literal

/-! ### Sets and mappings as they are built -/

/-- The number a value stands for when it is compared with numbers. -/
def asInteger? : Exported → Option Int
  | .bool b => some (if b then 1 else 0)
  | .int n => some n
  | .number x =>
    match x.parts with
    | .finite negative m q =>
      let r := ratioOf m q
      if r.1 % r.2 = 0 then some (if negative then -(r.1 / r.2 : Nat) else (r.1 / r.2 : Nat)) else none
    | _ => none
  | _ => none

/-- The text a value stands for when it is compared with texts. -/
def asText? : Exported → Option String
  | .text s => some s
  | .severity s => some s.label
  | _ => none

mutual

/-- Whether two values are the same key: numbers and truth values compare by value, severities like
their words. -/
def sameKey : Exported → Exported → Bool
  | .null, .null => true
  | .octets a, .octets b => a == b
  | .path a, .path b => a == b
  | .record a, .record b => a == b
  | .verdict a b c, .verdict d e f => a == d && b == e && c == f
  | .tuple xs, .tuple ys => sameKeys xs ys
  | a, b =>
    match a.asInteger?, b.asInteger? with
    | some m, some n => m == n
    | some _, none => false
    | none, some _ => false
    | none, none =>
      match a.asText?, b.asText? with
      | some s, some t => s == t
      | _, _ =>
        match a, b with
        | .number x, .number y => x == y
        | _, _ => false

/-- Whether two rows hold the same keys. -/
def sameKeys : List Exported → List Exported → Bool
  | [], [] => true
  | x :: xs, y :: ys => sameKey x y && sameKeys xs ys
  | _, _ => false

end

/-- Gives a key a value; a key that is there stays as it is and keeps its place. -/
def putEntry (key value : Exported) : List (Exported × Exported) → List (Exported × Exported)
  | [] => [(key, value)]
  | (k, v) :: es => if sameKey k key then (k, value) :: es else (k, v) :: putEntry key value es

/-- The mapping of entries, of which the last with a key counts. -/
def ofEntries (es : List (Exported × Exported)) : Exported :=
  .mapping (es.foldl (fun out e => putEntry e.1 e.2 out) [])

def ofItems (xs : List Exported) : Exported :=
  .set (xs.foldl (fun out x => if out.any fun y => sameKey y x then out else out ++ [x]) [])

/-- The kind of a value that cannot be a key or an item of a set. -/
def unhashable? : Exported → Option String
  | .list _ => some "list"
  | .set _ => some "set"
  | .mapping _ => some "dict"
  | .finding .. => some "dict"
  | .tuple xs => unhashableItem? xs
  | _ => none
where
  /-- The first such kind among items. -/
  unhashableItem? : List Exported → Option String
    | [] => none
    | x :: xs => (unhashable? x).or (unhashableItem? xs)

/-! ### Conversion -/

/-- Members in the order of their names, each name once: the last value at the place of the first. -/
def nameOrder (ms : List (String × Json)) : Json.Members :=
  Json.Members.ofList (ms.mergeSort fun a b => Json.textLe a.1 b.1)

def textOrder (xs : List Json) : List Json := xs.mergeSort fun a b => Json.textLe a.plainText b.plainText

mutual

def toJson : Exported → Json
  | .null => .null
  | .bool b => .bool b
  | .int n => .int n
  | .number x => .number x
  | .text s => .text s
  | .octets bs => .text (String.ofList (quoteBytes bs))
  | .severity s => .text s.label
  | .path p => .text p.text
  | .record r => r.toJson
  | .verdict status failing threshold =>
    .object [("failing", .bool failing), ("status", .text status), ("threshold", .text threshold.label)]
  | .finding rule level message remediation context =>
    .object [("context", .object (nameOrder (toMembers context))), ("message", .text message),
      ("remediation", Violation.optionalText remediation), ("rule_id", .text rule),
      ("severity", .text level.label)]
  | .list xs => .list (toItems xs)
  | .tuple xs => .list (toItems xs)
  | .set xs => .list (textOrder (toItems xs))
  | .mapping es => .object (nameOrder (toMembers es))

def toItems : List Exported → List Json
  | [] => []
  | x :: xs => toJson x :: toItems xs

/-- Entries as members, the texts of the keys being the names. -/
def toMembers : List (Exported × Exported) → List (String × Json)
  | [] => []
  | (k, v) :: es => (k.keyText, toJson v) :: toMembers es

end

/-- The JSON text of a value. -/
def toDocument (indent : Option Int) (v : Exported) : String := String.ofList (Json.write indent v.toJson)

mutual

/-- A JSON value as a value to be shown. -/
def ofJson : Json → Exported
  | .null => .null
  | .bool b => .bool b
  | .int n => .int n
  | .number x => .number x
  | .text s => .text s
  | .list xs => .list (ofJsonItems xs)
  | .object ms => .mapping (ofJsonMembers ms)

/-- JSON items as values to be shown. -/
def ofJsonItems : List Json → List Exported
  | [] => []
  | x :: xs => ofJson x :: ofJsonItems xs

/-- JSON members as entries with texts as keys. -/
def ofJsonMembers : List (String × Json) → List (Exported × Exported)
  | [] => []
  | (k, v) :: ms => (.text k, ofJson v) :: ofJsonMembers ms

end

/-- A violation as a value to be shown: a finding with the context as its entries. -/
def violation (v : Violation) : Exported :=
  .finding v.rule v.severity v.message v.remediation (ofJsonMembers v.context)

theorem toItems_eq_map (xs : List Exported) : toItems xs = xs.map toJson := by
  induction xs with
  | nil => rfl
  | cons x xs ih => simp [toItems, ih]

end Exported

end MergeGate
