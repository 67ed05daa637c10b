import MergeGate.Manifest.Extraction
import MergeGate.Json.Reader
import MergeGate.Text.Utf8

/-
  MergeGate/Manifest/Reader.lean
  ==============================
  **Reading lock manifests.**  The content of a lock manifest is text, or octets of UTF-8, or
  absent.  Content that is not text, not JSON or not an object gives an invalid manifest with the
  reason.  Otherwise the first of the two tables that is an object with members gives the records,
  each one once; without such a table there are none.
-/

namespace MergeGate

open MergeGate.Text

/-- What a file holds. -/
inductive Content where
  | text (s : String)
  | octets (bs : List UInt8)
  deriving DecidableEq, Repr

namespace Manifest

/-- The table of a name, if it is an object with members. -/
def table? (root : Json.Members) (schema : Schema) : Option Json.Members :=
  match Json.Members.get? root schema.label with
  | some (.object (m :: ms)) => some (m :: ms)
  | _ => none

def recordsOf : Schema → Json.Members → List Record
  | .packages, table => flatRecords table
  | .dependencies, table => treeRecords table

def ofRoot (root : Json.Members) (source : Option String) : Manifest :=
  match table? root .packages with
  | some table => .available (some .packages) (Record.distinct (recordsOf .packages table)) source
  | none =>
    match table? root .dependencies with
    | some table => .available (some .dependencies) (Record.distinct (recordsOf .dependencies table)) source
    | none => .available none [] source

def ofText (cs : List Char) (source : Option String) : Manifest :=
  match Json.read cs with
  | .error e => .invalid (some ("not valid JSON: " ++ e.message)) source
  | .ok (.object root) => ofRoot root source
  | .ok _ => .invalid (some "manifest root must be an object") source

/-- The manifest of what a file holds; `none` if there is no file. -/
def read (content : Option Content) (source : Option String) : Manifest :=
  match content with
  | none => .missing source
  | some (.text s) => ofText s.toList source
  | some (.octets bs) =>
    match Encoding.utf8.decode bs with
    | .ok cs => ofText cs source
    | .error e => .invalid (some ("not utf-8 text: " ++ e.message)) source

def notes : Manifest → List Note
  | .available (some schema) records source => [.manifestRead records.length schema.label source]
  | _ => []

end Manifest

end MergeGate
