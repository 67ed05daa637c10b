import MergeGate.Json.Reader
import MergeGate.Text.Utf8
import MergeGate.Yaml.Fault
import MergeGate.Datum

/-
  MergeGate/Policy/Fault.lean
  ===========================
  **Why a policy file holds no policy.**  A `Policy.Fault` is told to the author of the file: the file is
  not text, not JSON or YAML, or some part of it is not what a policy has there.  Each kind of
  fault has a code.  A `Policy.Failure` is a fault or one of the few causes that lie in a value
  rather than in the file and go by their own name.
-/

namespace MergeGate

namespace Policy

inductive Section where
  | pullRequest
  | files
  | dependencies
  deriving DecidableEq, Repr

def Section.name : Section → String
  | .pullRequest => "pull_request"
  | .files => "files"
  | .dependencies => "dependencies"

/-- Why a file holds no policy; a path is the file's. -/
inductive Fault where
  | rootNotMapping
  | sectionNotMapping (s : Section)
  | severityNotMapping
  | notText (name : String)
  | notTextList (name : String)
  | notDecodable (path : String) (fault : Text.DecodeFault)
  | notJson (path : String) (error : Json.ReadError)
  | notYaml (path : String)

namespace Fault

def code : Fault → String
  | .rootNotMapping => "invalid_config"
  | .sectionNotMapping s => "invalid_" ++ s.name
  | .severityNotMapping => "invalid_severity"
  | .notText _ => "invalid_value"
  | .notTextList _ => "invalid_value"
  | .notDecodable _ _ => "config_encoding_error"
  | .notJson _ _ => "config_parse_error"
  | .notYaml _ => "config_parse_error"

def sentence : Fault → String
  | .rootNotMapping => "Policy file root must be a mapping/object."
  | .sectionNotMapping s => "'" ++ s.name ++ "' must be a mapping/object."
  | .severityNotMapping => "'severity' must be a mapping of rule id to level."
  | .notText name => "'" ++ name ++ "' must be a string."
  | .notTextList name => "'" ++ name ++ "' must be a list of strings."
  | .notDecodable path fault =>
    "Failed to decode policy file (expected " ++ fault.encoding.label ++ "): " ++ path
  | .notJson path _ => "Policy file is not valid JSON: " ++ path
  | .notYaml path => "Policy file is not valid YAML: " ++ path

/-- The line that tells of a fault. -/
def message (f : Fault) : String := f.code ++ ": " ++ f.sentence

/-- The file of a fault, and the cause if it can be told. -/
def details : Fault → Option (String × Option String)
  | .notDecodable path fault => some (path, some fault.message)
  | .notJson path error => some (path, some error.message)
  | .notYaml path => some (path, none)
  | _ => none

end Fault

/-- What keeps a policy from being read. -/
inductive Failure where
  | fault (f : Fault)
  /-- Lists or objects of a JSON file are nested too deep. -/
  | json (error : Json.ReadError)
  /-- A scalar of a YAML file has no value, or its collections are nested too deep. -/
  | yaml (cause : Yaml.Fault)
  /-- A value that stands for a text has none. -/
  | unwritten (cause : Datum.TextFault)

/-- The line that tells of a failure. -/
def Failure.message : Failure → String
  | .fault f => f.message
  | .json error => error.message
  | .yaml cause => cause.message
  | .unwritten cause => cause.message

end Policy

end MergeGate
