import MergeGate.Text.Blank

/-
  MergeGate/Tool.lean
  ===================
  **The name and the version of the tool.**  Reports and the command line show them.  A tool that is not
  installed as a package does not know its version and shows a placeholder.
-/

namespace MergeGate.Tool

def name : String := "policygate"

def packaged : String := "0.1.0"

/-- What stands for the version without a package. -/
def unpackaged : String := "0.0.0-dev"

def version (isInstalled : Bool) : String := if isInstalled then packaged else unpackaged

end MergeGate.Tool
