import MergeGate.FileTree
import MergeGate.Policy.Basic

/-
  MergeGate/Checkout.lean
  =======================
  **Paths of a checkout.**  A run works on a checkout, the folder of a repository.  Its root is a path
  from the root of the file tree without double points.  Policy files and lock manifests are named
  relative to it, unless the name is an absolute path; required files always are, even with slashes
  at the front.  Reports show a path as seen from the root if it lies below it.
-/

namespace MergeGate

/-- Why a path is no root of a checkout. -/
inductive RootFault where
  | absent (path : Path)
  | nullCharacter
  | path (f : PathFault)
  deriving Repr

/-- The sentence that tells of a fault. -/
def RootFault.message : RootFault → String
  | .absent p => "Path does not exist: " ++ p.text
  | .nullCharacter => "lstat: embedded null character in path"
  | .path f => f.message

namespace Checkout

/-- The root of the checkout that a path names. -/
def root (s : Surroundings) (path : String) : Except RootFault Path :=
  if path.toList.contains '\x00' then .error .nullCharacter
  else
    let p := Path.resolve s.here (Path.ofString path)
    match s.holds p with
    | .ok true => .ok p
    | .ok false => .error (.absent p)
    | .error f => .error (.path f)

/-- The policy file: the one that is named, or the usual one. -/
def policyFile (root : Path) (name : Option String) : Path :=
  root.join (Path.ofString (Text.filledOr name defaultPolicyFile))

/-- How a report shows a path. -/
def shown (root path : Path) : String := ((path.relativeTo? root).getD path).text

def required (root : Path) (name : String) : Path :=
  root.join (Path.ofChars (name.toList.dropWhile (· == '/')))

end Checkout

end MergeGate
