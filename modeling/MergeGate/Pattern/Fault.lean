import MergeGate.Pattern.Basic
import MergeGate.Text.Integer
import MergeGate.Text.Lines
import MergeGate.Text.Quoted

/-
  MergeGate/Pattern/Fault.lean
  ============================
  **What can be wrong with a pattern.**  A fault has a cause and mostly a position, which counts the
  characters before it.  In a pattern of several lines the message adds the line and the column.

  Two causes lie outside the grammar of patterns (`Cause.isForeign`): a repeat count that is too
  long to be read as a number, and two contrary modes for the whole pattern.  An evaluation does
  not take them for a fault of the pattern, and stops.
-/

namespace MergeGate

namespace Pattern

open MergeGate.Text

/-- What is wrong with a pattern. -/
inductive Cause where
  | escapeAtEnd
  | badEscape (shown : List Char)
  | incompleteEscape (shown : List Char)
  | octalTooLarge (shown : List Char)
  | missingBrace
  | unknownCharacter (name : List Char)
  | missingName (what : String)
  | unterminatedName (closer : Char)
  | badGroupName (name : List Char)
  | unknownGroupName (name : List Char)
  | groupRedefined (name : List Char) (index earlier : Nat)
  | zeroGroup
  | unknownGroup (index : Nat)
  | openGroup
  | groupOfSameLookbehind
  | unterminatedGroup
  | unbalanced
  | unterminatedRemark
  | unexpectedEnd
  | unknownExtension (shown : List Char)
  | threeBranches
  | unterminatedSet
  | badRange (low high : List Char)
  | nothingToRepeat
  | multipleRepeat
  | contraryBounds
  | unknownFlag
  | missingFlag
  | missingColon
  | missingFlagEnd
  | localeFlag
  | contraryClassFlags
  | classFlagOff
  | wholeFlagOn
  | wholeFlagOff
  | flagOnAndOff
  | lateFlags
  | unevenLookbehind
  | longLookbehind
  | unsupportedRepeat (greed : Greed)
  | countTooLarge
  | tooDeep
  | countTooLong (digits : Nat)
  | contraryModes
  deriving DecidableEq, Repr

/-- How a repetition is named when it is not available. -/
def Greed.label : Greed → String
  | .greedy => "MAX_REPEAT"
  | .lazy => "MIN_REPEAT"
  | .possessive => "POSSESSIVE_REPEAT"

/-- Characters as a text. -/
def shownAs (cs : List Char) : String := String.ofList cs

/-- Characters as a quoted text. -/
def quotedAs (cs : List Char) : String := String.ofList (quote cs)

/-- What messages say of a cause. -/
def Cause.label : Cause → String
  | .escapeAtEnd => "bad escape (end of pattern)"
  | .badEscape shown => "bad escape " ++ shownAs shown
  | .incompleteEscape shown => "incomplete escape " ++ shownAs shown
  | .octalTooLarge shown => "octal escape value " ++ shownAs shown ++ " outside of range 0-0o377"
  | .missingBrace => "missing \x7b"
  | .unknownCharacter name => "undefined character name " ++ quotedAs name
  | .missingName what => "missing " ++ what
  | .unterminatedName closer => "missing " ++ shownAs [closer] ++ ", unterminated name"
  | .badGroupName name => "bad character in group name " ++ quotedAs name
  | .unknownGroupName name => "unknown group name " ++ quotedAs name
  | .groupRedefined name index earlier =>
    "redefinition of group name " ++ quotedAs name ++ " as group " ++ toString index ++ "; was group "
      ++ toString earlier
  | .zeroGroup => "bad group number"
  | .unknownGroup index => "invalid group reference " ++ toString index
  | .openGroup => "cannot refer to an open group"
  | .groupOfSameLookbehind => "cannot refer to group defined in the same lookbehind subpattern"
  | .unterminatedGroup => "missing ), unterminated subpattern"
  | .unbalanced => "unbalanced parenthesis"
  | .unterminatedRemark => "missing ), unterminated comment"
  | .unexpectedEnd => "unexpected end of pattern"
  | .unknownExtension shown => "unknown extension ?" ++ shownAs shown
  | .threeBranches => "conditional backref with more than two branches"
  | .unterminatedSet => "unterminated character set"
  | .badRange low high => "bad character range " ++ shownAs low ++ "-" ++ shownAs high
  | .nothingToRepeat => "nothing to repeat"
  | .multipleRepeat => "multiple repeat"
  | .contraryBounds => "min repeat greater than max repeat"
  | .unknownFlag => "unknown flag"
  | .missingFlag => "missing flag"
  | .missingColon => "missing :"
  | .missingFlagEnd => "missing -, : or )"
  | .localeFlag => "bad inline flags: cannot use 'L' flag with a str pattern"
  | .contraryClassFlags => "bad inline flags: flags 'a', 'u' and 'L' are incompatible"
  | .classFlagOff => "bad inline flags: cannot turn off flags 'a', 'u' and 'L'"
  | .wholeFlagOn => "bad inline flags: cannot turn on global flag"
  | .wholeFlagOff => "bad inline flags: cannot turn off global flag"
  | .flagOnAndOff => "bad inline flags: flag turned on and off"
  | .lateFlags => "global flags not at the start of the expression"
  | .unevenLookbehind => "look-behind requires fixed-width pattern"
  | .longLookbehind => "looks too much behind"
  | .unsupportedRepeat greed => "internal: unsupported template operator " ++ greed.label
  | .countTooLarge => "the repetition number is too large"
  | .tooDeep => "maximum recursion depth exceeded"
  | .countTooLong digits => digitLimitMessage digits
  | .contraryModes => "ASCII and UNICODE flags are incompatible"

/-- Whether a cause is none of the grammar of patterns. -/
def Cause.isForeign : Cause → Bool
  | .countTooLong _ | .contraryModes => true
  | _ => false

/-- A cause and where it was found. -/
structure Fault where
  cause : Cause
  position : Option Nat := none
  deriving DecidableEq, Repr

/-- The sentence that tells of a fault in a pattern. -/
def Fault.message (pattern : List Char) (f : Fault) : String :=
  match f.position with
  | none => f.cause.label
  | some n =>
    let place := placeAt pattern n
    f.cause.label ++ " at position " ++ toString n ++
      if pattern.contains '\n' then
        " (line " ++ toString place.line ++ ", column " ++ toString place.column ++ ")"
      else ""

end Pattern

end MergeGate
