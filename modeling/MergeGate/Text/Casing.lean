import MergeGate.Text.Letter

/-
  MergeGate/Text/Casing.lean
  ==========================
  **Letters that differ in case only.**  Two characters are alike if their lower-case forms are equal,
  or if those forms are different letters with one capital, such as the two small sigmas.
  `variants` lists all code points that are alike with a character, so a test that ignores case
  is a test of some variant.  Under the ASCII rule only the ASCII letters have variants.
-/

namespace MergeGate.Text

/-- The small letters that share a capital. -/
def sharedCapitals : List (List Nat) :=
  [
   [0x69, 0x131], [0x73, 0x17f], [0xb5, 0x3bc], [0x345, 0x3b9, 0x1fbe], [0x390, 0x1fd3],
   [0x3b0, 0x1fe3], [0x3b2, 0x3d0], [0x3b5, 0x3f5], [0x3b8, 0x3d1], [0x3ba, 0x3f0], [0x3c0, 0x3d6],
   [0x3c1, 0x3f1], [0x3c2, 0x3c3], [0x3c6, 0x3d5], [0x432, 0x1c80], [0x434, 0x1c81],
   [0x43e, 0x1c82], [0x441, 0x1c83], [0x442, 0x1c84, 0x1c85], [0x44a, 0x1c86], [0x463, 0x1c87],
   [0x1c88, 0xa64b], [0x1e61, 0x1e9b], [0xfb05, 0xfb06]]

/-- The code points whose lower-case form is `n` and that are not `n` itself. -/
def capitalsOf (n : Nat) : List (Nat × Nat × Nat × Int) → List Nat
  | [] => []
  | (a, b, step, shift) :: rest =>
    let m := ((n : Int) - shift).toNat
    if a ≤ m && m ≤ b && (m - a) % step == 0 then m :: capitalsOf n rest else capitalsOf n rest

/-- The lower-case form of a code point. -/
def lowerPoint (n : Nat) : Nat :=
  if 65 ≤ n && n ≤ 90 then n + 32 else if n < 128 then n else lowerCode n lowerIntervals

/-- The small letters alike with the small letter `n`. -/
def smallVariants (n : Nat) : List Nat := (sharedCapitals.find? fun c => c.contains n).getD [n]

/-- The capitals of a small letter. -/
def capitals (n : Nat) : List Nat :=
  if 97 ≤ n && n ≤ 122 then (n - 32) :: capitalsOf n lowerIntervals else capitalsOf n lowerIntervals

/-- The code points that are alike with a code point. -/
def variants (n : Nat) : List Nat :=
  (smallVariants (lowerPoint n)).flatMap fun s => s :: capitals s

/-- The code points that are alike with a code point under the ASCII rule. -/
def variantsAscii (n : Nat) : List Nat :=
  if 65 ≤ n && n ≤ 90 then [n, n + 32] else if 97 ≤ n && n ≤ 122 then [n, n - 32] else [n]

end MergeGate.Text
