import MergeGate.Text.Digit

/-
  MergeGate/Text/Base64.lean
  ==========================
  **Octets written with 64 signs.**  Four signs of six bits each make three octets.  Characters that
  are no sign are passed over.  The pad sign ends the text where it completes a group of four;
  elsewhere it is passed over too.  A text that ends within a group stands for nothing.
-/

namespace MergeGate.Text

/-- The value of a sign. -/
def sextet? (c : Char) : Option Nat :=
  let n := c.toNat
  if 65 ≤ n && n ≤ 90 then some (n - 65)
  else if 97 ≤ n && n ≤ 122 then some (n - 71)
  else if 48 ≤ n && n ≤ 57 then some (n + 4)
  else if c = '+' then some 62
  else if c = '/' then some 63
  else none

/-- The values of the signs of a text; `place` is the place in the group of four, `pads` counts the pad
signs after the last sign. -/
def sextets? : Nat → Nat → List Char → Option (List Nat)
  | place, _, [] => if place = 0 then some [] else none
  | place, pads, c :: cs =>
    if c = '=' then
      if place < 2 then sextets? place pads cs
      else if 4 ≤ place + pads + 1 then some []
      else sextets? place (pads + 1) cs
    else
      match sextet? c with
      | some n => (sextets? ((place + 1) % 4) 0 cs).map (n :: ·)
      | none => sextets? place pads cs

/-- The octets of groups of six bits; a last group that is incomplete gives the octets it fills. -/
def octetsOfSextets : List Nat → List UInt8
  | a :: b :: c :: d :: rest =>
    (a * 4 + b / 16).toUInt8 :: (b % 16 * 16 + c / 4).toUInt8 :: (c % 4 * 64 + d).toUInt8 :: octetsOfSextets rest
  | [a, b, c] => [(a * 4 + b / 16).toUInt8, (b % 16 * 16 + c / 4).toUInt8]
  | [a, b] => [(a * 4 + b / 16).toUInt8]
  | _ => []

/-- The octets of a text, which has to be of ASCII characters. -/
def octetsOfBase64? (cs : List Char) : Option (List UInt8) :=
  if cs.all fun c => c.toNat < 128 then (sextets? 0 0 cs).map octetsOfSextets else none

end MergeGate.Text
