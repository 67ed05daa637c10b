import MergeGate.Text.Digit

/-
  MergeGate/Text/Utf8.lean
  ========================
  **Octets as text.**  Files arrive as octets and are read as UTF-8; a policy file may also be
  read as ASCII or as Latin-1.  `Encoding.decode` gives the text or a `Fault` that names the
  first octets that do not belong to the encoding; `encodeUtf8` writes a text.

  A fault of UTF-8 is one of three: an octet that starts no character, an octet that does not
  continue the character begun, or an end inside a character.  Its octets are those from the
  start of the character on that were still acceptable.
-/

namespace MergeGate.Text

/-- The ways in which octets are read as text. -/
inductive Encoding where
  | utf8
  | ascii
  | latin1
  deriving DecidableEq, Repr

/-- The name under which messages know an encoding. -/
def Encoding.label : Encoding → String
  | .utf8 => "utf-8"
  | .ascii => "ascii"
  | .latin1 => "latin-1"

/-- Why octets are not text. -/
inductive DecodeReason where
  | badStart
  | badContinuation
  | unexpectedEnd
  | outOfRange
  deriving DecidableEq, Repr

/-- What messages say of a reason. -/
def DecodeReason.label : DecodeReason → String
  | .badStart => "invalid start byte"
  | .badContinuation => "invalid continuation byte"
  | .unexpectedEnd => "unexpected end of data"
  | .outOfRange => "ordinal not in range(128)"

/-- The octets at fault: from `first` on, `count` of them, the first one being `octet`. -/
structure DecodeFault where
  encoding : Encoding
  octet : UInt8
  first : Nat
  count : Nat
  reason : DecodeReason
  deriving DecidableEq, Repr

/-- What a range of the second octet a first octet asks for, and how many octets follow it.
`none` for an octet that starts no character of several octets. -/
def utf8Follow (b : UInt8) : Option (UInt8 × UInt8 × Nat) :=
  if b < 0xc2 then none
  else if b ≤ 0xdf then some (0x80, 0xbf, 1)
  else if b = 0xe0 then some (0xa0, 0xbf, 2)
  else if b = 0xed then some (0x80, 0x9f, 2)
  else if b ≤ 0xef then some (0x80, 0xbf, 2)
  else if b = 0xf0 then some (0x90, 0xbf, 3)
  else if b ≤ 0xf3 then some (0x80, 0xbf, 3)
  else if b = 0xf4 then some (0x80, 0x8f, 3)
  else none

/-- Reads octets from position `at` on, with the characters read so far in reverse order. -/
def decodeUtf8From : Nat → List Char → List UInt8 → Except DecodeFault (List Char)
  | _, done, [] => .ok done.reverse
  | i, done, b :: bs =>
    if b < 0x80 then decodeUtf8From (i + 1) (Char.ofNat b.toNat :: done) bs
    else
      match utf8Follow b with
      | none => .error ⟨.utf8, b, i, 1, .badStart⟩
      | some (low, high, more) =>
        match bs with
        | [] => .error ⟨.utf8, b, i, 1, .unexpectedEnd⟩
        | b₁ :: bs₁ =>
          if b₁ < low || high < b₁ then .error ⟨.utf8, b, i, 1, .badContinuation⟩
          else if more = 1 then
            decodeUtf8From (i + 2) (Char.ofNat ((b.toNat - 0xc0) * 64 + (b₁.toNat - 0x80)) :: done) bs₁
          else
            match bs₁ with
            | [] => .error ⟨.utf8, b, i, 2, .unexpectedEnd⟩
            | b₂ :: bs₂ =>
              if b₂ < 0x80 || 0xbf < b₂ then .error ⟨.utf8, b, i, 2, .badContinuation⟩
              else if more = 2 then
                decodeUtf8From (i + 3)
                  (Char.ofNat ((b.toNat - 0xe0) * 4096 + (b₁.toNat - 0x80) * 64 + (b₂.toNat - 0x80)) :: done) bs₂
              else
                match bs₂ with
                | [] => .error ⟨.utf8, b, i, 3, .unexpectedEnd⟩
                | b₃ :: bs₃ =>
                  if b₃ < 0x80 || 0xbf < b₃ then .error ⟨.utf8, b, i, 3, .badContinuation⟩
                  else
                    decodeUtf8From (i + 4)
                      (Char.ofNat ((b.toNat - 0xf0) * 262144 + (b₁.toNat - 0x80) * 4096
                        + (b₂.toNat - 0x80) * 64 + (b₃.toNat - 0x80)) :: done) bs₃

/-- Reads octets that are all below 128. -/
def decodeAsciiFrom : Nat → List Char → List UInt8 → Except DecodeFault (List Char)
  | _, done, [] => .ok done.reverse
  | i, done, b :: bs =>
    if b < 0x80 then decodeAsciiFrom (i + 1) (Char.ofNat b.toNat :: done) bs
    else .error ⟨.ascii, b, i, 1, .outOfRange⟩

/-- The text that octets stand for. -/
def Encoding.decode : Encoding → List UInt8 → Except DecodeFault (List Char)
  | .utf8, bs => decodeUtf8From 0 [] bs
  | .ascii, bs => decodeAsciiFrom 0 [] bs
  | .latin1, bs => .ok (bs.map fun b => Char.ofNat b.toNat)

/-- The octets of a character in UTF-8. -/
def encodeChar (c : Char) : List UInt8 :=
  let n := c.toNat
  if n < 0x80 then [n.toUInt8]
  else if n < 0x800 then [(0xc0 + n / 64).toUInt8, (0x80 + n % 64).toUInt8]
  else if n < 0x10000 then
    [(0xe0 + n / 4096).toUInt8, (0x80 + n / 64 % 64).toUInt8, (0x80 + n % 64).toUInt8]
  else
    [(0xf0 + n / 262144).toUInt8, (0x80 + n / 4096 % 64).toUInt8, (0x80 + n / 64 % 64).toUInt8,
      (0x80 + n % 64).toUInt8]

def encodeUtf8 (cs : List Char) : List UInt8 := cs.flatMap encodeChar

/-- The two lower-case hexadecimal digits of an octet. -/
def octetDigits (b : UInt8) : String :=
  let digit (n : Nat) : Char := if n < 10 then Char.ofNat (48 + n) else Char.ofNat (87 + n)
  String.ofList [digit (b.toNat / 16), digit (b.toNat % 16)]

/-- The sentence that tells of a fault. -/
def DecodeFault.message (f : DecodeFault) : String :=
  let codec := "'" ++ f.encoding.label ++ "' codec can't decode "
  if f.count = 1 then
    codec ++ "byte 0x" ++ octetDigits f.octet ++ " in position " ++ toString f.first ++ ": " ++ f.reason.label
  else
    codec ++ "bytes in position " ++ toString f.first ++ "-" ++ toString (f.first + f.count - 1)
      ++ ": " ++ f.reason.label

theorem decodeUtf8From_ascii (i : Nat) (done : List Char) (b : UInt8) (bs : List UInt8) (h : b < 0x80) :
    decodeUtf8From i done (b :: bs) = decodeUtf8From (i + 1) (Char.ofNat b.toNat :: done) bs := by
  conv => lhs; unfold decodeUtf8From
  simp [h]

end MergeGate.Text
