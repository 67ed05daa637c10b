import MergeGate.Text.Utf8

/-
  MergeGate/Discussion/Address.lean
  =================================
  **Addresses of the web.**  An address has a scheme and a host, a path, and perhaps a query and a
  fragment.  It is sent in its normal form: scheme and host in small letters, the usual port left
  out, points resolved in the path, and octets that may not stand in an address written with a
  percent sign.  What has no host is taken for a path from the root.
-/

namespace MergeGate.Discussion

open MergeGate.Text

namespace Address

/-- A hexadecimal digit in capitals. -/
def hexCapital (n : Nat) : Char := if n < 10 then Char.ofNat (48 + n) else Char.ofNat (55 + n)

/-- A character as its octets with percent signs. -/
def escaped (c : Char) : List Char :=
  (encodeChar c).flatMap fun b => ['%', hexCapital (b.toNat / 16), hexCapital (b.toNat % 16)]

/-- Whether a character may stand in an address, apart from some. -/
def isPlainChar (barred : List Char) (c : Char) : Bool :=
  33 ≤ c.toNat && c.toNat ≤ 126 && !(['\x22', '<', '>'] ++ barred).contains c

/-- A part of an address in which some characters may not stand. -/
def part (barred : List Char) (cs : List Char) : List Char :=
  cs.flatMap fun c => if isPlainChar barred c then [c] else escaped c

/-- Goes along the pieces of a path; those gone are in reverse. -/
def resolvePieces : List (List Char) → List (List Char) → List (List Char)
  | gone, [] => gone.reverse
  | gone, p :: ps =>
    if p = ['.'] then resolvePieces gone ps
    else if p = ['.', '.'] then resolvePieces (if gone = [[]] then gone else gone.drop 1) ps
    else resolvePieces (p :: gone) ps

/-- A path without single and double points. -/
def resolved (cs : List Char) : List Char :=
  let pieces := splitAt (· == '/') cs
  if pieces.any fun p => p = ['.'] || p = ['.', '.'] then joinWith ['/'] (resolvePieces [] pieces) else cs

/-- A path in normal form. -/
def pathPart (cs : List Char) : List Char := part ['#', '?', '\x60', '\x7b', '\x7d'] (resolved cs)

/-- A host in normal form, without the usual port of a scheme. -/
def hostPart (scheme host : List Char) : List Char :=
  let host := host.map lowerAscii
  let usual := if scheme = "http".toList then ":80".toList else if scheme = "https".toList then ":443".toList else [':']
  match dropLead usual.reverse host.reverse with
  | some rest => rest.reverse
  | none => host

/-- What separates scheme and host. -/
def hostMark : List Char := [':', '/', '/']

/-- A text cut where a mark stands first, if it stands anywhere. -/
def cutAt (mark : List Char) : List Char → Option (List Char × List Char)
  | [] => none
  | c :: cs =>
    match dropLead mark (c :: cs) with
    | some rest => some ([], rest)
    | none => (cutAt mark cs).map fun (before, rest) => (c :: before, rest)

/-- Scheme, host and path in normal form. -/
def location (cs : List Char) : List Char :=
  match cutAt hostMark cs with
  | some (scheme, rest) =>
    let scheme := scheme.map lowerAscii
    scheme ++ hostMark ++ hostPart scheme (rest.takeWhile (· ≠ '/')) ++ pathPart (rest.dropWhile (· ≠ '/'))
  | none => '/' :: part ['#', '?', '\x60', '\x7b', '\x7d'] (cs.dropWhile (· == '/'))

/-- An address in normal form; a query that is given goes before that of the text. -/
def normal (cs : List Char) (query : Option (List Char)) : List Char :=
  let whole := cs.takeWhile (· ≠ '#')
  let fragment := cs.dropWhile (· ≠ '#')
  let written := whole.dropWhile (· ≠ '?')
  let query := query.or (if written.isEmpty then none else some (written.drop 1))
  location (whole.takeWhile (· ≠ '?'))
    ++ (match query with
        | some q => '?' :: part ['#'] q
        | none => [])
    ++ (match fragment with
        | _ :: f => '#' :: part ['\x60'] f
        | [] => [])

end Address

end MergeGate.Discussion
