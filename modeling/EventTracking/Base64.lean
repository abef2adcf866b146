/-!
This module contains base64 for texts: a text is written with the URL-safe alphabet and without padding,
and read from either alphabet, with or without padding, over characters that belong to neither.
-/

namespace EventTracking.Base64

def digitChar (n : Nat) : Char :=
  if n < 26 then Char.ofNat (65 + n)
  else if n < 52 then Char.ofNat (71 + n)
  else if n < 62 then Char.ofNat (n - 4)
  else if n = 62 then '-'
  else '_'

def digitValue? (c : Char) : Option Nat :=
  let n := c.toNat
  if 65 ≤ n && n ≤ 90 then some (n - 65)
  else if 97 ≤ n && n ≤ 122 then some (n - 71)
  else if 48 ≤ n && n ≤ 57 then some (n + 4)
  else if c == '-' || c == '+' then some 62
  else if c == '_' || c == '/' then some 63
  else none

def toDigits : List UInt8 → List Nat
  | [] => []
  | [a] => [a.toNat / 4, a.toNat % 4 * 16]
  | [a, b] => [a.toNat / 4, a.toNat % 4 * 16 + b.toNat / 16, b.toNat % 16 * 4]
  | a :: b :: c :: rest =>
    a.toNat / 4 :: (a.toNat % 4 * 16 + b.toNat / 16) :: (b.toNat % 16 * 4 + c.toNat / 64)
      :: c.toNat % 64 :: toDigits rest

def ofDigits : List Nat → List UInt8
  | a :: b :: c :: d :: rest =>
    UInt8.ofNat (a * 4 + b / 16) :: UInt8.ofNat (b % 16 * 16 + c / 4)
      :: UInt8.ofNat (c % 4 * 64 + d) :: ofDigits rest
  | [a, b, c] => [UInt8.ofNat (a * 4 + b / 16), UInt8.ofNat (b % 16 * 16 + c / 4)]
  | [a, b] => [UInt8.ofNat (a * 4 + b / 16)]
  | _ => []

inductive DecodeError where
  | notAscii
  | lonelyDigit (digits : Nat)
  | unfinishedGroup
  | notUtf8
  deriving DecidableEq, Repr

namespace DecodeError

def message : DecodeError → String
  | .notAscii => "string argument should contain only ASCII characters"
  | .lonelyDigit n =>
    "Invalid base64-encoded string: number of data characters (" ++ toString n
      ++ ") cannot be 1 more than a multiple of 4"
  | .unfinishedGroup => "Incorrect padding"
  | .notUtf8 => "invalid utf-8"

end DecodeError

/--
The digits of a text and whether padding has ended it. Padding counts behind two or three digits of a
group; once it fills the group, what follows is not read. Characters outside the alphabets are passed
over.
-/
def scan (group pads : Nat) : List Char → List Nat × Bool
  | [] => ([], false)
  | c :: rest =>
    if c == '=' then
      if group < 2 then scan group pads rest
      else if 4 ≤ group + pads + 1 then ([], true)
      else scan group (pads + 1) rest
    else
      match digitValue? c with
      | none => scan group pads rest
      | some d =>
        let (ds, ended) := scan ((group + 1) % 4) 0 rest
        (d :: ds, ended)

def bytes (cs : List Char) : Except DecodeError (List UInt8) :=
  let (ds, ended) := scan 0 0 cs
  if ended || ds.length % 4 = 0 then .ok (ofDigits ds)
  else if ds.length % 4 = 1 then .error (.lonelyDigit ds.length)
  else .error .unfinishedGroup

def encode (s : String) : String :=
  String.ofList ((toDigits s.toUTF8.data.toList).map digitChar)

def pad (cs : List Char) : List Char :=
  cs ++ List.replicate ((4 - cs.length % 4) % 4) '='

def decode (s : String) : Except DecodeError String :=
  if s.toList.all (·.toNat < 128) then
    match bytes (pad s.toList) with
    | .error e => .error e
    | .ok bs =>
      match String.fromUTF8? ⟨bs.toArray⟩ with
      | some t => .ok t
      | none => .error .notUtf8
  else
    .error .notAscii

end EventTracking.Base64
