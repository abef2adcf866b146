/-!
This module contains the encodings that a text can be read in from bytes, by their names.
-/

namespace EventTracking.Text

inductive Encoding where
  | utf8
  | ascii
  | latin1
  deriving DecidableEq, Repr

namespace Encoding

def foldName : List Char → List Char
  | [] => []
  | c :: rest =>
    let folded := foldName rest
    if c.isAlphanum || c == '.' then c.toLower :: folded
    else if folded.head? == some '_' then folded
    else '_' :: folded

def names : List (Encoding × List String) :=
  [(.utf8, ["utf_8", "utf8", "u8", "utf", "cp65001", "utf_8_sig"]),
    (.ascii, ["ascii", "us_ascii", "us", "646", "iso646_us"]),
    (.latin1, ["latin_1", "latin1", "latin", "l1", "iso_8859_1", "iso8859_1", "iso8859", "8859", "cp819"])]

def ofName? (name : String) : Option Encoding :=
  (names.find? fun e => e.2.contains (String.ofList (foldName name.toList))).map (·.1)

def ofBytes (data : List UInt8) : String := String.ofList (data.map fun b => Char.ofNat b.toNat)

def decode? : Encoding → List UInt8 → Option String
  | .utf8, data => String.fromUTF8? ⟨data.toArray⟩
  | .ascii, data => if data.all (· < 128) then some (ofBytes data) else none
  | .latin1, data => some (ofBytes data)

end Encoding

end EventTracking.Text
