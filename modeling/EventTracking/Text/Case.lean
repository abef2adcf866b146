import EventTracking.Text.CaseTable
import EventTracking.Text.Printable

/-!
This module contains the full case mappings of a text, those in which one character may become
several and in which a sigma that ends a word has a form of its own.
-/

namespace EventTracking.Text

def shiftBy (runs : List CaseRun) (n : Nat) : Nat :=
  (runs.findSome? (·.image? n)).getD n

def upperChar (c : Char) : List Char :=
  if c.toNat < 128 then
    [c.toUpper]
  else
    match upperExpansions.lookup c.toNat with
    | some ns => ns.map Char.ofNat
    | none => [Char.ofNat (shiftBy upperRuns c.toNat)]

def toUpper (s : String) : String :=
  String.ofList (s.toList.flatMap upperChar)

def isCased (c : Char) : Bool := inRanges c.toNat casedBoundaries

def isCaseIgnorable (c : Char) : Bool := inRanges c.toNat caseIgnorableBoundaries

def startsCased (cs : List Char) : Bool :=
  match cs.dropWhile isCaseIgnorable with
  | [] => false
  | c :: _ => isCased c

def lowerChar (before : List Char) (c : Char) (after : List Char) : List Char :=
  if c.toNat < 128 then
    [c.toLower]
  else if c.toNat == 0x130 then
    ['i', Char.ofNat 0x307]
  else if c.toNat == 0x3A3 then
    -- A capital sigma takes its final form at the end of a word.
    if startsCased before && !startsCased after then [Char.ofNat 0x3C2] else [Char.ofNat 0x3C3]
  else
    [Char.ofNat (shiftBy lowerRuns c.toNat)]

def toLower (s : String) : String :=
  String.ofList (go [] s.toList)
where
  go (before : List Char) : List Char → List Char
    | [] => []
    | c :: rest => lowerChar before c rest ++ go (c :: before) rest

end EventTracking.Text
