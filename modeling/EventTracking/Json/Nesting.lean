import EventTracking.Json.Reader

/-!
This module contains the limit on the nesting of documents that are read. The reader goes one level down at
each bracket, and at the first one that is a level too deep it gives up, unless it has met something malformed
before.
-/

namespace EventTracking.Json

/--
How many brackets may be open at once. A thousand calls may be open within each other, of which a build and
its callers take some twenty.
-/
def maxNesting : Nat := 980

inductive Bracket where
  | array
  | object
  deriving DecidableEq, Repr

def Bracket.kind : Bracket → String
  | .array => "array"
  | .object => "object"

structure Scan where
  closing : List Char
  quoted : Bool
  escaped : Bool

namespace Scan

def start : Scan := ⟨[], false, false⟩

def step (scan : Scan) (c : Char) : Scan :=
  if scan.escaped then { scan with escaped := false }
  else if scan.quoted then { scan with quoted := c != '"', escaped := c == '\\' }
  else
    match c with
    | '"' => { scan with quoted := true }
    | '[' => { scan with closing := ']' :: scan.closing }
    | '\x7b' => { scan with closing := '\x7d' :: scan.closing }
    | ']' | '\x7d' => { scan with closing := scan.closing.tail }
    | _ => scan

/--
How many characters there are up to the first bracket that leaves more than the given number open, together
with what closes all of them.
-/
def overflow? (limit : Nat) : (scan : Scan) → (before : Nat) → (rest : List Char) → Option (Nat × List Char)
  | _, _, [] => none
  | scan, before, c :: rest =>
    let next := scan.step c
    if limit < next.closing.length then some (before + 1, next.closing)
    else overflow? limit next (before + 1) rest

end Scan

/--
The bracket at which reading a text goes too deep, if it gets that far: what stands before the bracket is the
beginning of a document, which it becomes with everything closed.
-/
def overflow? (s : String) : Option Bracket :=
  match Scan.start.overflow? maxNesting 0 s.toList with
  | some (n, closing) =>
    if (parse? (String.ofList (s.toList.take n ++ closing))).isSome then
      some (if closing.head? == some ']' then .array else .object)
    else none
  | none => none

end EventTracking.Json
