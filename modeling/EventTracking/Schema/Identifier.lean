import EventTracking.Schema.Parts
import EventTracking.Text.Digit
import EventTracking.Number.Decimal

/-!
This module contains schema identifiers: their grammar, their numeric form and its written form.
-/

namespace EventTracking.Schema

def Parts.isIdentifier (p : Parts) : Bool :=
  p.vendor.all isWord && isWord p.name
    && isNumber p.model && isNumber p.revision && isNumber p.addition

def identifierParts? (s : String) : Option Parts :=
  (Parts.split? s).filter Parts.isIdentifier

structure Identifier where
  vendor : List String
  name : String
  model : Nat
  revision : Nat
  addition : Nat
  deriving DecidableEq, Repr

namespace Identifier

def vendorText (i : Identifier) : String := joinWith "." i.vendor

def version (i : Identifier) : String :=
  joinWith "-" [toString i.model, toString i.revision, toString i.addition]

def uri (i : Identifier) : String :=
  String.ofList scheme ++ joinWith "/" [i.vendorText, i.name, formatName, i.version]

def number (s : String) : Except Text.IntegerError Nat :=
  (Text.readInteger s).map Int.toNat

def ofParts (p : Parts) : Except Text.IntegerError Identifier := do
  let model ← number p.model
  let revision ← number p.revision
  let addition ← number p.addition
  return ⟨p.vendor, p.name, model, revision, addition⟩

def read (s : String) : Except Text.IntegerError (Option Identifier) :=
  match identifierParts? s with
  | none => .ok none
  | some p => (ofParts p).map some

end Identifier

end EventTracking.Schema
