/-!
This module contains the shape that schema identifiers and schema rules share: a dotted vendor, a name,
the fixed word `jsonschema` and three version numbers, with an optional leading `iglu:`.
-/

namespace EventTracking.Schema

structure Parts where
  vendor : List String
  name : String
  model : String
  revision : String
  addition : String
  deriving DecidableEq, Repr

def scheme : List Char := ['i', 'g', 'l', 'u', ':']

def formatName : String := "jsonschema"

def dropScheme (cs : List Char) : List Char :=
  if scheme.isPrefixOf cs then cs.drop scheme.length else cs

def pieces (separator : Char) (cs : List Char) : List String :=
  (cs.splitOn separator).map String.ofList

def joinWith (separator : String) (parts : List String) : String :=
  separator.intercalate parts

namespace Parts

def split? (s : String) : Option Parts :=
  match (dropScheme s.toList).splitOn '/' with
  | [vendor, name, format, version] =>
    if String.ofList format = formatName then
      match pieces '-' version with
      | [model, revision, addition] =>
        some ⟨pieces '.' vendor, String.ofList name, model, revision, addition⟩
      | _ => none
    else
      none
  | _ => none

def vendorText (p : Parts) : String := joinWith "." p.vendor

def version (p : Parts) : String := joinWith "-" [p.model, p.revision, p.addition]

def toList (p : Parts) : List String :=
  [p.vendorText, p.name, formatName, p.model, p.revision, p.addition]

def text (p : Parts) : String :=
  joinWith "/" [p.vendorText, p.name, formatName, p.version]

end Parts

/-- Letters, digits, the underscore and the hyphen; all of ASCII. -/
def isWordChar (c : Char) : Bool :=
  c.isAlphanum || c == '_' || c == '-'

def isWord (s : String) : Bool :=
  !s.isEmpty && s.toList.all isWordChar

def isNumber (s : String) : Bool :=
  match s.toList with
  | [] => false
  | ['0'] => true
  | c :: cs => c.isDigit && c != '0' && cs.all Char.isDigit

end EventTracking.Schema
