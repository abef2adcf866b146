import EventTracking.Schema.Identifier

/-!
This module contains schema rules: identifiers in which the name, each version number and any trailing
segments of the vendor may be a wildcard. A rule admits the schemas that it can be made equal to by
filling its wildcards, the last vendor wildcard standing for one segment or more.
-/

namespace EventTracking.Schema

def wildcard : String := "*"

/-- Non-empty segments, in which a wildcard is followed by wildcards only. -/
def isVendor (segments : List String) : Bool :=
  !segments.isEmpty && go false segments
where
  go (seenWildcard : Bool) : List String → Bool
    | [] => true
    | s :: rest =>
      !s.isEmpty && (if s = wildcard then go true rest else !seenWildcard && go false rest)

def isWordPattern (s : String) : Bool := s == wildcard || isWord s

def isNumberPattern (s : String) : Bool := s == wildcard || isNumber s

def Parts.isRule (p : Parts) : Bool :=
  p.vendor.all isWordPattern && isVendor p.vendor && isWordPattern p.name
    && isNumberPattern p.model && isNumberPattern p.revision && isNumberPattern p.addition

def ruleParts? (s : String) : Option Parts :=
  (Parts.split? s).filter Parts.isRule

def isRule (s : String) : Bool := (ruleParts? s).isSome

def admitsPart (rule part : String) : Bool := rule == wildcard || rule == part

/--
Without wildcards a vendor admits only itself. With some it admits the vendors that start with its
concrete segments and have at least as many segments.
-/
def admitsVendor (rule vendor : List String) : Bool :=
  let concrete := rule.filter (· != wildcard)
  if concrete.length < rule.length then
    rule.length ≤ vendor.length && concrete.isPrefixOf vendor
  else
    rule == vendor

def Parts.admits (rule schema : Parts) : Bool :=
  admitsVendor rule.vendor schema.vendor
    && admitsPart rule.name schema.name
    && admitsPart rule.model schema.model
    && admitsPart rule.revision schema.revision
    && admitsPart rule.addition schema.addition

/-- Whether a rule admits a schema. A text that is no rule, or no schema, never does. -/
def ruleAdmits (rule schema : String) : Bool :=
  match ruleParts? rule, identifierParts? schema with
  | some r, some s => r.admits s
  | _, _ => false

end EventTracking.Schema
