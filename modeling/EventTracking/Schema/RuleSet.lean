import EventTracking.Schema.Rule

/-!
This module contains rule sets: lists of rules that accept and that reject. A schema is admitted if no
rule rejects it and some rule accepts it.
-/

namespace EventTracking.Schema

abbrev Rules := { texts : List String // texts.all isRule = true }

def Rules.empty : Rules := ⟨[], rfl⟩

structure RuleSet where
  accept : List String
  reject : List String
  /-- Only rules get in, so evaluating a rule set never meets a malformed one. -/
  accept_valid : accept.all isRule = true
  reject_valid : reject.all isRule = true
  deriving DecidableEq

def admittedBy (accept reject : List String) (schema : String) : Bool :=
  !reject.any (ruleAdmits · schema) && accept.any (ruleAdmits · schema)

namespace RuleSet

def admits (r : RuleSet) (schema : String) : Bool :=
  admittedBy r.accept r.reject schema

def ofRules (accept reject : Rules) : RuleSet := ⟨accept.1, reject.1, accept.2, reject.2⟩

def empty : RuleSet := ofRules .empty .empty

end RuleSet

end EventTracking.Schema
