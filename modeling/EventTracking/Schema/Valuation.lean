import EventTracking.Fault
import EventTracking.Value.Text

/-!
This module contains the grammar of rules and rule sets on arbitrary values: what no text could be part
of is refused and not an error, except where a value is looped over that cannot be.
-/

namespace EventTracking.Schema

def identifierPartsOf? (v : Value) : Option Parts := v.text?.bind identifierParts?

def rulePartsOf? (v : Value) : Option Parts := v.text?.bind ruleParts?

def isRuleValue (v : Value) : Bool := (rulePartsOf? v).isSome

def identifierOf (v : Value) : Except Fault (Option Identifier) :=
  match v.text? with
  | none => .ok none
  | some s =>
    match Identifier.read s with
    | .ok i => .ok i
    | .error .notDecimal => .error (.notInteger 10 s)
    | .error (.tooLong n) => .error (.integerTooLong n)

def Identifier.toPairs (i : Identifier) : List (String × Value) :=
  [("vendor", .str i.vendorText), ("name", .str i.name), ("format", .str formatName),
    ("model", .int i.model), ("revision", .int i.revision), ("addition", .int i.addition)]

def isVendorValue (v : Value) : Bool :=
  match v with
  | .str s => isVendor (pieces '.' s.toList)
  | _ => false

def isVendorParts (v : Value) : Except Fault Bool :=
  if !v.truthy then .ok false
  else
    match v.elements? with
    | none => .error (.notIterable v.kind)
    | some xs => .ok (go false xs)
where
  go (seenWildcard : Bool) : List Value → Bool
    | [] => true
    | x :: rest =>
      x.truthy && (if x.isKey wildcard then go true rest else !seenWildcard && go false rest)

def isTextList (v : Value) : Bool :=
  match v.items? with
  | some xs => xs.all fun x => x.text?.isSome
  | none => false

def isRuleArgument (v : Value) : Bool :=
  match v.items? with
  | some xs => xs.all isRuleValue
  | none => isRuleValue v

/-- Whether a value is an object with at least one of the two sides, nothing else, and rules in them. -/
def isRuleSetValue : Value → Bool
  | .object es =>
    !es.isEmpty
      && es.all fun (k, v) => (k.isKey "accept" || k.isKey "reject") && isRuleArgument v
  | _ => false

def side (name : String) : Value → Value
  | .object es => ((Value.object es).field? name).getD .null
  | .ruleSet r => if name == "accept" then .ofTexts r.accept else .ofTexts r.reject
  | _ => .null

/-- The rules of one side: a text stands for itself, anything else is looped over. -/
def rulesOf (v : Value) : Except Fault (List Value) :=
  match v with
  | .null => .ok []
  | .str s => .ok [.str s]
  | _ =>
    match v.elements? with
    | some xs => .ok xs
    | none => .error (.notIterable v.kind)

def ruleValueAdmits (rule schema : Value) : Bool :=
  match rule, schema with
  | .str r, .str s => ruleAdmits r s
  | _, _ => false

/-- The verdict of a rule set given as a value. The accepting side is not looked at after a rejection. -/
def valueAdmits (ruleSet schema : Value) : Except Fault Bool := do
  let rejecting ← rulesOf (side "reject" ruleSet)
  if rejecting.any (ruleValueAdmits · schema) then
    return false
  else
    let accepting ← rulesOf (side "accept" ruleSet)
    return accepting.any (ruleValueAdmits · schema)

def invalidRules (texts : List String) : String := "Invalid rule(s): " ++ ", ".intercalate texts

def checkSide (v : Value) : Checked Rules := do
  let texts ← Check.list Check.text (match v with
    | .str s => .list [.str s]
    | v => v)
  if h : texts.all isRule = true then return ⟨texts, h⟩
  else .fail (.refused (invalidRules (texts.filter fun t => !isRule t)))

namespace RuleSet

def check : Value → Checked RuleSet
  | .ruleSet r => .ok r
  | .object es =>
    let v := Value.object es
    let sides := Checked.both (Check.field "accept" (.ok .empty) checkSide v)
      (Check.field "reject" (.ok .empty) checkSide v)
    (Checked.both sides (Check.declared ["accept", "reject"] es)).map
      fun ((accept, reject), _) => ofRules accept reject
  | _ => .fail (.notModel "RuleSet")

/-- The rule set that a value is or describes; an object without any side describes none. -/
def ofValue? : Value → Option RuleSet
  | .ruleSet r => some r
  | v => if isRuleSetValue v then (check v).toOption else none

def toValue (r : RuleSet) : Value :=
  .ofPairs [("accept", .ofTexts r.accept), ("reject", .ofTexts r.reject)]

end RuleSet

end EventTracking.Schema
