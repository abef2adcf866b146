import EventTracking.Context.Registry
import EventTracking.Entity

/-!
This module contains context manifests: documents that list entities, each for all events or for those
that rules admit.
-/

namespace EventTracking

open Schema (Rules RuleSet)

structure ManifestEntry where
  entity : Entity
  accept : Option Rules
  reject : Option Rules

structure Manifest where
  version : String
  description : Option String
  entries : List ManifestEntry

namespace ManifestEntry

/-- A rule on its own or a list of texts. What is neither is reported as such and as such. -/
def checkRuleTexts (v : Value) : Checked (Value × List String) :=
  match Check.text v, Check.list Check.text v with
  | .ok s, _ => .ok (.str s, [s])
  | _, .ok texts => .ok (.ofTexts texts, texts)
  | .error single, .error many =>
    .error (Checked.violations (.under (.key "str") (.error single : Checked String))
      ++ Checked.violations (.under (.key "list[str]") (.error many : Checked String)))

def checkRules (v : Value) : Checked Rules := do
  let (shown, texts) ← checkRuleTexts v
  if h : texts.all Schema.isRule = true then return ⟨texts, h⟩
  else .fail (.refused ("Invalid rule set argument: " ++ shown.quoted))

def check : Value → Checked ManifestEntry
  | .object es =>
    let v := Value.object es
    let fields :=
      Checked.both (Check.field "entity" (.fail .missing) Entity.check v) <|
        Checked.both (Check.field "accept" (.ok none) (Check.optional checkRules) v)
          (Check.field "reject" (.ok none) (Check.optional checkRules) v)
    (Checked.both fields (Check.declared ["entity", "accept", "reject"] es)).map
      fun ((entity, accept, reject), _) => ⟨entity, accept, reject⟩
  | _ => .fail (.notModel "ContextEntry")

def isConditional (e : ManifestEntry) : Bool := e.accept.isSome || e.reject.isSome

def side (rules : Option Rules) : Rules := rules.getD .empty

def ruleSet? (e : ManifestEntry) : Option RuleSet :=
  if e.isConditional then some (.ofRules (side e.accept) (side e.reject)) else none

def toValue (e : ManifestEntry) : Value :=
  match e.ruleSet? with
  | none => e.entity.toValue
  | some rules => .tuple [.ruleSet rules, .list [e.entity.toValue]]

end ManifestEntry

namespace Manifest

variable {σ : Type}

def logger : String := "trackercore.contexts.manifest"

def check : Value → Checked Manifest
  | .object es =>
    let v := Value.object es
    let fields :=
      Checked.both (Check.field "manifest_version" (.ok "1") Check.text v) <|
        Checked.both (Check.field "description" (.ok none) (Check.optional Check.text) v)
          (Check.field "contexts" (.ok []) (Check.list ManifestEntry.check) v)
    (Checked.both fields
        (Check.declared ["manifest_version", "description", "contexts"] es)).map
      fun ((version, description, entries), _) => ⟨version, description, entries⟩
  | _ => .fail (.notModel "ContextManifest")

def ofDocument (source : String) (document : Value) : Except Fault Manifest :=
  match document with
  | .object es =>
    match check (.object es) with
    | .ok m => .ok m
    | .error vs => .error (.invalid vs)
  | v => .error (.notAnObject source v.kind)

def inputs (m : Manifest) : List Value := m.entries.map ManifestEntry.toValue

def conditionals (m : Manifest) : Nat := (m.entries.filter ManifestEntry.isConditional).length

def apply (m : Manifest) (r : Registry) : Act (Session σ) Registry := do
  let registry ← r.add (.list m.inputs)
  Session.debug logger <|
    "Applied context manifest: entries=" ++ toString m.inputs.length ++ " conditional="
      ++ toString m.conditionals
  return registry

def register (m : Manifest) : Act (Registry × Session σ) Nat := do
  let r ← Act.subject
  Act.setSubject (← Act.besideSubject (m.apply r))
  return m.inputs.length

end Manifest

end EventTracking
