import EventTracking.Proofs.CommandLine.Preview
import EventTracking.Proofs.Schema.RuleSet

/-!
This module contains the theorem on rule sets that hold invalid rules: what evaluating one, and the command
that does so, make of rules that are none.
-/

namespace EventTracking

/-! ### The command -/

namespace Command

open Schema (Rules RuleSet)

def ruleSetFlags : List Flag := [acceptFlag, rejectFlag]

def ruleSetOptions (accept reject : List String) : List (Flag × String) :=
  accept.map (acceptFlag, ·) ++ reject.map (rejectFlag, ·)

def ruleSetWords (schema : String) (accept reject : List String) : List String :=
  "rule" :: "match-set" :: (Arguments.wordsOf (ruleSetOptions accept reject) ++ ["--", schema])

theorem names_ruleSetOptions (accept reject : List String) :
    ∀ o ∈ ruleSetOptions accept reject, Arguments.Names ruleSetFlags o.1 := by
  have hflags : ∀ f ∈ ruleSetFlags, Arguments.Names ruleSetFlags f := by decide +kernel
  rw [ruleSetOptions, List.forall_mem_append, List.forall_mem_map, List.forall_mem_map]
  exact ⟨fun _ _ => hflags acceptFlag (by decide), fun _ _ => hflags rejectFlag (by decide)⟩

theorem valuesOf_append (name : String) (options options' : List (String × String)) (words : List String) :
    (⟨options ++ options', words⟩ : Arguments).valuesOf name
      =
    (⟨options, words⟩ : Arguments).valuesOf name ++ (⟨options', words⟩ : Arguments).valuesOf name := by
  rw [Arguments.valuesOf, List.filter_append, List.map_append]
  rfl

theorem valuesOf_map_self (name : String) (values words : List String) :
    (⟨values.map (name, ·), words⟩ : Arguments).valuesOf name = values := by
  simp [Arguments.valuesOf, List.filter_map, Function.comp_def]

theorem valuesOf_map_of_ne {name other : String} (h : other ≠ name) (values words : List String) :
    (⟨values.map (other, ·), words⟩ : Arguments).valuesOf name = [] := by
  simp [Arguments.valuesOf, List.filter_map, Function.comp_def, h]

theorem read?_ruleSetWords (schema : String) (accept reject : List String) :
    Command.read? (ruleSetWords schema accept reject) = some (.matchRules schema accept reject) := by
  have hread : Command.read? (ruleSetWords schema accept reject)
      = readRule? "match-set" (Arguments.wordsOf (ruleSetOptions accept reject) ++ ["--", schema]) := rfl
  have hwords : Arguments.read? [acceptFlag, rejectFlag]
      (Arguments.wordsOf (ruleSetOptions accept reject) ++ ["--", schema]) = _ :=
    Arguments.read?_wordsOf_append (a := ⟨[], [schema]⟩) (names_ruleSetOptions accept reject) rfl
  have hoptions : (ruleSetOptions accept reject).map (fun o => (o.1.long, o.2)) ++ []
      = accept.map (acceptFlag.long, ·) ++ reject.map (rejectFlag.long, ·) := by
    rw [ruleSetOptions, List.append_nil, List.map_append, List.map_map, List.map_map]
    rfl
  have hne : rejectFlag.long ≠ acceptFlag.long := by decide
  rw [hread, readRule?, hwords, hoptions]
  dsimp only [bind, Option.bind]
  rw [valuesOf_append, valuesOf_append, valuesOf_map_self, valuesOf_map_self, valuesOf_map_of_ne hne,
    valuesOf_map_of_ne hne.symm, List.append_nil, List.nil_append]

theorem exitCode_checkRules (schema : String) (accept reject : List String) :
    (checkRules schema accept reject).exitCode = 0
      ↔
    (RuleSet.ofRules (.among accept) (.among reject)).admits schema = true := by
  have hverdict : Schema.valueAdmits
      (.ofPairs [("accept", .ofTexts accept), ("reject", .ofTexts reject)]) (.str schema)
      = .ok ((RuleSet.heeding (accept.map .str) (reject.map .str)).admits schema) :=
    Schema.valueAdmits_of_sides rfl rfl schema
  rw [checkRules, hverdict, RuleSet.heeding, Rules.amongValues_texts, Rules.amongValues_texts]
  dsimp only
  cases (RuleSet.ofRules (.among accept) (.among reject)).admits schema with
  | false =>
    constructor
    . intro h
      cases h
    . intro h
      cases h
  | true => exact ⟨fun _ => rfl, fun _ => rfl⟩

/--
A rule set is evaluated as the set of the rules in it: what is no rule is passed over, on either side and in
the command too. One that is valid is evaluated as what it is read as.
-/
theorem verdict_of_valid_rules (m : Value) (schema : String) (accept reject : List String) :
    (Schema.valueAdmits m (.str schema) = .ok true
        ↔
      ∃ accepting rejecting, Schema.rulesOf (Schema.side "accept" m) = .ok accepting
        ∧ Schema.rulesOf (Schema.side "reject" m) = .ok rejecting
        ∧ (RuleSet.ofRules (.amongValues accepting) (.amongValues rejecting)).admits schema = true)
      ∧ (∀ es, m = .object es → (Schema.isRuleSetValue m = true ↔ ∃ r, RuleSet.ofValue? m = some r))
      ∧ (∀ r, RuleSet.ofValue? m = some r → Schema.valueAdmits m (.str schema) = .ok (r.admits schema))
      ∧ ∀ (files : FileTree) (s : Session Unit),
          ∃ command outcome, Command.read? (ruleSetWords schema accept reject) = some command
            ∧ command.run files s = (.ok outcome, s)
            ∧ (outcome.exitCode = 0
                ↔
              (RuleSet.ofRules (.among accept) (.among reject)).admits schema = true) := by
  refine ⟨Schema.valueAdmits_eq_true_iff, ?_, fun _ h => Schema.valueAdmits_of_ofValue? h schema, ?_⟩
  . rintro es rfl
    constructor
    . intro h
      obtain ⟨accept, reject, hvalue, _⟩ := Schema.exists_ofValue? h
      exact ⟨_, hvalue⟩
    . rintro ⟨r, hr⟩
      exact Schema.isRuleSetValue_of_ofValue? hr
  . intro files s
    exact ⟨_, _, read?_ruleSetWords schema accept reject, rfl, exitCode_checkRules schema accept reject⟩

def acmeRule : String := "com.acme/*/jsonschema/*-*-*"

def misplacedRule : String := "com.*.acme/*/jsonschema/*-*-*"

def acmeSchema : String := "iglu:com.acme/cart/jsonschema/1-0-2"

theorem verdict_of_valid_rules_acme :
    Schema.valueAdmits (.ofPairs [("accept", .str acmeRule)]) (.str acmeSchema) = .ok true
      ∧ Schema.valueAdmits (.ofPairs [("accept", .ofTexts [misplacedRule, acmeRule]), ("reject", .null)])
          (.str acmeSchema) = .ok true := by
  constructor
  . obtain ⟨_, _, hvalid, _⟩ :=
      verdict_of_valid_rules (.ofPairs [("accept", .str acmeRule)]) acmeSchema [acmeRule] []
    exact hvalid ⟨[acmeRule], [], by decide +kernel, rfl⟩ (by decide +kernel)
  . obtain ⟨hiff, _⟩ :=
      verdict_of_valid_rules (.ofPairs [("accept", .ofTexts [misplacedRule, acmeRule]), ("reject", .null)])
        acmeSchema [misplacedRule, acmeRule] []
    exact hiff.2 ⟨[.str misplacedRule, .str acmeRule], [], rfl, rfl, by decide +kernel⟩

/-- An invalid rule to reject leaves a schema admitted, and the value with it is no rule set. -/
theorem admits_beside_misplaced :
    let m := Value.ofPairs [("accept", .str acmeRule), ("reject", .str misplacedRule)]
    Schema.valueAdmits m (.str acmeSchema) = .ok true
      ∧ Schema.isRuleSetValue m = false
      ∧ RuleSet.ofValue? m = none
      ∧ Schema.isRule misplacedRule = false
      ∧ Command.read? ["rule", "match-set", acmeSchema, "--accept", acmeRule, "--reject", misplacedRule]
          = some (.matchRules acmeSchema [acmeRule] [misplacedRule])
      ∧ (checkRules acmeSchema [acmeRule] [misplacedRule]).exitCode = 0 := by
  decide +kernel

end Command
end EventTracking
