import EventTracking.Proofs.Schema.Grammar
import EventTracking.Proofs.Schema.RuleSet

/-!
This module contains what the functions on rules make of arbitrary values: the theorem that says which values
each of them takes for what it looks for, and when one fails, which is when it has to loop over a value that
cannot be looped over.
-/

namespace EventTracking

namespace Schema

variable {v m schema : Value} {f : Fault} {xs : List Value}

/-! ### Segments -/

def AreSegments (xs : List Value) : Prop :=
  (∀ x ∈ xs, x.truthy = true) ∧ xs.Pairwise fun x y => x = .str wildcard → y = .str wildcard

theorem isVendorParts_go_false_iff : isVendorParts.go false xs = true ↔ AreSegments xs := by
  rw [isVendorParts_go_iff, AreSegments]
  simp

def FailsToLoop (v : Value) (f : Fault) : Prop := v.elements? = none ∧ f = .notIterable v.kind

theorem isVendorParts_eq_error_iff :
    isVendorParts v = .error f ↔ v.truthy = true ∧ FailsToLoop v f := by
  unfold isVendorParts FailsToLoop
  cases v.truthy with
  | false => simp
  | true =>
    cases v.elements? with
    | none => simp [eq_comm]
    | some xs => simp

theorem isVendorParts_eq_true_iff :
    isVendorParts v = .ok true ↔ v.truthy = true ∧ ∃ xs, v.elements? = some xs ∧ AreSegments xs := by
  unfold isVendorParts
  cases v.truthy with
  | false => simp
  | true =>
    cases v.elements? with
    | none => simp
    | some xs => simp [isVendorParts_go_false_iff]

theorem isVendorValue_iff :
    isVendorValue v = true ↔ ∃ s, v = .str s ∧ AreSegments ((pieces '.' s.toList).map .str) := by
  cases v with
  | str s =>
    have hne : pieces '.' s.toList ≠ [] := by
      simp [pieces, List.splitOn_ne_nil]
    simp only [Value.str.injEq, exists_eq_left']
    rw [isVendorValue, isVendor_iff, AreSegments, List.forall_mem_map, List.pairwise_map]
    simp [Value.truthy, hne]
  | _ => simp [isVendorValue]

/-! ### Rules and lists of them -/

theorem bind_text?_eq_some_iff {α : Type} {read : String → Option α} {a : α} :
    v.text?.bind read = some a ↔ ∃ s, v = .str s ∧ read s = some a := by
  cases v <;> simp [Value.text?]

theorem identifierPartsOf?_eq_some_iff {p : Parts} :
    identifierPartsOf? v = some p ↔ ∃ s, v = .str s ∧ p.Written s ∧ p.FormsIdentifier := by
  rw [identifierPartsOf?, bind_text?_eq_some_iff]
  simp only [identifierParts?_eq_some_iff]

theorem rulePartsOf?_eq_some_iff {p : Parts} :
    rulePartsOf? v = some p ↔ ∃ s, v = .str s ∧ p.Written s ∧ p.FormsRule := by
  rw [rulePartsOf?, bind_text?_eq_some_iff]
  simp only [ruleParts?_eq_some_iff]

theorem isRuleValue_iff :
    isRuleValue v = true ↔ ∃ s p, v = .str s ∧ Parts.Written p s ∧ p.FormsRule := by
  rw [isRuleValue, Option.isSome_iff_exists]
  simp only [rulePartsOf?_eq_some_iff]
  exact exists_comm

theorem isTextList_iff : isTextList v = true ↔ ∃ texts : List String, v.items? = some (texts.map .str) := by
  unfold isTextList
  cases v.items? with
  | none => simp
  | some xs =>
    rw [List.all_eq_true, ← Value.exists_texts_iff]
    simp only [Option.some.injEq, eq_comm]

theorem isRuleArgument_iff : isRuleArgument v = true ↔ ∃ rules, Writes rules v :=
  ⟨exists_writes, fun ⟨_, h⟩ => h.isRuleArgument⟩

theorem isRuleSetValue_iff :
    isRuleSetValue v = true
      ↔
    ∃ es, v = .object es ∧ es ≠ [] ∧ (∀ e ∈ es, ∃ name ∈ ["accept", "reject"], e.1.isKey name = true)
      ∧ ∀ e ∈ es, ∃ rules, Writes rules e.2 := by
  cases v with
  | object es => simp [isRuleSetValue_object_iff, isRuleArgument_iff]
  | _ => simp [isRuleSetValue]

theorem ruleValueAdmits_iff_texts {rule : Value} :
    ruleValueAdmits rule schema = true
      ↔
    ∃ r s, rule = .str r ∧ schema = .str s ∧ ruleAdmits r s = true := by
  constructor
  . intro h
    unfold ruleValueAdmits at h
    split at h
    . exact ⟨_, _, rfl, rfl, h⟩
    . cases h
  . rintro ⟨r, s, rfl, rfl, h⟩
    exact h

/-! ### Rule sets -/

theorem rulesOf_eq_error_iff : rulesOf v = .error f ↔ v ≠ .null ∧ FailsToLoop v f := by
  unfold FailsToLoop
  cases v <;> simp [rulesOf, Value.elements?, eq_comm]

/--
Everything that is no rule, no rule set and so on is told from what is one, and only two of these functions can
fail: the test of a vendor's segments and the evaluation of a rule set, if they come to a value to loop over
that cannot be looped over.
-/
theorem fails_only_to_loop (v rule m schema : Value) (f : Fault) :
    (∀ p, identifierPartsOf? v = some p ↔ ∃ s, v = .str s ∧ p.Written s ∧ p.FormsIdentifier)
      ∧ (∀ p, rulePartsOf? v = some p ↔ ∃ s, v = .str s ∧ p.Written s ∧ p.FormsRule)
      ∧ (isRuleValue v = true ↔ ∃ s p, v = .str s ∧ Parts.Written p s ∧ p.FormsRule)
      ∧ (isVendorValue v = true ↔ ∃ s, v = .str s ∧ AreSegments ((pieces '.' s.toList).map .str))
      ∧ (isTextList v = true ↔ ∃ texts : List String, v.items? = some (texts.map .str))
      ∧ (isRuleArgument v = true ↔ ∃ rules, Writes rules v)
      ∧ (isRuleSetValue v = true
          ↔
        ∃ es, v = .object es ∧ es ≠ [] ∧ (∀ e ∈ es, ∃ name ∈ ["accept", "reject"], e.1.isKey name = true)
          ∧ ∀ e ∈ es, ∃ rules, Writes rules e.2)
      ∧ (ruleValueAdmits rule schema = true
          ↔
        ∃ r s, rule = .str r ∧ schema = .str s ∧ ruleAdmits r s = true)
      ∧ (isVendorParts v = .ok true
          ↔
        v.truthy = true ∧ ∃ xs, v.elements? = some xs ∧ AreSegments xs)
      ∧ (isVendorParts v = .error f ↔ v.truthy = true ∧ FailsToLoop v f)
      ∧ (valueAdmits m schema = .ok true
          ↔
        ∃ accepting rejecting, rulesOf (side "accept" m) = .ok accepting
          ∧ rulesOf (side "reject" m) = .ok rejecting
          ∧ rejecting.any (ruleValueAdmits · schema) = false
          ∧ accepting.any (ruleValueAdmits · schema) = true)
      ∧ (valueAdmits m schema = .error f
          ↔
        (side "reject" m ≠ .null ∧ FailsToLoop (side "reject" m) f)
          ∨ ∃ rejecting, rulesOf (side "reject" m) = .ok rejecting
              ∧ rejecting.any (ruleValueAdmits · schema) = false
              ∧ side "accept" m ≠ .null ∧ FailsToLoop (side "accept" m) f) := by
  refine ⟨fun _ => identifierPartsOf?_eq_some_iff, fun _ => rulePartsOf?_eq_some_iff, isRuleValue_iff,
    isVendorValue_iff, isTextList_iff, isRuleArgument_iff, isRuleSetValue_iff, ruleValueAdmits_iff_texts,
    isVendorParts_eq_true_iff, isVendorParts_eq_error_iff, valueAdmits_eq_ok_true_iff, ?_⟩
  rw [valueAdmits_eq_error_iff]
  simp only [rulesOf_eq_error_iff]

/-- A number where rules or segments should be is looped over. -/
theorem fails_at_number :
    valueAdmits (.ofPairs [("accept", .int 5)]) (.str "iglu:com.acme/cart/jsonschema/1-0-2")
        = .error (.notIterable "int")
      ∧ isVendorParts (.int 5) = .error (.notIterable "int") :=
  ⟨rfl, rfl⟩

end Schema

end EventTracking
