import EventTracking.Proofs.Schema.Grammar
import EventTracking.Schema.Valuation

/-!
This module contains the meaning of a rule: the schemas that it becomes when its wildcards are filled,
and the theorem that a rule admits these schemas and no others.
-/

namespace EventTracking.Schema

/--
The vendors that a rule's vendor becomes. Its last wildcard is filled with one word or more, any
wildcard before that with exactly one.
-/
inductive VendorInstance : List String → List String → Prop where
  | nil : VendorInstance [] []
  | keep {s : String} {rule vendor : List String} (hs : s ≠ wildcard) (h : VendorInstance rule vendor) :
    VendorInstance (s :: rule) (s :: vendor)
  | fillOne {word : String} {rule vendor : List String} (hlater : wildcard ∈ rule)
      (hword : isWord word = true) (h : VendorInstance rule vendor) :
    VendorInstance (wildcard :: rule) (word :: vendor)
  | fillLast {words rule vendor : List String} (hlast : wildcard ∉ rule) (hne : words ≠ [])
      (hwords : ∀ s ∈ words, isWord s = true) (h : VendorInstance rule vendor) :
    VendorInstance (wildcard :: rule) (words ++ vendor)

def PartInstance (fits : String → Bool) (rule part : String) : Prop :=
  (rule = wildcard ∧ fits part = true) ∨ (rule ≠ wildcard ∧ part = rule)

instance (fits : String → Bool) (rule part : String) : Decidable (PartInstance fits rule part) :=
  inferInstanceAs (Decidable (_ ∨ _))

structure Parts.IsInstance (rule schema : Parts) : Prop where
  vendor : VendorInstance rule.vendor schema.vendor
  name : PartInstance isWord rule.name schema.name
  model : PartInstance isNumber rule.model schema.model
  revision : PartInstance isNumber rule.revision schema.revision
  addition : PartInstance isNumber rule.addition schema.addition

namespace VendorInstance

variable {concrete rule vendor : List String}

theorem length_le (h : VendorInstance rule vendor) : rule.length ≤ vendor.length := by
  induction h with
  | nil => exact Nat.le_refl _
  | keep => simpa
  | fillOne => simpa
  | @fillLast words rule vendor hlast hne hwords h ih =>
    have := List.length_pos_iff.2 hne
    rw [List.length_append, List.length_cons]
    omega

theorem of_wildcards {n : Nat} (hlen : n + 1 ≤ vendor.length) (hwords : ∀ s ∈ vendor, isWord s = true) :
    VendorInstance (List.replicate (n + 1) wildcard) vendor := by
  -- The last wildcard takes all that is left, those before it one word each.
  induction n generalizing vendor with
  | zero =>
    have hne : vendor ≠ [] := List.length_pos_iff.1 hlen
    rw [← List.append_nil vendor]
    exact fillLast List.not_mem_nil hne hwords nil
  | succ n ih =>
    cases vendor with
    | nil => simp at hlen
    | cons s rest =>
      rw [List.length_cons] at hlen
      obtain ⟨hs, hrest⟩ := List.forall_mem_cons.1 hwords
      exact fillOne (by simp) hs (ih (by omega) hrest)

theorem append_concrete (hconcrete : ∀ s ∈ concrete, s ≠ wildcard) (h : VendorInstance rule vendor) :
    VendorInstance (concrete ++ rule) (concrete ++ vendor) := by
  induction concrete with
  | nil => exact h
  | cons s concrete ih =>
    obtain ⟨hs, hrest⟩ := List.forall_mem_cons.1 hconcrete
    exact keep hs (ih hrest)

theorem exists_of_append (hconcrete : ∀ s ∈ concrete, s ≠ wildcard)
    (h : VendorInstance (concrete ++ rule) vendor) :
    ∃ rest, vendor = concrete ++ rest ∧ VendorInstance rule rest := by
  induction concrete generalizing vendor with
  | nil => exact ⟨vendor, rfl, h⟩
  | cons s concrete ih =>
    obtain ⟨hs, hrest⟩ := List.forall_mem_cons.1 hconcrete
    cases h with
    | keep _ h =>
      obtain ⟨rest, rfl, hinstance⟩ := ih hrest h
      exact ⟨rest, rfl, hinstance⟩
    | fillOne => exact absurd rfl hs
    | fillLast => exact absurd rfl hs

end VendorInstance

variable {concrete vendor : List String} {n : Nat}

theorem vendorInstance_iff (hconcrete : ∀ s ∈ concrete, s ≠ wildcard)
    (hwords : ∀ s ∈ vendor, isWord s = true) :
    VendorInstance (concrete ++ List.replicate n wildcard) vendor
      ↔
    if n = 0 then vendor = concrete else concrete <+: vendor ∧ concrete.length + n ≤ vendor.length := by
  cases n with
  | zero =>
    simp only [List.replicate_zero, List.append_nil, if_true]
    constructor
    . intro h
      rw [← List.append_nil concrete] at h
      obtain ⟨rest, rfl, hrest⟩ := VendorInstance.exists_of_append hconcrete h
      cases hrest
      exact List.append_nil _
    . rintro rfl
      simpa using VendorInstance.append_concrete hconcrete .nil
  | succ n =>
    rw [if_neg (Nat.succ_ne_zero n)]
    constructor
    . intro h
      have hlen := h.length_le
      obtain ⟨rest, rfl, _⟩ := VendorInstance.exists_of_append hconcrete h
      refine ⟨List.prefix_append _ _, ?_⟩
      simpa using hlen
    . rintro ⟨⟨rest, rfl⟩, hlen⟩
      apply VendorInstance.append_concrete hconcrete
      apply VendorInstance.of_wildcards
      . rw [List.length_append] at hlen
        omega
      . intro s hs
        exact hwords s (List.mem_append_right _ hs)

theorem admitsVendor_iff (hconcrete : ∀ s ∈ concrete, s ≠ wildcard) :
    admitsVendor (concrete ++ List.replicate n wildcard) vendor = true
      ↔
    if n = 0 then vendor = concrete else concrete <+: vendor ∧ concrete.length + n ≤ vendor.length := by
  have hfilter : (concrete ++ List.replicate n wildcard).filter (· != wildcard) = concrete := by
    rw [List.filter_append, List.filter_eq_self.2 fun s hs => by simpa using hconcrete s hs]
    simp
  unfold admitsVendor
  rw [hfilter, List.length_append, List.length_replicate]
  cases n with
  | zero => simpa using eq_comm
  | succ n =>
    rw [if_pos (by omega), if_neg (Nat.succ_ne_zero n), Bool.and_eq_true, decide_eq_true_iff,
      List.isPrefixOf_iff_prefix, and_comm]

theorem admitsPart_iff {fits : String → Bool} {rule part : String} (hpart : fits part = true) :
    admitsPart rule part = true ↔ PartInstance fits rule part := by
  rw [admitsPart, PartInstance, Bool.or_eq_true, beq_iff_eq, beq_iff_eq]
  by_cases h : rule = wildcard
  . simp [h, hpart]
  . simpa [h] using eq_comm

theorem admitsVendor_iff_vendorInstance {rule : List String} (hrule : FormsVendor rule)
    (hwords : ∀ s ∈ vendor, isWord s = true) :
    admitsVendor rule vendor = true ↔ VendorInstance rule vendor := by
  obtain ⟨_, concrete, n, rfl, hconcrete⟩ := hrule
  have hne := fun s hs => ne_wildcard_of_isWord (hconcrete s hs)
  rw [admitsVendor_iff hne, vendorInstance_iff hne hwords]

theorem Parts.admits_iff {rule schema : Parts} (hrule : rule.FormsRule)
    (hschema : schema.FormsIdentifier) : rule.admits schema = true ↔ rule.IsInstance schema := by
  simp only [admits, Bool.and_eq_true]
  rw [admitsVendor_iff_vendorInstance hrule.vendor hschema.vendor, admitsPart_iff hschema.name,
    admitsPart_iff hschema.model, admitsPart_iff hschema.revision, admitsPart_iff hschema.addition]
  constructor
  . rintro ⟨⟨⟨⟨hvendor, hname⟩, hmodel⟩, hrevision⟩, haddition⟩
    exact ⟨hvendor, hname, hmodel, hrevision, haddition⟩
  . intro h
    exact ⟨⟨⟨⟨h.vendor, h.name⟩, h.model⟩, h.revision⟩, h.addition⟩

theorem ruleAdmits_iff {rule schema : String} :
    ruleAdmits rule schema = true
      ↔
    ∃ r s : Parts, (r.Written rule ∧ r.FormsRule) ∧ (s.Written schema ∧ s.FormsIdentifier)
      ∧ r.IsInstance s := by
  constructor
  . intro h
    unfold ruleAdmits at h
    split at h
    . next r s hr hs =>
      have hr := ruleParts?_eq_some_iff.1 hr
      have hs := identifierParts?_eq_some_iff.1 hs
      exact ⟨r, s, hr, hs, (Parts.admits_iff hr.2 hs.2).1 h⟩
    . simp at h
  . rintro ⟨r, s, hr, hs, hinstance⟩
    unfold ruleAdmits
    rw [ruleParts?_eq_some_iff.2 hr, identifierParts?_eq_some_iff.2 hs]
    exact (Parts.admits_iff hr.2 hs.2).2 hinstance

theorem split?_scheme_append {s : String} (h : ¬ scheme <+: s.toList) :
    Parts.split? (String.ofList scheme ++ s) = Parts.split? s := by
  unfold Parts.split?
  rw [String.toList_append, String.toList_ofList, dropScheme_append, dropScheme_eq_self h]

theorem ruleAdmits_scheme_append {rule schema : String} (h : ¬ scheme <+: rule.toList) :
    ruleAdmits (String.ofList scheme ++ rule) schema = ruleAdmits rule schema := by
  unfold ruleAdmits ruleParts?
  rw [split?_scheme_append h]

theorem ruleAdmits_append_scheme {rule schema : String} (h : ¬ scheme <+: schema.toList) :
    ruleAdmits rule (String.ofList scheme ++ schema) = ruleAdmits rule schema := by
  unfold ruleAdmits identifierParts?
  rw [split?_scheme_append h]

/--
A rule admits exactly its instances, and of values that are no texts none admits or is admitted. The
scheme makes no difference in front of a text that does not start with it already.
-/
theorem ruleValueAdmits_iff :
    (∀ rule schema : Value,
      ruleValueAdmits rule schema = true
        ↔
      ∃ (ruleText schemaText : String) (r s : Parts),
        rule = .str ruleText ∧ schema = .str schemaText ∧ (r.Written ruleText ∧ r.FormsRule)
          ∧ (s.Written schemaText ∧ s.FormsIdentifier) ∧ r.IsInstance s)
    ∧ (∀ rule schema : String, ¬ scheme <+: rule.toList →
        ruleValueAdmits (.str (String.ofList scheme ++ rule)) (.str schema)
          =
        ruleValueAdmits (.str rule) (.str schema))
    ∧ ∀ rule schema : String, ¬ scheme <+: schema.toList →
        ruleValueAdmits (.str rule) (.str (String.ofList scheme ++ schema))
          =
        ruleValueAdmits (.str rule) (.str schema) := by
  refine ⟨?_, ?_, ?_⟩
  . intro rule schema
    constructor
    . intro h
      unfold ruleValueAdmits at h
      split at h
      . next ruleText schemaText =>
        obtain ⟨r, s, hr, hs, hinstance⟩ := ruleAdmits_iff.1 h
        exact ⟨ruleText, schemaText, r, s, rfl, rfl, hr, hs, hinstance⟩
      . simp at h
    . rintro ⟨ruleText, schemaText, r, s, rfl, rfl, hr, hs, hinstance⟩
      exact ruleAdmits_iff.2 ⟨r, s, hr, hs, hinstance⟩
  . intro rule schema h
    exact ruleAdmits_scheme_append h
  . intro rule schema h
    exact ruleAdmits_append_scheme h

theorem ruleValueAdmits_two_wildcards :
    ¬ scheme <+: "com.*.*/*/jsonschema/1-*-*".toList
      ∧ ruleValueAdmits (.str (String.ofList scheme ++ "com.*.*/*/jsonschema/1-*-*"))
          (.str "iglu:com.acme.shop.web/cart/jsonschema/1-0-2") = true := by
  have hscheme : ¬ scheme <+: "com.*.*/*/jsonschema/1-*-*".toList := by decide
  refine ⟨hscheme, ?_⟩
  rw [ruleValueAdmits_iff.2.1 _ _ hscheme, ruleValueAdmits_iff.1]
  refine ⟨_, _, ⟨["com", "*", "*"], "*", "1", "*", "*"⟩,
    ⟨["com", "acme", "shop", "web"], "cart", "1", "0", "2"⟩, rfl, rfl, ⟨.inl ?_, ?_⟩, ⟨.inr ?_, ?_⟩, ?_⟩
  . decide
  . exact Parts.isRule_iff.1 (by decide)
  . decide
  . exact (Parts.isIdentifier_iff (by decide)).1 (by decide)
  . have hvendor : VendorInstance ["*", "*"] ["acme", "shop", "web"] :=
      VendorInstance.of_wildcards (n := 1) (by decide) (by decide)
    exact ⟨.keep (by decide) hvendor, by decide, by decide, by decide, by decide⟩

end EventTracking.Schema
