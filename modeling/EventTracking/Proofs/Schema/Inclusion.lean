import EventTracking.Proofs.Schema.Matching
import EventTracking.Proofs.Schema.RuleSet
import Mathlib.Logic.Relation

/-!
This module contains the order of rules by what they admit: the theorem that tells from the parts of two rules
whether one admits all that the other admits, and that a rule set loses no schema when its rules are changed
along this order.
-/

namespace EventTracking

namespace Schema

/-! ### Covering -/

def Parts.words (p : Parts) : List String := p.vendor.filter (· != wildcard)

def Parts.wildcards (p : Parts) : Nat := p.vendor.count wildcard

/-- Whether words and a number of wildcards after them stand for all that others stand for. -/
def CoversVendor (words' : List String) (wildcards' : Nat) (words : List String) (wildcards : Nat) : Prop :=
  (wildcards' = 0 ∧ wildcards = 0 ∧ words = words')
    ∨ (0 < wildcards' ∧ words' <+: words ∧ words'.length + wildcards' ≤ words.length + wildcards)

def CoversPart (part' part : String) : Prop := part' = wildcard ∨ part' = part

structure Parts.Covers (p' p : Parts) : Prop where
  vendor : CoversVendor p'.words p'.wildcards p.words p.wildcards
  name : CoversPart p'.name p.name
  model : CoversPart p'.model p.model
  revision : CoversPart p'.revision p.revision
  addition : CoversPart p'.addition p.addition

instance (words' : List String) (wildcards' : Nat) (words : List String) (wildcards : Nat) :
    Decidable (CoversVendor words' wildcards' words wildcards) :=
  inferInstanceAs (Decidable (_ ∨ _))

instance (part' part : String) : Decidable (CoversPart part' part) :=
  inferInstanceAs (Decidable (_ ∨ _))

instance (p' p : Parts) : Decidable (p'.Covers p) :=
  decidable_of_iff
    (CoversVendor p'.words p'.wildcards p.words p.wildcards ∧ CoversPart p'.name p.name
      ∧ CoversPart p'.model p.model ∧ CoversPart p'.revision p.revision ∧ CoversPart p'.addition p.addition)
    ⟨fun ⟨vendor, name, model, revision, addition⟩ => ⟨vendor, name, model, revision, addition⟩,
      fun h => ⟨h.vendor, h.name, h.model, h.revision, h.addition⟩⟩

/-! ### Parts that are not vendors -/

section

variable {fits : String → Bool} {part part' : String}

theorem admitsPart_of_covers {s : String} (h : CoversPart part' part) (hs : admitsPart part s = true) :
    admitsPart part' s = true := by
  simp only [CoversPart, admitsPart, Bool.or_eq_true, beq_iff_eq] at h hs ⊢
  rcases h with rfl | rfl
  . exact Or.inl rfl
  . exact hs

/-- Two parts that differ are enough to tell a wildcard from every other part. -/
theorem coversPart_of_admitsPart {a b : String} (ha : fits a = true) (hb : fits b = true) (hne : a ≠ b)
    (hpart : part = wildcard ∨ fits part = true)
    (h : ∀ s, fits s = true → admitsPart part s = true → admitsPart part' s = true) :
    CoversPart part' part := by
  simp only [admitsPart, Bool.or_eq_true, beq_iff_eq] at h
  rcases hpart with rfl | hpart
  . rcases h a ha (Or.inl rfl) with h' | rfl
    . exact Or.inl h'
    . rcases h b hb (Or.inl rfl) with h' | rfl
      . exact Or.inl h'
      . exact absurd rfl hne
  . exact h part hpart (Or.inr rfl)

def fill (default part : String) : String := if part = wildcard then default else part

theorem admitsPart_fill (default part : String) : admitsPart part (fill default part) = true := by
  unfold fill
  split
  . next h => simp [admitsPart, h]
  . simp [admitsPart]

theorem fits_fill {default : String} (hdefault : fits default = true)
    (hpart : part = wildcard ∨ fits part = true) : fits (fill default part) = true := by
  unfold fill
  split
  . exact hdefault
  . next h => exact hpart.resolve_left h

end

/-! ### Vendors -/

section

variable {words words' vendor : List String} {n n' : Nat}

theorem prefix_of_prefix_append {α : Type} {l m : List α} {a b : α} {as bs : List α} (hne : a ≠ b)
    (ha : l <+: m ++ a :: as) (hb : l <+: m ++ b :: bs) : l <+: m := by
  induction m generalizing l with
  | nil =>
    cases l with
    | nil => exact List.nil_prefix
    | cons x l =>
      rw [List.nil_append, List.cons_prefix_cons] at ha hb
      exact absurd (ha.1.symm.trans hb.1) hne
  | cons y m ih =>
    cases l with
    | nil => exact List.nil_prefix
    | cons x l =>
      rw [List.cons_append, List.cons_prefix_cons] at ha hb
      exact List.cons_prefix_cons.2 ⟨ha.1, ih ha.2 hb.2⟩

theorem admitsVendor_of_covers (h : CoversVendor words' n' words n)
    (hwords : ∀ s ∈ words, s ≠ wildcard) (hwords' : ∀ s ∈ words', s ≠ wildcard)
    (hvendor : admitsVendor (words ++ List.replicate n wildcard) vendor = true) :
    admitsVendor (words' ++ List.replicate n' wildcard) vendor = true := by
  rw [admitsVendor_iff hwords] at hvendor
  rw [admitsVendor_iff hwords']
  rcases h with ⟨rfl, rfl, rfl⟩ | ⟨hpos, hleading, hlen⟩
  . exact hvendor
  . rw [if_neg (by omega)]
    by_cases hn : n = 0
    . rw [if_pos hn] at hvendor
      rw [hvendor]
      exact ⟨hleading, by omega⟩
    . rw [if_neg hn] at hvendor
      exact ⟨hleading.trans hvendor.1, by omega⟩

theorem admitsVendor_filled (hwords : ∀ s ∈ words, s ≠ wildcard) (n : Nat) (word : String) :
    admitsVendor (words ++ List.replicate n wildcard) (words ++ List.replicate n word) = true := by
  rw [admitsVendor_iff hwords]
  split
  . next hn => simp [hn]
  . exact ⟨List.prefix_append _ _, by simp⟩

theorem isWord_filled {word : String} (hwords : ∀ s ∈ words, isWord s = true) (hword : isWord word = true) :
    ∀ s ∈ words ++ List.replicate n word, isWord s = true := by
  rw [List.forall_mem_append]
  refine ⟨hwords, ?_⟩
  intro s hs
  rw [List.eq_of_mem_replicate hs]
  exact hword

/-- The vendors that fill all wildcards with one word are enough, if there are two words to do so. -/
theorem coversVendor_of_admitsVendor {a b : String} (ha : isWord a = true) (hb : isWord b = true)
    (hne : a ≠ b) (hvendor : words ++ List.replicate n wildcard ≠ [])
    (hwords : ∀ s ∈ words, isWord s = true) (hwords' : ∀ s ∈ words', isWord s = true)
    (h : ∀ vendor, vendor ≠ [] → (∀ s ∈ vendor, isWord s = true) →
      admitsVendor (words ++ List.replicate n wildcard) vendor = true →
        admitsVendor (words' ++ List.replicate n' wildcard) vendor = true) :
    CoversVendor words' n' words n := by
  have hconcrete := fun s hs => ne_wildcard_of_isWord (hwords s hs)
  have hconcrete' := fun s hs => ne_wildcard_of_isWord (hwords' s hs)
  have hfilled : ∀ c, isWord c = true →
      if n' = 0 then words ++ List.replicate n c = words'
      else words' <+: words ++ List.replicate n c ∧ words'.length + n' ≤ words.length + n := by
    intro c hc
    have hadmits : admitsVendor (words' ++ List.replicate n' wildcard) (words ++ List.replicate n c) = true := by
      apply h
      . simpa using hvendor
      . exact isWord_filled hwords hc
      . exact admitsVendor_filled hconcrete n c
    simpa [admitsVendor_iff hconcrete'] using hadmits
  have hfa := hfilled a ha
  have hfb := hfilled b hb
  by_cases hn' : n' = 0
  . rw [if_pos hn'] at hfa hfb
    cases n with
    | zero => exact Or.inl ⟨hn', rfl, by simpa using hfa⟩
    | succ n =>
      have hsame := hfa.trans hfb.symm
      rw [List.append_cancel_left_eq, List.replicate_succ, List.replicate_succ, List.cons.injEq] at hsame
      exact absurd hsame.1 hne
  . rw [if_neg hn'] at hfa hfb
    refine Or.inr ⟨Nat.pos_of_ne_zero hn', ?_, hfa.2⟩
    cases n with
    | zero => simpa using hfa.1
    | succ n => exact prefix_of_prefix_append hne hfa.1 hfb.1

end

/-! ### Rules -/

namespace Parts

variable {p p' q : Parts}

theorem FormsRule.vendor_eq (h : p.FormsRule) :
    p.vendor = p.words ++ List.replicate p.wildcards wildcard ∧ ∀ s ∈ p.words, isWord s = true := by
  obtain ⟨_, concrete, n, hvendor, hconcrete⟩ := h.vendor
  have hne := fun s hs => ne_wildcard_of_isWord (hconcrete s hs)
  have hwords : p.words = concrete := by
    rw [words, hvendor, List.filter_append, List.filter_eq_self.2 fun s hs => by simpa using hne s hs]
    simp
  have hwildcards : p.wildcards = n := by
    rw [wildcards, hvendor, List.count_append, List.count_eq_zero_of_not_mem fun hs => hne _ hs rfl]
    simp
  rw [hwords, hwildcards]
  exact ⟨hvendor, hconcrete⟩

theorem admits_eq_true_iff :
    p.admits q = true
      ↔
    admitsVendor p.vendor q.vendor = true ∧ admitsPart p.name q.name = true
      ∧ admitsPart p.model q.model = true ∧ admitsPart p.revision q.revision = true
      ∧ admitsPart p.addition q.addition = true := by
  simp only [admits, Bool.and_eq_true, and_assoc]

theorem Covers.admits (h : p'.Covers p) (hp : p.FormsRule) (hp' : p'.FormsRule) (hq : p.admits q = true) :
    p'.admits q = true := by
  obtain ⟨hvendor, hwords⟩ := hp.vendor_eq
  obtain ⟨hvendor', hwords'⟩ := hp'.vendor_eq
  rw [admits_eq_true_iff, hvendor] at hq
  rw [admits_eq_true_iff, hvendor']
  obtain ⟨hv, hname, hmodel, hrevision, haddition⟩ := hq
  refine ⟨?_, admitsPart_of_covers h.name hname, admitsPart_of_covers h.model hmodel,
    admitsPart_of_covers h.revision hrevision, admitsPart_of_covers h.addition haddition⟩
  exact admitsVendor_of_covers h.vendor (fun s hs => ne_wildcard_of_isWord (hwords s hs))
    (fun s hs => ne_wildcard_of_isWord (hwords' s hs)) hv

def filled (p : Parts) : Parts where
  vendor := p.words ++ List.replicate p.wildcards "a"
  name := fill "a" p.name
  model := fill "0" p.model
  revision := fill "0" p.revision
  addition := fill "0" p.addition

theorem FormsRule.formsIdentifier_filled (h : p.FormsRule) : p.filled.FormsIdentifier where
  vendor_ne_nil := by
    have hne := h.vendor.1
    rw [h.vendor_eq.1] at hne
    simpa [filled] using hne
  vendor := isWord_filled h.vendor_eq.2 (by decide)
  name := fits_fill (by decide) h.name
  model := fits_fill (by decide) h.model
  revision := fits_fill (by decide) h.revision
  addition := fits_fill (by decide) h.addition

theorem FormsRule.admits_filled (h : p.FormsRule) : p.admits p.filled = true := by
  obtain ⟨hvendor, hwords⟩ := h.vendor_eq
  rw [admits_eq_true_iff, hvendor]
  exact ⟨admitsVendor_filled (fun s hs => ne_wildcard_of_isWord (hwords s hs)) _ _, admitsPart_fill _ _,
    admitsPart_fill _ _, admitsPart_fill _ _, admitsPart_fill _ _⟩

-- Each part is compared on the schemas that differ from one of the rule's own in that part only.
theorem covers_of_admits (hp : p.FormsRule) (hp' : p'.FormsRule)
    (h : ∀ q : Parts, q.FormsIdentifier → p.admits q = true → p'.admits q = true) : p'.Covers p := by
  have hform := hp.formsIdentifier_filled
  obtain ⟨hv, hname, hmodel, hrevision, haddition⟩ := admits_eq_true_iff.1 hp.admits_filled
  have hword : isWord "a" = true ∧ isWord "b" = true ∧ "a" ≠ "b" := by decide
  have hnumber : isNumber "0" = true ∧ isNumber "1" = true ∧ "0" ≠ "1" := by decide
  constructor
  . obtain ⟨hvendor, hwords⟩ := hp.vendor_eq
    obtain ⟨hvendor', hwords'⟩ := hp'.vendor_eq
    apply coversVendor_of_admitsVendor hword.1 hword.2.1 hword.2.2 _ hwords hwords'
    . intro vendor hne hfits hadmits
      rw [← hvendor] at hadmits
      rw [← hvendor']
      have hq := h { p.filled with vendor := vendor }
        ⟨hne, hfits, hform.name, hform.model, hform.revision, hform.addition⟩
        (admits_eq_true_iff.2 ⟨hadmits, hname, hmodel, hrevision, haddition⟩)
      exact (admits_eq_true_iff.1 hq).1
    . rw [← hvendor]
      exact hp.vendor.1
  . apply coversPart_of_admitsPart hword.1 hword.2.1 hword.2.2 hp.name
    intro s hs hadmits
    have hq := h { p.filled with name := s }
      ⟨hform.vendor_ne_nil, hform.vendor, hs, hform.model, hform.revision, hform.addition⟩
      (admits_eq_true_iff.2 ⟨hv, hadmits, hmodel, hrevision, haddition⟩)
    exact (admits_eq_true_iff.1 hq).2.1
  . apply coversPart_of_admitsPart hnumber.1 hnumber.2.1 hnumber.2.2 hp.model
    intro s hs hadmits
    have hq := h { p.filled with model := s }
      ⟨hform.vendor_ne_nil, hform.vendor, hform.name, hs, hform.revision, hform.addition⟩
      (admits_eq_true_iff.2 ⟨hv, hname, hadmits, hrevision, haddition⟩)
    exact (admits_eq_true_iff.1 hq).2.2.1
  . apply coversPart_of_admitsPart hnumber.1 hnumber.2.1 hnumber.2.2 hp.revision
    intro s hs hadmits
    have hq := h { p.filled with revision := s }
      ⟨hform.vendor_ne_nil, hform.vendor, hform.name, hform.model, hs, hform.addition⟩
      (admits_eq_true_iff.2 ⟨hv, hname, hmodel, hadmits, haddition⟩)
    exact (admits_eq_true_iff.1 hq).2.2.2.1
  . apply coversPart_of_admitsPart hnumber.1 hnumber.2.1 hnumber.2.2 hp.addition
    intro s hs hadmits
    have hq := h { p.filled with addition := s }
      ⟨hform.vendor_ne_nil, hform.vendor, hform.name, hform.model, hform.revision, hs⟩
      (admits_eq_true_iff.2 ⟨hv, hname, hmodel, hrevision, hadmits⟩)
    exact (admits_eq_true_iff.1 hq).2.2.2.2

end Parts

section

variable {rule rule' schema : String} {p p' : Parts}

theorem ruleAdmits_eq_true_iff (h : ruleParts? rule = some p) :
    ruleAdmits rule schema = true ↔ ∃ q, identifierParts? schema = some q ∧ p.admits q = true := by
  rw [ruleAdmits, h]
  cases identifierParts? schema <;> simp

theorem forall_ruleAdmits_iff_covers (h : ruleParts? rule = some p) (h' : ruleParts? rule' = some p') :
    (∀ schema, ruleAdmits rule schema = true → ruleAdmits rule' schema = true) ↔ p'.Covers p := by
  have hp := (ruleParts?_eq_some_iff.1 h).2
  have hp' := (ruleParts?_eq_some_iff.1 h').2
  simp only [ruleAdmits_eq_true_iff h, ruleAdmits_eq_true_iff h']
  constructor
  . intro hadmits
    apply Parts.covers_of_admits hp hp'
    intro q hq hpq
    have htext : identifierParts? q.text = some q := identifierParts?_eq_some_iff.2 ⟨Or.inl rfl, hq⟩
    obtain ⟨q', hq', hpq'⟩ := hadmits q.text ⟨q, htext, hpq⟩
    cases htext.symm.trans hq'
    exact hpq'
  . rintro hcovers schema ⟨q, hq, hpq⟩
    exact ⟨q, hq, hcovers.admits hp hp' hpq⟩

end

/-! ### Rule sets -/

def Generalizes (rule' rule : String) : Prop :=
  ∃ p' p : Parts, ruleParts? rule' = some p' ∧ ruleParts? rule = some p ∧ p'.Covers p

theorem Generalizes.ruleAdmits {rule' rule : String} (h : Generalizes rule' rule) (schema : String)
    (hadmits : ruleAdmits rule schema = true) : ruleAdmits rule' schema = true := by
  obtain ⟨p', p, hp', hp, hcovers⟩ := h
  exact (forall_ruleAdmits_iff_covers hp hp').2 hcovers schema hadmits

theorem any_replace {α : Type} {f : α → Bool} {before after : List α} {a b : α} (h : f a = true → f b = true)
    (hany : (before ++ a :: after).any f = true) : (before ++ b :: after).any f = true := by
  simp only [List.any_append, List.any_cons, Bool.or_eq_true] at hany ⊢
  exact hany.imp_right (Or.imp_left h)

theorem any_insert {α : Type} {f : α → Bool} {before after : List α} (a : α)
    (hany : (before ++ after).any f = true) : (before ++ a :: after).any f = true := by
  simp only [List.any_append, List.any_cons, Bool.or_eq_true] at hany ⊢
  exact hany.imp_right Or.inr

namespace RuleSet

variable {r r' : RuleSet} {s : String}

/-- The changes of a rule on one side of a rule set that are meant to let more schemas in. -/
inductive Loosens (r r' : RuleSet) : Prop where
  | acceptMoreBy {rule rule' : String} {before after : List String} (general : Generalizes rule' rule)
      (haccept : r.accept = before ++ rule :: after) (haccept' : r'.accept = before ++ rule' :: after)
      (hreject : r'.reject = r.reject) : Loosens r r'
  | rejectLessBy {rule rule' : String} {before after : List String} (special : Generalizes rule rule')
      (hreject : r.reject = before ++ rule :: after) (hreject' : r'.reject = before ++ rule' :: after)
      (haccept : r'.accept = r.accept) : Loosens r r'
  | accept {rule : String} {before after : List String} (haccept : r.accept = before ++ after)
      (haccept' : r'.accept = before ++ rule :: after) (hreject : r'.reject = r.reject) : Loosens r r'
  | dropReject {rule : String} {before after : List String} (hreject : r.reject = before ++ rule :: after)
      (hreject' : r'.reject = before ++ after) (haccept : r'.accept = r.accept) : Loosens r r'

theorem admits_of_any (haccept : r.accept.any (ruleAdmits · s) = true → r'.accept.any (ruleAdmits · s) = true)
    (hreject : r'.reject.any (ruleAdmits · s) = true → r.reject.any (ruleAdmits · s) = true)
    (h : r.admits s = true) : r'.admits s = true := by
  simp only [admits, admittedBy, Bool.and_eq_true, Bool.not_eq_true'] at h ⊢
  refine ⟨?_, haccept h.2⟩
  rw [Bool.eq_false_iff]
  intro hrejected
  rw [hreject hrejected] at h
  exact absurd h.1 (by decide)

theorem Loosens.admits (h : Loosens r r') (hs : r.admits s = true) : r'.admits s = true := by
  apply admits_of_any _ _ hs
  . cases h with
    | acceptMoreBy general haccept haccept' _ =>
      rw [haccept, haccept']
      exact any_replace (general.ruleAdmits s)
    | accept haccept haccept' _ =>
      rw [haccept, haccept']
      exact any_insert _
    | rejectLessBy _ _ _ haccept =>
      rw [haccept]
      exact id
    | dropReject _ _ haccept =>
      rw [haccept]
      exact id
  . cases h with
    | rejectLessBy special hreject hreject' _ =>
      rw [hreject, hreject']
      exact any_replace (special.ruleAdmits s)
    | dropReject hreject hreject' _ =>
      rw [hreject, hreject']
      exact any_insert _
    | acceptMoreBy _ _ _ hreject =>
      rw [hreject]
      exact id
    | accept _ _ hreject =>
      rw [hreject]
      exact id

theorem admits_of_loosened (h : Relation.ReflTransGen Loosens r r') (hs : r.admits s = true) :
    r'.admits s = true := by
  induction h with
  | refl => exact hs
  | tail _ hstep ih => exact hstep.admits ih

end RuleSet

/--
The vendor of a rule is some words followed by wildcards, and a rule admits all that another one does exactly if
it covers it part by part. So a rule set, however it is given, still admits what it did after any number of
changes that loosen it.
-/
theorem ruleAdmits_inclusion :
    (∀ (rule rule' : String) (p p' : Parts), ruleParts? rule = some p → ruleParts? rule' = some p' →
        (p.vendor = p.words ++ List.replicate p.wildcards wildcard ∧ ∀ s ∈ p.words, isWord s = true)
          ∧ ((∀ schema, ruleAdmits rule schema = true → ruleAdmits rule' schema = true) ↔ p'.Covers p))
      ∧ ∀ (m m' : Value) (r r' : RuleSet), RuleSet.ofValue? m = some r → RuleSet.ofValue? m' = some r' →
          Relation.ReflTransGen RuleSet.Loosens r r' →
            ∀ s, valueAdmits m (.str s) = .ok true → valueAdmits m' (.str s) = .ok true := by
  constructor
  . intro rule rule' p p' h h'
    exact ⟨(ruleParts?_eq_some_iff.1 h).2.vendor_eq, forall_ruleAdmits_iff_covers h h'⟩
  . intro m m' r r' h h' hloosens s hadmits
    rw [valueAdmits_of_ofValue? h, Except.ok.injEq] at hadmits
    rw [valueAdmits_of_ofValue? h', RuleSet.admits_of_loosened hloosens hadmits]

def twoWords : String := "com.acme.*/cart/jsonschema/1-*-*"

def oneWord : String := "com.*.*/*/jsonschema/1-*-*"

theorem generalizes_oneWord : Generalizes oneWord twoWords :=
  ⟨⟨["com", "*", "*"], "*", "1", "*", "*"⟩, ⟨["com", "acme", "*"], "cart", "1", "*", "*"⟩,
    by decide +kernel, by decide +kernel, by decide +kernel⟩

def firstVersion : String := "com.acme.*/cart/jsonschema/1-0-0"

def narrow : RuleSet := .ofRules ⟨[twoWords], by decide +kernel⟩ ⟨[firstVersion], by decide +kernel⟩

def wide : RuleSet := .ofRules ⟨[oneWord], by decide +kernel⟩ .empty

theorem loosens_narrow : Relation.ReflTransGen RuleSet.Loosens narrow wide := by
  let between : RuleSet := .ofRules ⟨[oneWord], by decide +kernel⟩ ⟨[firstVersion], by decide +kernel⟩
  have hfirst : RuleSet.Loosens narrow between :=
    .acceptMoreBy generalizes_oneWord (show narrow.accept = [] ++ twoWords :: [] from rfl)
      (show between.accept = [] ++ oneWord :: [] from rfl) rfl
  have hsecond : RuleSet.Loosens between wide :=
    .dropReject (show between.reject = [] ++ firstVersion :: [] from rfl) rfl rfl
  exact .tail (.single hfirst) hsecond

theorem ruleAdmits_inclusion_oneWord :
    (∀ schema, ruleAdmits twoWords schema = true → ruleAdmits oneWord schema = true)
      ∧ valueAdmits (.ruleSet narrow) (.str "iglu:com.acme.shop/cart/jsonschema/1-0-2") = .ok true
      ∧ valueAdmits (.ruleSet wide) (.str "iglu:com.acme.shop/cart/jsonschema/1-0-2") = .ok true := by
  obtain ⟨p', p, hp', hp, hcovers⟩ := generalizes_oneWord
  have hnarrow : valueAdmits (.ruleSet narrow) (.str "iglu:com.acme.shop/cart/jsonschema/1-0-2") = .ok true := by
    decide +kernel
  obtain ⟨hinclusion, hloosened⟩ := ruleAdmits_inclusion
  exact ⟨(hinclusion twoWords oneWord p p' hp hp').2.2 hcovers, hnarrow,
    hloosened _ _ narrow wide rfl rfl loosens_narrow _ hnarrow⟩

end Schema

end EventTracking
