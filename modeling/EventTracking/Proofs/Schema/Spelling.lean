import EventTracking.Proofs.Schema.Grammar

/-!
This module contains the texts of rules as they are put together from characters, and the theorem that the
reader of rules accepts these texts and no others, and that each of them has one list of parts only.
-/

namespace EventTracking.Schema

/-! ### Words and numbers -/

def IsWordCharacter (c : Char) : Prop :=
  ('a' ≤ c ∧ c ≤ 'z') ∨ ('A' ≤ c ∧ c ≤ 'Z') ∨ ('0' ≤ c ∧ c ≤ '9') ∨ c = '_' ∨ c = '-'

def SpellsWord (s : String) : Prop :=
  s ≠ "" ∧ ∀ c ∈ s.toList, IsWordCharacter c

def SpellsNumber (s : String) : Prop :=
  s = "0" ∨ (s ≠ "" ∧ (∀ c ∈ s.toList, '0' ≤ c ∧ c ≤ '9') ∧ s.toList.head? ≠ some '0')

theorem isDigit_iff {c : Char} : c.isDigit = true ↔ '0' ≤ c ∧ c ≤ '9' := by
  have hdigit : c.isDigit = (decide ('0' ≤ c) && decide (c ≤ '9')) := rfl
  rw [hdigit, Bool.and_eq_true, decide_eq_true_iff, decide_eq_true_iff]

theorem isWordChar_iff {c : Char} : isWordChar c = true ↔ IsWordCharacter c := by
  have hchar : isWordChar c
      = (decide ('A' ≤ c ∧ c ≤ 'Z') || decide ('a' ≤ c) && decide (c ≤ 'z')
          || decide ('0' ≤ c) && decide (c ≤ '9') || c == '_' || c == '-') := rfl
  rw [hchar]
  simp only [IsWordCharacter, Bool.or_eq_true, Bool.and_eq_true, decide_eq_true_iff, beq_iff_eq]
  rw [or_assoc, or_assoc, or_assoc, or_left_comm]

theorem isWord_iff {s : String} : isWord s = true ↔ SpellsWord s := by
  simp [isWord, SpellsWord, isWordChar_iff]

theorem isNumber_iff {s : String} : isNumber s = true ↔ SpellsNumber s := by
  have hzero : s = "0" ↔ s.toList = ['0'] := by
    rw [← String.toList_inj]
    rfl
  have hempty : s = "" ↔ s.toList = [] := String.toList_eq_nil_iff.symm
  unfold isNumber SpellsNumber
  rw [hzero, ne_eq, hempty]
  split
  . next hs => simp [hs]
  . next hs => simp [hs]
  . next c cs hne hs =>
    rw [hs]
    have hone : ¬ (c = '0' ∧ cs = []) := by
      rintro ⟨rfl, rfl⟩
      exact hne rfl rfl
    simp only [Bool.and_eq_true, bne_iff_ne, List.all_eq_true, isDigit_iff, List.cons.injEq,
      List.forall_mem_cons, List.head?_cons, ne_eq, Option.some.injEq, reduceCtorEq, not_false_eq_true,
      true_and, hone, false_or]
    constructor
    . rintro ⟨⟨hc, hc0⟩, hcs⟩
      exact ⟨⟨hc, hcs⟩, hc0⟩
    . rintro ⟨⟨hc, hcs⟩, hc0⟩
      exact ⟨⟨hc, hc0⟩, hcs⟩

/-! ### Vendors -/

/-- Segments of a rule's vendor: nothing but wildcards follows a wildcard. -/
structure SpellsVendor (segments : List String) : Prop where
  ne_nil : segments ≠ []
  segment : ∀ s ∈ segments, s = "*" ∨ SpellsWord s
  trailing : segments.Pairwise fun s t => s = "*" → t = "*"

theorem formsVendor_iff_spellsVendor {segments : List String} :
    FormsVendor segments ↔ SpellsVendor segments := by
  rw [formsVendor_iff_pairwise]
  simp only [isWord_iff]
  constructor
  . rintro ⟨hne, hsegment, htrailing⟩
    exact ⟨hne, hsegment, htrailing⟩
  . intro h
    exact ⟨h.ne_nil, h.segment, h.trailing⟩

/-! ### Whole texts -/

def joined : List String → String
  | [vendor, name, format, model, revision, addition] =>
    vendor ++ "/" ++ name ++ "/" ++ format ++ "/" ++ model ++ "-" ++ revision ++ "-" ++ addition
  | _ => ""

inductive SpellsRule : List String → Prop where
  | parts {segments : List String} {name model revision addition : String} (hvendor : SpellsVendor segments)
      (hname : name = "*" ∨ SpellsWord name) (hmodel : model = "*" ∨ SpellsNumber model)
      (hrevision : revision = "*" ∨ SpellsNumber revision)
      (haddition : addition = "*" ∨ SpellsNumber addition) :
      SpellsRule [".".intercalate segments, name, "jsonschema", model, revision, addition]

def IsJoinedFrom (s : String) (parts : List String) : Prop :=
  s = joined parts ∨ s = "iglu:" ++ joined parts

def withoutScheme (s : String) : String := String.ofList (dropScheme s.toList)

variable {parts : List String} {p : Parts} {s : String}

theorem joined_toList (p : Parts) : joined p.toList = p.text := by
  simp [joined, Parts.toList, Parts.text, Parts.version, joinWith, String.intercalate_cons_cons,
    String.append_assoc]

theorem written_iff_isJoinedFrom : p.Written s ↔ IsJoinedFrom s p.toList := by
  rw [Parts.Written, IsJoinedFrom, joined_toList]
  rfl

theorem spellsRule_iff : SpellsRule parts ↔ ∃ p : Parts, p.FormsRule ∧ p.toList = parts := by
  constructor
  . rintro (@⟨segments, name, model, revision, addition, hvendor, hname, hmodel, hrevision, haddition⟩)
    refine ⟨⟨segments, name, model, revision, addition⟩, ?_, rfl⟩
    exact ⟨formsVendor_iff_spellsVendor.2 hvendor, hname.imp_right isWord_iff.2,
      hmodel.imp_right isNumber_iff.2, hrevision.imp_right isNumber_iff.2,
      haddition.imp_right isNumber_iff.2⟩
  . rintro ⟨p, h, rfl⟩
    exact .parts (formsVendor_iff_spellsVendor.1 h.vendor) (h.name.imp_right isWord_iff.1)
      (h.model.imp_right isNumber_iff.1) (h.revision.imp_right isNumber_iff.1)
      (h.addition.imp_right isNumber_iff.1)

theorem joined_of_ruleParts? (h : ruleParts? s = some p) : joined p.toList = withoutScheme s := by
  have hsplit := (Option.filter_eq_some_iff.1 h).1
  rw [joined_toList, withoutScheme, ← Parts.text_of_split? hsplit, String.ofList_toList]

theorem Parts.FormsIdentifier.rule (h : p.FormsIdentifier) : p.FormsRule where
  vendor := ⟨h.vendor_ne_nil, p.vendor, 0, by simp, h.vendor⟩
  name := Or.inr h.name
  model := Or.inr h.model
  revision := Or.inr h.revision
  addition := Or.inr h.addition

/--
The reader of rules accepts the texts that are joined from the parts of a rule, and finds these parts, which
are the only ones. A schema identifier is a rule with the same parts.
-/
theorem rulePartsOf?_spelled (s : String) :
    ((rulePartsOf? (.str s)).isSome = true ↔ ∃ parts, SpellsRule parts ∧ IsJoinedFrom s parts)
      ∧ (∀ p, rulePartsOf? (.str s) = some p →
          SpellsRule p.toList ∧ joined p.toList = withoutScheme s
            ∧ ∀ parts, SpellsRule parts → IsJoinedFrom s parts → parts = p.toList)
      ∧ ∀ p, identifierPartsOf? (.str s) = some p → rulePartsOf? (.str s) = some p := by
  have hreads : rulePartsOf? (.str s) = ruleParts? s := rfl
  have hidentifies : identifierPartsOf? (.str s) = identifierParts? s := rfl
  rw [hreads, hidentifies]
  refine ⟨?_, ?_, ?_⟩
  . rw [Option.isSome_iff_exists]
    constructor
    . rintro ⟨p, h⟩
      obtain ⟨hwritten, hform⟩ := ruleParts?_eq_some_iff.1 h
      exact ⟨p.toList, spellsRule_iff.2 ⟨p, hform, rfl⟩, written_iff_isJoinedFrom.1 hwritten⟩
    . rintro ⟨_, hparts, hjoined⟩
      obtain ⟨p, hform, rfl⟩ := spellsRule_iff.1 hparts
      exact ⟨p, ruleParts?_eq_some_iff.2 ⟨written_iff_isJoinedFrom.2 hjoined, hform⟩⟩
  . intro p h
    obtain ⟨_, hform⟩ := ruleParts?_eq_some_iff.1 h
    refine ⟨spellsRule_iff.2 ⟨p, hform, rfl⟩, joined_of_ruleParts? h, ?_⟩
    intro parts hparts hjoined
    obtain ⟨q, hq, rfl⟩ := spellsRule_iff.1 hparts
    have hother : ruleParts? s = some q :=
      ruleParts?_eq_some_iff.2 ⟨written_iff_isJoinedFrom.2 hjoined, hq⟩
    rw [Option.some.inj (hother.symm.trans h)]
  . intro p h
    obtain ⟨hwritten, hform⟩ := identifierParts?_eq_some_iff.1 h
    exact ruleParts?_eq_some_iff.2 ⟨hwritten, hform.rule⟩

theorem rulePartsOf?_spelled_acme :
    let rule := "iglu:com.acme.*.*/cart/jsonschema/1-*-10"
    let ruleParts : Parts := ⟨["com", "acme", "*", "*"], "cart", "1", "*", "10"⟩
    let schema := "com.acme/cart/jsonschema/1-0-2"
    let schemaParts : Parts := ⟨["com", "acme"], "cart", "1", "0", "2"⟩
    (rulePartsOf? (.str rule) = some ruleParts
        ∧ joined ruleParts.toList = withoutScheme rule
        ∧ SpellsRule ruleParts.toList)
      ∧ identifierPartsOf? (.str schema) = some schemaParts
      ∧ rulePartsOf? (.str schema) = some schemaParts := by
  intro rule ruleParts schema schemaParts
  have hrule : rulePartsOf? (.str rule) = some ruleParts := by decide +kernel
  have hschema : identifierPartsOf? (.str schema) = some schemaParts := by decide +kernel
  obtain ⟨hspells, hjoined, _⟩ := (rulePartsOf?_spelled rule).2.1 ruleParts hrule
  exact ⟨⟨hrule, hjoined, hspells⟩, hschema, (rulePartsOf?_spelled schema).2.2 schemaParts hschema⟩

end EventTracking.Schema
