import EventTracking.Proofs.Validation
import EventTracking.Proofs.Value.Entries
import EventTracking.Schema.Valuation
import EventTracking.Value.Equality
import Mathlib.Data.Set.List

/-!
This module contains rule sets as values: how their rules are written, what evaluating them comes to, and the
theorem that the test of a value, the check that makes a rule set of it and the evaluation of both agree.
-/

namespace EventTracking

/-! ### Data -/

namespace Value

inductive IsData : Value → Prop where
  | null : IsData .null
  | bool (b : Bool) : IsData (.bool b)
  | int (n : Int) : IsData (.int n)
  | float (x : Binary64) : IsData (.float x)
  | nan (object : Nat) : IsData (.nan object)
  | str (s : String) : IsData (.str s)
  | list {xs : List Value} (items : ∀ x ∈ xs, IsData x) : IsData (.list xs)
  | tuple {xs : List Value} (items : ∀ x ∈ xs, IsData x) : IsData (.tuple xs)
  | object {es : List (Value × Value)} (keys : ∀ e ∈ es, IsData e.1) (values : ∀ e ∈ es, IsData e.2) :
      IsData (.object es)

variable {v : Value} {xs : List Value} {s : String} {texts : List String}

theorem IsData.forall_mem_items? (h : v.IsData) (hitems : v.items? = some xs) : ∀ x ∈ xs, x.IsData := by
  cases h with
  | list items =>
    cases hitems
    exact items
  | tuple items =>
    cases hitems
    exact items
  | _ => cases hitems

theorem IsData.listItems?_eq (h : v.IsData) : Check.listItems? v = v.items? := by
  cases h <;> rfl

theorem IsData.eq_str_of_text (h : v.IsData) (htext : Check.text v = .ok s) : v = .str s := by
  cases h <;> cases htext
  rfl

theorem eq_map_str_of_forall₂ (h : ∀ x ∈ xs, x.IsData)
    (htexts : List.Forall₂ (fun x text => Check.text x = .ok text) xs texts) : xs = texts.map .str := by
  induction htexts with
  | nil => rfl
  | cons htext _ ih =>
    obtain ⟨hx, hxs⟩ := List.forall_mem_cons.1 h
    rw [List.map_cons, hx.eq_str_of_text htext, ih hxs]

theorem exists_texts_iff : (∃ texts : List String, texts.map .str = xs) ↔ ∀ x ∈ xs, x.text?.isSome = true := by
  have hrange : ∀ x : Value, x ∈ Set.range Value.str ↔ x.text?.isSome = true := by
    intro x
    cases x <;> simp [text?]
  have hmap := Set.ext_iff.1 (Set.range_list_map Value.str) xs
  simpa only [Set.mem_range, Set.mem_ofPred_eq, ← hrange] using hmap

theorem IsData.items?_of_list_text (h : v.IsData) (htexts : Check.list Check.text v = .ok texts) :
    v.items? = some (texts.map .str) := by
  rw [Check.list_eq_ok_iff, h.listItems?_eq] at htexts
  obtain ⟨xs, hitems, hxs⟩ := htexts
  rw [hitems, eq_map_str_of_forall₂ (h.forall_mem_items? hitems) hxs]

theorem list_text_of_items? (hitems : v.items? = some (texts.map .str)) :
    Check.list Check.text v = .ok texts := by
  have hlist : Check.listItems? v = some (texts.map .str) := by
    cases v <;> first | exact hitems | cases hitems
  rw [Check.list_eq_ok_iff]
  refine ⟨_, hlist, ?_⟩
  rw [List.forall₂_map_left_iff, List.forall₂_same]
  exact fun _ _ => rfl

theorem same_str (s : String) : same (.str s) (.str s) = true := by
  simp [same, isNan, sameItem, sameLeaf, exactValue?]

theorem field?_of_mem {name : String} {es : List (Value × Value)}
    (different : es.Pairwise fun e f => ¬ same e.1 f.1 = true) (h : (.str name, v) ∈ es) :
    (object es).field? name = some v := by
  induction es with
  | nil => cases h
  | cons e es ih =>
    obtain ⟨hdifferent, hrest⟩ := List.pairwise_cons.1 different
    rcases List.mem_cons.1 h with rfl | h
    . simp [field?, isKey]
    . have hkey : ¬ e.1.isKey name = true := by
        rw [isKey_iff]
        intro hname
        apply hdifferent _ h
        rw [hname, same_str]
      have hskip : (object (e :: es)).field? name = (object es).field? name := by
        simp [field?, hkey]
      rw [hskip, ih hrest h]

end Value

namespace Schema

variable {m v : Value} {s : String} {rules : Rules}

/-! ### Rules as values -/

def checkTexts (v : Value) : Checked Rules := do
  let texts ← Check.list Check.text v
  if h : texts.all isRule = true then return ⟨texts, h⟩
  else .fail (.refused (invalidRules (texts.filter fun t => !isRule t)))

theorem checkTexts_eq_ok_iff : checkTexts v = .ok rules ↔ Check.list Check.text v = .ok rules.1 :=
  Checked.refined_eq_ok_iff (p := fun texts : List String => texts.all isRule = true)

inductive Writes : Rules → Value → Prop where
  | single {text : String} (valid : [text].all isRule = true) : Writes ⟨[text], valid⟩ (.str text)
  | several {rules : Rules} {v : Value} (items : v.items? = some (rules.1.map .str)) : Writes rules v

theorem isRuleValue_str (text : String) : isRuleValue (.str text) = isRule text := rfl

theorem exists_rules_of_all {xs : List Value} (h : xs.all isRuleValue = true) :
    ∃ rules : Rules, xs = rules.1.map .str := by
  have htexts : ∀ x ∈ xs, x.text?.isSome = true := by
    intro x hx
    have hrule := List.all_eq_true.1 h x hx
    cases x <;> first | rfl | cases hrule
  obtain ⟨texts, rfl⟩ := Value.exists_texts_iff.2 htexts
  refine ⟨⟨texts, ?_⟩, rfl⟩
  rw [List.all_map] at h
  exact h

theorem exists_writes (h : isRuleArgument v = true) : ∃ rules, Writes rules v := by
  unfold isRuleArgument at h
  split at h
  . next xs hitems =>
    obtain ⟨rules, rfl⟩ := exists_rules_of_all h
    exact ⟨rules, .several hitems⟩
  . cases v <;> try cases h
    next text =>
      exact ⟨_, .single (Bool.and_eq_true_iff.2 ⟨h, rfl⟩)⟩

namespace Writes

theorem isRuleArgument (h : Writes rules v) : Schema.isRuleArgument v = true := by
  cases h with
  | single valid => simpa [Schema.isRuleArgument, Value.items?, isRuleValue_str] using valid
  | several items =>
    rw [Schema.isRuleArgument, items]
    dsimp only
    rw [List.all_map]
    exact rules.2

theorem rulesOf (h : Writes rules v) : Schema.rulesOf v = .ok (rules.1.map .str) := by
  cases h with
  | single => rfl
  | several items =>
    cases v <;> cases items
    . rfl
    . rfl

theorem checkSide (h : Writes rules v) : Schema.checkSide v = .ok rules := by
  cases h with
  | single => exact checkTexts_eq_ok_iff.2 (Value.list_text_of_items? rfl)
  | several items =>
    have htexts := checkTexts_eq_ok_iff.2 (Value.list_text_of_items? items)
    cases v <;> first | exact htexts | cases items

theorem of_checkSide (data : v.IsData) (h : Schema.checkSide v = .ok rules) : Writes rules v := by
  have hv := data
  cases data with
  | str text =>
    have htext : Check.list Check.text (.list [.str text]) = .ok [text] := Value.list_text_of_items? rfl
    obtain ⟨texts, valid⟩ := rules
    cases htext.symm.trans (checkTexts_eq_ok_iff.1 h)
    exact .single valid
  | _ => exact .several (hv.items?_of_list_text (checkTexts_eq_ok_iff.1 h))

end Writes

/-! ### Invalid rules in a list -/

def Rules.among (texts : List String) : Rules := ⟨texts.filter isRule, by simp⟩

def Rules.amongValues (vs : List Value) : Rules := .among (vs.filterMap Value.text?)

theorem Rules.among_eq_self (rules : Rules) : Rules.among rules.1 = rules :=
  Subtype.ext (List.filter_eq_self.2 (List.all_eq_true.1 rules.2))

theorem Rules.amongValues_texts (texts : List String) :
    Rules.amongValues (texts.map .str) = Rules.among texts := by
  rw [amongValues, List.filterMap_map]
  exact congrArg Rules.among List.filterMap_some

theorem isRule_of_ruleAdmits {rule : String} (h : ruleAdmits rule s = true) : isRule rule = true := by
  unfold ruleAdmits at h
  split at h
  . next r _ hr _ => rw [isRule, hr, Option.isSome_some]
  . cases h

theorem any_ruleValueAdmits (vs : List Value) (s : String) :
    vs.any (ruleValueAdmits · (.str s)) = (Rules.amongValues vs).1.any (ruleAdmits · s) := by
  rw [Bool.eq_iff_iff, List.any_eq_true, List.any_eq_true]
  constructor
  . rintro ⟨v, hv, hadmits⟩
    unfold ruleValueAdmits at hadmits
    split at hadmits
    . next rule text htext =>
      cases htext
      refine ⟨rule, ?_, hadmits⟩
      exact List.mem_filter.2 ⟨List.mem_filterMap.2 ⟨_, hv, rfl⟩, isRule_of_ruleAdmits hadmits⟩
    . cases hadmits
  . rintro ⟨rule, hrule, hadmits⟩
    obtain ⟨v, hv, htext⟩ := List.mem_filterMap.1 (List.mem_filter.1 hrule).1
    refine ⟨v, hv, ?_⟩
    cases v <;> cases htext
    exact hadmits

/-! ### Rule sets as values -/

section

variable {accepting rejecting : List Value}

def RuleSet.heeding (accepting rejecting : List Value) : RuleSet :=
  .ofRules (.amongValues accepting) (.amongValues rejecting)

theorem RuleSet.heeding_admits (accepting rejecting : List Value) (s : String) :
    (heeding accepting rejecting).admits s
      =
    (!rejecting.any (ruleValueAdmits · (.str s)) && accepting.any (ruleValueAdmits · (.str s))) := by
  rw [any_ruleValueAdmits, any_ruleValueAdmits]
  rfl

theorem valueAdmits_of_rejecting (hr : rulesOf (side "reject" m) = .ok rejecting) (schema : Value) :
    valueAdmits m schema
      =
    if rejecting.any (ruleValueAdmits · schema) = true then
      .ok false
    else
      (rulesOf (side "accept" m)).map fun accepting => accepting.any (ruleValueAdmits · schema) := by
  rw [valueAdmits, hr]
  cases rulesOf (side "accept" m) <;> rfl

theorem valueAdmits_of_sides (ha : rulesOf (side "accept" m) = .ok accepting)
    (hr : rulesOf (side "reject" m) = .ok rejecting) (s : String) :
    valueAdmits m (.str s) = .ok ((RuleSet.heeding accepting rejecting).admits s) := by
  rw [RuleSet.heeding_admits, valueAdmits_of_rejecting hr, ha]
  cases rejecting.any (ruleValueAdmits · (.str s)) <;> rfl

theorem valueAdmits_eq_ok_true_iff {schema : Value} :
    valueAdmits m schema = .ok true
      ↔
    ∃ accepting rejecting, rulesOf (side "accept" m) = .ok accepting
      ∧ rulesOf (side "reject" m) = .ok rejecting
      ∧ rejecting.any (ruleValueAdmits · schema) = false
      ∧ accepting.any (ruleValueAdmits · schema) = true := by
  constructor
  . intro h
    rcases hr : rulesOf (side "reject" m) with f | rejecting
    . rw [valueAdmits, hr] at h
      cases h
    . rw [valueAdmits_of_rejecting hr] at h
      split at h
      . cases h
      . next hrejected =>
        rcases ha : rulesOf (side "accept" m) with f | accepting
        . rw [ha] at h
          cases h
        . rw [ha] at h
          exact ⟨accepting, rejecting, rfl, rfl, Bool.eq_false_iff.2 hrejected, Except.ok.inj h⟩
  . rintro ⟨accepting, rejecting, ha, hr, hrejected, haccepted⟩
    rw [valueAdmits_of_rejecting hr, if_neg (Bool.eq_false_iff.1 hrejected), ha]
    exact congrArg Except.ok haccepted

theorem valueAdmits_eq_error_iff {schema : Value} {f : Fault} :
    valueAdmits m schema = .error f
      ↔
    rulesOf (side "reject" m) = .error f
      ∨ ∃ rejecting, rulesOf (side "reject" m) = .ok rejecting
          ∧ rejecting.any (ruleValueAdmits · schema) = false ∧ rulesOf (side "accept" m) = .error f := by
  rcases hr : rulesOf (side "reject" m) with g | rejecting
  . have hvalue : valueAdmits m schema = .error g := by
      rw [valueAdmits, hr]
      rfl
    simp [hvalue]
  . rw [valueAdmits_of_rejecting hr]
    simp only [reduceCtorEq, false_or, Except.ok.injEq, exists_eq_left']
    cases rejecting.any (ruleValueAdmits · schema) with
    | true => simp
    | false => cases rulesOf (side "accept" m) <;> simp [Except.map]

theorem valueAdmits_eq_true_iff :
    valueAdmits m (.str s) = .ok true
      ↔
    ∃ accepting rejecting, rulesOf (side "accept" m) = .ok accepting
      ∧ rulesOf (side "reject" m) = .ok rejecting
      ∧ (RuleSet.heeding accepting rejecting).admits s = true := by
  rw [valueAdmits_eq_ok_true_iff]
  simp only [RuleSet.heeding_admits, Bool.and_eq_true, Bool.not_eq_true']

end

/-! ### Sides of an object -/

inductive GivesSide (name : String) (v : Value) : Rules → Prop where
  | absent (missing : v.field? name = none) : GivesSide name v .empty
  | present {w : Value} {rules : Rules} (found : v.field? name = some w) (writes : Writes rules w) :
      GivesSide name v rules

namespace GivesSide

variable {name : String}

theorem field (h : GivesSide name v rules) : Check.field name (.ok .empty) checkSide v = .ok rules := by
  rw [Check.field, Checked.under_eq_ok_iff]
  cases h with
  | absent missing => rw [missing]
  | present found writes =>
    rw [found]
    exact writes.checkSide

theorem of_field {es : List (Value × Value)} (data : ∀ e ∈ es, e.2.IsData)
    (h : Check.field name (.ok .empty) checkSide (.object es) = .ok rules) :
    GivesSide name (.object es) rules := by
  rw [Check.field, Checked.under_eq_ok_iff] at h
  cases hfield : (Value.object es).field? name with
  | none =>
    rw [hfield] at h
    cases h
    exact .absent hfield
  | some w =>
    rw [hfield] at h
    obtain ⟨e, he, rfl⟩ := Option.map_eq_some_iff.1 hfield
    exact .present hfield (.of_checkSide (data e (List.mem_of_find?_eq_some he)) h)

theorem rulesOf (h : GivesSide name v rules) :
    Schema.rulesOf ((v.field? name).getD .null) = .ok (rules.1.map .str) := by
  cases h with
  | absent missing =>
    rw [missing]
    rfl
  | present found writes =>
    rw [found]
    exact writes.rulesOf

end GivesSide

/-! ### Valid rule sets -/

section

variable {es : List (Value × Value)}

theorem isRuleSetValue_object_iff :
    isRuleSetValue (.object es) = true
      ↔
    es ≠ [] ∧ (∀ e ∈ es, ∃ name ∈ ["accept", "reject"], e.1.isKey name = true)
      ∧ ∀ e ∈ es, isRuleArgument e.2 = true := by
  simp only [isRuleSetValue, Bool.and_eq_true, Bool.not_eq_true', List.isEmpty_eq_false_iff,
    List.all_eq_true, Bool.or_eq_true, List.mem_cons, List.not_mem_nil, or_false, exists_eq_or_imp,
    exists_eq_left, forall_and]

theorem exists_givesSide (h : isRuleSetValue (.object es) = true) (name : String) :
    ∃ rules, GivesSide name (.object es) rules := by
  cases hfield : (Value.object es).field? name with
  | none => exact ⟨.empty, .absent hfield⟩
  | some w =>
    obtain ⟨e, he, rfl⟩ := Option.map_eq_some_iff.1 hfield
    obtain ⟨rules, hwrites⟩ :=
      exists_writes ((isRuleSetValue_object_iff.1 h).2.2 e (List.mem_of_find?_eq_some he))
    exact ⟨rules, .present hfield hwrites⟩

theorem RuleSet.check_object {accept reject : Rules} (haccept : GivesSide "accept" (.object es) accept)
    (hreject : GivesSide "reject" (.object es) reject)
    (hkeys : ∀ e ∈ es, ∃ name ∈ ["accept", "reject"], e.1.isKey name = true) :
    check (.object es) = .ok (.ofRules accept reject) := by
  rw [check]
  dsimp only
  rw [haccept.field, hreject.field, Check.declared_eq_ok_iff.2 hkeys]
  rfl

theorem RuleSet.ofValue?_object {accept reject : Rules} (h : isRuleSetValue (.object es) = true)
    (haccept : GivesSide "accept" (.object es) accept) (hreject : GivesSide "reject" (.object es) reject) :
    ofValue? (.object es) = some (.ofRules accept reject) := by
  rw [ofValue?, if_pos h, check_object haccept hreject (isRuleSetValue_object_iff.1 h).2.1]
  . rfl
  . rintro r ⟨⟩

theorem exists_ofValue? (h : isRuleSetValue (.object es) = true) :
    ∃ accept reject : Rules, RuleSet.ofValue? (.object es) = some (.ofRules accept reject)
      ∧ GivesSide "accept" (.object es) accept ∧ GivesSide "reject" (.object es) reject := by
  obtain ⟨accept, haccept⟩ := exists_givesSide h "accept"
  obtain ⟨reject, hreject⟩ := exists_givesSide h "reject"
  exact ⟨accept, reject, RuleSet.ofValue?_object h haccept hreject, haccept, hreject⟩

theorem isRuleSetValue_of_ofValue? {r : RuleSet} (h : RuleSet.ofValue? (.object es) = some r) :
    isRuleSetValue (.object es) = true := by
  by_contra hn
  rw [RuleSet.ofValue?, if_neg hn] at h
  . cases h
  . rintro r ⟨⟩

end

theorem RuleSet.heeding_texts (accept reject : Rules) :
    RuleSet.heeding (accept.1.map .str) (reject.1.map .str) = .ofRules accept reject := by
  rw [heeding, Rules.amongValues_texts, Rules.amongValues_texts, Rules.among_eq_self, Rules.among_eq_self]

theorem valueAdmits_of_ofValue? {r : RuleSet} (h : RuleSet.ofValue? m = some r) (s : String) :
    valueAdmits m (.str s) = .ok (r.admits s) := by
  cases m with
  | object es =>
    obtain ⟨accept, reject, hvalue, haccept, hreject⟩ := exists_ofValue? (isRuleSetValue_of_ofValue? h)
    cases h.symm.trans hvalue
    have hsides := valueAdmits_of_sides (m := .object es) haccept.rulesOf hreject.rulesOf s
    rw [hsides, RuleSet.heeding_texts]
  | ruleSet r' =>
    cases h
    have hsides : valueAdmits (.ruleSet r) (.str s)
        = .ok ((RuleSet.heeding (r.accept.map .str) (r.reject.map .str)).admits s) :=
      valueAdmits_of_sides rfl rfl s
    rw [hsides]
    exact congrArg (fun r => Except.ok (r.admits s))
      (RuleSet.heeding_texts ⟨r.accept, r.accept_valid⟩ ⟨r.reject, r.reject_valid⟩)
  | _ => cases h

/-! ### Agreement of the test, the check and the evaluation -/

section

variable {es : List (Value × Value)} {r : RuleSet}

theorem RuleSet.sides_of_check (data : ∀ e ∈ es, e.2.IsData) (h : check (.object es) = .ok r) :
    (∀ e ∈ es, ∃ name ∈ ["accept", "reject"], e.1.isKey name = true)
      ∧ ∀ name ∈ ["accept", "reject"], ∃ rules, GivesSide name (.object es) rules := by
  obtain ⟨⟨⟨accept, reject⟩, _⟩, hboth, _⟩ := Checked.map_eq_ok_iff.1 h
  obtain ⟨hsides, hkeys⟩ := Checked.both_eq_ok_iff.1 hboth
  obtain ⟨haccept, hreject⟩ := Checked.both_eq_ok_iff.1 hsides
  refine ⟨Check.declared_eq_ok_iff.1 hkeys, ?_⟩
  intro name hname
  simp only [List.mem_cons, List.not_mem_nil, or_false] at hname
  rcases hname with rfl | rfl
  . exact ⟨accept, .of_field data haccept⟩
  . exact ⟨reject, .of_field data hreject⟩

theorem GivesSide.isRuleArgument {name : String} (h : GivesSide name m rules) (hfield : m.field? name = some v) :
    isRuleArgument v = true := by
  cases h with
  | absent missing => cases missing.symm.trans hfield
  | present found writes =>
    cases found.symm.trans hfield
    exact writes.isRuleArgument

theorem isRuleSetValue_of_check (different : es.Pairwise fun e f => ¬ Value.same e.1 f.1 = true)
    (data : ∀ e ∈ es, e.2.IsData) (hne : es ≠ []) (h : RuleSet.check (.object es) = .ok r) :
    isRuleSetValue (.object es) = true := by
  obtain ⟨hkeys, hsides⟩ := RuleSet.sides_of_check data h
  rw [isRuleSetValue_object_iff]
  refine ⟨hne, hkeys, ?_⟩
  intro e he
  obtain ⟨name, hname, hkey⟩ := hkeys e he
  obtain ⟨rules, hside⟩ := hsides name hname
  apply hside.isRuleArgument
  apply Value.field?_of_mem different
  rw [← Value.isKey_iff.1 hkey]
  exact he

theorem RuleSet.check_toValue (r : RuleSet) : check r.toValue = .ok r := by
  let accept : Rules := ⟨r.accept, r.accept_valid⟩
  let reject : Rules := ⟨r.reject, r.reject_valid⟩
  have haccept : GivesSide "accept" r.toValue accept := .present rfl (.several rfl)
  have hreject : GivesSide "reject" r.toValue reject := .present rfl (.several rfl)
  apply RuleSet.check_object haccept hreject
  simp [Value.isKey]

/--
An object of data is checked as a rule set exactly if it is empty or passes the test of rule sets, and is read
as one exactly if it passes the test. It then has the rules that it gives as its two sides, is checked again from
its own value, and admits the same schemas as the object.
-/
theorem RuleSet.validators_agree (different : es.Pairwise fun e f => ¬ Value.same e.1 f.1 = true)
    (data : ∀ e ∈ es, e.2.IsData) :
    ((∃ r, check (.object es) = .ok r) ↔ es = [] ∨ isRuleSetValue (.object es) = true)
      ∧ ((∃ r, ofValue? (.object es) = some r) ↔ isRuleSetValue (.object es) = true)
      ∧ (isRuleSetValue (.object es) = true →
          ∃ accept reject : Rules,
            GivesSide "accept" (.object es) accept ∧ GivesSide "reject" (.object es) reject
              ∧ check (.object es) = .ok (.ofRules accept reject)
              ∧ ofValue? (.object es) = some (.ofRules accept reject)
              ∧ check (ofRules accept reject).toValue = .ok (.ofRules accept reject)
              ∧ ∀ s, valueAdmits (.object es) (.str s) = .ok ((ofRules accept reject).admits s)
                  ∧ valueAdmits (.ruleSet (.ofRules accept reject)) (.str s)
                      = .ok ((ofRules accept reject).admits s)) := by
  refine ⟨?_, ?_, ?_⟩
  . constructor
    . rintro ⟨r, h⟩
      by_cases hne : es = []
      . exact Or.inl hne
      . exact Or.inr (isRuleSetValue_of_check different data hne h)
    . rintro (rfl | h)
      . exact ⟨.empty, rfl⟩
      . obtain ⟨accept, haccept⟩ := exists_givesSide h "accept"
        obtain ⟨reject, hreject⟩ := exists_givesSide h "reject"
        exact ⟨_, check_object haccept hreject (isRuleSetValue_object_iff.1 h).2.1⟩
  . constructor
    . rintro ⟨r, h⟩
      exact isRuleSetValue_of_ofValue? h
    . intro h
      obtain ⟨accept, reject, hvalue, _⟩ := exists_ofValue? h
      exact ⟨_, hvalue⟩
  . intro h
    obtain ⟨accept, reject, hvalue, haccept, hreject⟩ := exists_ofValue? h
    have hcheck := check_object haccept hreject (isRuleSetValue_object_iff.1 h).2.1
    refine ⟨accept, reject, haccept, hreject, hcheck, hvalue, check_toValue _, ?_⟩
    intro s
    exact ⟨valueAdmits_of_ofValue? hvalue s, valueAdmits_of_ofValue? rfl s⟩

def bothSides : List (Value × Value) :=
  [(.str "reject", .tuple [.str "com.acme/cart/jsonschema/*-*-*", .str "com.acme/cart/jsonschema/1-0-0"]),
    (.str "accept", .str "iglu:com.acme.*/*/jsonschema/1-*-*")]

theorem isData_bothSides : ∀ e ∈ bothSides, e.2.IsData := by
  rw [bothSides, List.forall_mem_cons, List.forall_mem_singleton]
  refine ⟨.tuple ?_, .str _⟩
  rw [List.forall_mem_cons, List.forall_mem_singleton]
  exact ⟨.str _, .str _⟩

theorem RuleSet.validators_agree_bothSides :
    (bothSides.Pairwise fun e f => ¬ Value.same e.1 f.1 = true) ∧ (∀ e ∈ bothSides, e.2.IsData)
      ∧ isRuleSetValue (.object bothSides) = true
      ∧ ∃ accept reject : Rules,
          GivesSide "accept" (.object bothSides) accept ∧ GivesSide "reject" (.object bothSides) reject
            ∧ check (.object bothSides) = .ok (.ofRules accept reject) := by
  have different : bothSides.Pairwise fun e f => ¬ Value.same e.1 f.1 = true := by decide +kernel
  have htest : isRuleSetValue (.object bothSides) = true := by decide +kernel
  obtain ⟨_, _, hagree⟩ := validators_agree different isData_bothSides
  obtain ⟨accept, reject, haccept, hreject, hcheck, _⟩ := hagree htest
  exact ⟨different, isData_bothSides, htest, accept, reject, haccept, hreject, hcheck⟩

end

end Schema

end EventTracking
