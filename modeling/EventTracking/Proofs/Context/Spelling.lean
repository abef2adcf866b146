import EventTracking.Proofs.Context.Recognition
import EventTracking.Proofs.Context.Snapshots

/-!
This module contains the ways of writing a registration, and the theorem that they are all the same to a registry:
a registration that has been added in one of them is removed in any other.
-/

namespace EventTracking

open Schema (Rules RuleSet GivesSide)

variable {v w : Value}

/-! ### Rule sets -/

namespace Schema.RuleSet

variable {r : RuleSet}

inductive Writes : RuleSet → Value → Prop where
  | model (r : RuleSet) : Writes r (.ruleSet r)
  | object {es : List (Value × Value)} {accept reject : Rules} (nonempty : es ≠ [])
      (sides : ∀ e ∈ es, (∃ name ∈ ["accept", "reject"], e.1.isKey name = true) ∧ ∃ rules, Schema.Writes rules e.2)
      (accepting : GivesSide "accept" (.object es) accept) (rejecting : GivesSide "reject" (.object es) reject) :
      Writes (.ofRules accept reject) (.object es)

theorem ofValue?_of_writes (h : Writes r v) : ofValue? v = some r := by
  cases h with
  | model => rfl
  | @object es _ _ nonempty sides accepting rejecting =>
    have htest : isRuleSetValue (.object es) = true := by
      refine isRuleSetValue_object_iff.2 ⟨nonempty, fun e he => (sides e he).1, ?_⟩
      intro e he
      obtain ⟨rules, hrules⟩ := (sides e he).2
      exact hrules.isRuleArgument
    exact ofValue?_object htest accepting rejecting

theorem writes_of_ofValue? (h : ofValue? v = some r) : Writes r v := by
  cases v with
  | ruleSet =>
    cases h
    exact .model r
  | object es =>
    have htest := isRuleSetValue_of_ofValue? h
    obtain ⟨accept, reject, hvalue, haccept, hreject⟩ := exists_ofValue? htest
    cases h.symm.trans hvalue
    obtain ⟨hne, hkeys, harguments⟩ := isRuleSetValue_object_iff.1 htest
    exact .object hne (fun e he => ⟨hkeys e he, exists_writes (harguments e he)⟩) haccept hreject
  | _ => cases h

theorem ofValue?_eq_some_iff : ofValue? v = some r ↔ Writes r v := ⟨writes_of_ofValue?, ofValue?_of_writes⟩

end Schema.RuleSet

/-! ### Primitives -/

namespace Primitive

variable {p : Primitive} {ps : List Primitive}

inductive Writes : Primitive → Value → Prop where
  | made (p : Primitive) (object : Nat) : Writes p (.primitive p object)
  | entity {v : Value} (valid : v.isSelfDescribing = true) : Writes (.fixed v) v
  | callable {f : Callable} (valid : f.isCallback = true) : Writes (.generator f) (.callable f)

theorem ofValue?_of_writes (h : Writes p v) : ofValue? v = some p := by
  cases h with
  | made => rfl
  | entity valid => exact ofValue?_of_isSelfDescribing valid
  | callable valid => exact if_pos valid

theorem writes_of_ofValue? (h : ofValue? v = some p) : Writes p v := by
  unfold ofValue? at h
  split at h
  . cases h
    exact .made p _
  . split at h
    . next valid =>
      cases h
      exact .entity valid
    . split at h
      . split at h
        . next valid =>
          cases h
          exact .callable valid
        . cases h
      . cases h

theorem ofValue?_eq_some_iff : ofValue? v = some p ↔ Writes p v := ⟨writes_of_ofValue?, ofValue?_of_writes⟩

theorem Writes.items? (h : Writes p v) : v.items? = none := by
  cases h with
  | entity valid =>
    cases v with
    | object => rfl
    | _ => cases valid
  | _ => rfl

inductive WritesAll : List Primitive → Value → Prop where
  | single {p : Primitive} {v : Value} (h : Writes p v) : WritesAll [p] v
  | several {ps : List Primitive} {xs : List Value} {v : Value} (items : v.items? = some xs)
      (each : List.Forall₂ Writes ps xs) : WritesAll ps v

theorem allOfValue?_eq_some_iff_writesAll : allOfValue? v = some ps ↔ WritesAll ps v := by
  simp only [allOfValue?_eq_some_iff, ofValue?_eq_some_iff]
  constructor
  . intro h
    cases hitems : v.items? with
    | some xs =>
      rw [hitems] at h
      exact .several hitems h.flip
    | none =>
      rw [hitems] at h
      cases h with
      | cons hp hnil =>
        cases hnil
        exact .single hp
  . intro h
    cases h with
    | single h =>
      rw [h.items?]
      exact .cons h .nil
    | several items each =>
      rw [items]
      exact each.flip

end Primitive

/-! ### Conditional providers -/

theorem Value.pair?_eq_some_iff {a b : Value} : v.pair? = some (a, b) ↔ v.items? = some [a, b] := by
  unfold pair?
  split
  . next hitems => simp [hitems]
  . next hitems =>
    simp only [reduceCtorEq, false_iff]
    exact hitems a b

namespace Provider

variable {p : Provider}

inductive Writes : Provider → Value → Prop where
  | made (p : Provider) (object : Nat) : Writes p (.provider p object)
  | filter {f : Callable} {ps : List Primitive} {primitives v : Value}
      (items : v.items? = some [.callable f, primitives]) (valid : f.isCallback = true)
      (each : Primitive.WritesAll ps primitives) : Writes (.filter f ps) v
  | ruled {r : RuleSet} {ps : List Primitive} {rules primitives v : Value}
      (items : v.items? = some [rules, primitives]) (criterion : r.Writes rules)
      (each : Primitive.WritesAll ps primitives) : Writes (.ruled r ps) v

theorem ofValue?_of_writes (h : Writes p v) : ofValue? v = some p := by
  cases h with
  | made => rfl
  | filter items valid each =>
    rw [ofValue?_eq_filter_of_pair (Value.pair?_eq_some_iff.2 items)]
    exact ⟨⟨rfl, valid⟩, Primitive.allOfValue?_eq_some_iff_writesAll.2 each⟩
  | ruled items criterion each =>
    rw [ofValue?_eq_ruled_of_pair (Value.pair?_eq_some_iff.2 items)]
    exact ⟨RuleSet.ofValue?_eq_some_iff.2 criterion, Primitive.allOfValue?_eq_some_iff_writesAll.2 each⟩

theorem writes_of_ofValue? (h : ofValue? v = some p) : Writes p v := by
  cases hpair : v.pair? with
  | none =>
    obtain ⟨n, rfl⟩ := eq_provider_of_no_pair hpair h
    exact .made p n
  | some pair =>
    obtain ⟨criterion, primitives⟩ := pair
    have hitems := Value.pair?_eq_some_iff.1 hpair
    cases p with
    | filter f ps =>
      obtain ⟨⟨hcallable, valid⟩, hps⟩ := (ofValue?_eq_filter_of_pair hpair).1 h
      cases criterion <;> cases hcallable
      exact .filter hitems valid (Primitive.allOfValue?_eq_some_iff_writesAll.1 hps)
    | ruled r ps =>
      obtain ⟨hr, hps⟩ := (ofValue?_eq_ruled_of_pair hpair).1 h
      exact .ruled hitems (RuleSet.ofValue?_eq_some_iff.1 hr) (Primitive.allOfValue?_eq_some_iff_writesAll.1 hps)

theorem ofValue?_eq_some_iff : ofValue? v = some p ↔ Writes p v := ⟨writes_of_ofValue?, ofValue?_of_writes⟩

end Provider

/-! ### Registrations -/

namespace Registry

variable {σ : Type} {r : Registry} {e : Entry}

namespace Entry

def Writes : Entry → Value → Prop
  | .primitive p, v => p.Writes v
  | .provider p, v => p.Writes v

def same : Entry → Entry → Bool
  | .primitive p, .primitive q => p.same q
  | .provider p, .provider q => p.same q
  | _, _ => false

theorem ofValue?_eq_some_iff : Entry.ofValue? v = some e ↔ e.Writes v := by
  cases e with
  | primitive p =>
    -- Primitives may as well be tried first.
    rw [Entry.ofValue?_eq, Writes, ← Primitive.ofValue?_eq_some_iff]
    cases Primitive.ofValue? v <;> simp
  | provider p =>
    rw [Entry.ofValue?, Writes, ← Provider.ofValue?_eq_some_iff]
    cases Provider.ofValue? v <;> simp

theorem IsOrderly.same_self (h : e.IsOrderly) : e.same e := by
  cases e with
  | primitive p => exact Primitive.same_self h
  | provider p => exact Provider.same_self h

theorem insertAll_singleton (h : e.Writes v) (r : Registry) : r.insertAll [v] = r.addEntry e := by
  rw [insertAll, List.foldl_cons, List.foldl_nil, insert, ofValue?_eq_some_iff.2 h]

theorem eraseAll_singleton (h : e.Writes v) (r : Registry) : r.eraseAll [v] = r.removeEntry e := by
  rw [eraseAll, List.foldl_cons, List.foldl_nil, erase, ofValue?_eq_some_iff.2 h]

end Entry

/--
All ways of writing a registration describe it, and nothing else does. A registry that holds no equal one is
restored if the registration is added in one way and removed in another.
-/
theorem restored_however_written (h : e.IsOrderly) (hv : e.Writes v) (hw : e.Writes w) :
    (∀ x, Entry.ofValue? x = some e ↔ e.Writes x)
      ∧ (∃ a b, Entry.ofValue? v = some a ∧ Entry.ofValue? w = some b ∧ a.same b = true)
      ∧ ∀ (r : Registry) (s : Session σ), r.holds e = false →
        ∃ s', (do let r' ← add (.list [v]) r; remove (.list [w]) r') s = (.ok r, s') := by
  refine ⟨fun x => Entry.ofValue?_eq_some_iff, ?_, ?_⟩
  . exact ⟨e, e, Entry.ofValue?_eq_some_iff.2 hv, Entry.ofValue?_eq_some_iff.2 hw, h.same_self⟩
  . intro r s hholds
    have hvisits : ∀ x, (Value.list [x]).elements? = some [x] := fun _ => rfl
    obtain ⟨s₁, hadd, _⟩ := add_run (hvisits v) r s
    obtain ⟨s₂, hremove, _⟩ := remove_run (hvisits w) (r.insertAll [v]) s₁
    refine ⟨s₂, ?_⟩
    rw [Act.bind_run hadd, hremove, Entry.insertAll_singleton hv, Entry.eraseAll_singleton hw,
      removeEntry_addEntry hholds h]

def everywhere (n : Int) : Entry :=
  .provider (.ruled (.ofRules Manifest.everySchema .empty) [.fixed (numbered "a" (.int n))])

def everywherePlain : Value :=
  .tuple [.object [(.str "reject", .list []), (.str "accept", .str "iglu:com.acme/*/jsonschema/*-*-*")],
    numbered "a" (.int 1)]

def everywhereMade : Value :=
  .list [.ruleSet (.ofRules Manifest.everySchema .empty), .tuple [.primitive (.fixed (numbered "a" (.int 1))) 0]]

theorem writes_everywherePlain : (everywhere 1).Writes everywherePlain := by
  have haccept : Schema.Writes Manifest.everySchema (.str "iglu:com.acme/*/jsonschema/*-*-*") :=
    .single Manifest.everySchema.2
  have hreject : Schema.Writes .empty (.list []) := .several rfl
  refine .ruled rfl (.object (List.cons_ne_nil _ _) ?_ (.present rfl haccept) (.present rfl hreject))
    (.single (.entity rfl))
  rw [List.forall_mem_cons, List.forall_mem_singleton]
  exact ⟨⟨⟨"reject", by simp, rfl⟩, _, hreject⟩, ⟨"accept", by simp, rfl⟩, _, haccept⟩

theorem writes_everywhereMade : (everywhere 1).Writes everywhereMade :=
  .ruled rfl (.model _) (.several rfl (.cons (.made _ _) .nil))

theorem restored_however_written_everywhere :
    (everywhere 1).IsOrderly
      ∧ (everywhere 1).Writes everywherePlain
      ∧ (everywhere 1).Writes everywhereMade
      ∧ (empty.addEntry (everywhere 2)).holds (everywhere 1) = false
      ∧ ∃ s', (do let r ← add (.list [everywherePlain]) (empty.addEntry (everywhere 2))
                  remove (.list [everywhereMade]) r) (.initial () (.whole 0) "" toString)
          = (.ok (empty.addEntry (everywhere 2)), s') := by
  have horderly : (everywhere 1).IsOrderly := by
    intro v hv
    cases List.mem_singleton.1 hv
    exact ⟨describesWellFormed_numbered "a" (Value.isWellFormed_of_leafKey? rfl) _ rfl _ List.mem_cons_self, rfl⟩
  have hholds : (empty.addEntry (everywhere 2)).holds (everywhere 1) = false := by decide +kernel
  obtain ⟨-, -, hrestored⟩ := restored_however_written horderly writes_everywherePlain writes_everywhereMade
  exact ⟨horderly, writes_everywherePlain, writes_everywhereMade, hholds, hrestored _ _ hholds⟩

end Registry

end EventTracking
