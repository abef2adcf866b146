import EventTracking.Proofs.Context.Removal
import EventTracking.Proofs.Schema.RuleSet

/-!
This module contains the recognition of registrations: the theorem that a value is recognized as a primitive or as
a conditional provider exactly if it is classified as one, so that the two never come into each other's way.
-/

namespace EventTracking

open Schema (RuleSet)

variable {v criterion primitives : Value}

/-! ### Primitives -/

theorem Value.isCallback_iff : v.isCallback = true ↔ ∃ f, v.callable? = some f ∧ f.isCallback = true := by
  rw [isCallback]
  cases v.callable? <;> simp

namespace Primitive

theorem recognizes_eq (v : Value) : recognizes v = (ofValue? v).isSome := by
  cases v with
  | callable f =>
    have hvalue : ofValue? (.callable f) = if f.isCallback then some (.generator f) else none := rfl
    rw [hvalue, recognizes, Value.isCallback]
    . cases hf : f.isCallback <;> simp [Value.callable?, Value.isSelfDescribing, Value.field?, hf]
    . rintro p n ⟨⟩
  | object es =>
    have hvalue : ofValue? (.object es)
        = if (Value.object es).isSelfDescribing then some (.fixed (.object es)) else none := rfl
    rw [hvalue, recognizes]
    . cases hes : (Value.object es).isSelfDescribing <;> simp [Value.isCallback, Value.callable?]
    . rintro p n ⟨⟩
  | _ => rfl

theorem recognizes_iff : recognizes v = true ↔ ∃ p, ofValue? v = some p := by
  rw [recognizes_eq, Option.isSome_iff_exists]

theorem recognizesAll_eq (v : Value) : recognizesAll v = (allOfValue? v).isSome := by
  have hmapM : ∀ xs : List Value, (xs.mapM ofValue?).isSome = xs.all recognizes := by
    intro xs
    induction xs with
    | nil => rfl
    | cons x xs ih =>
      rw [List.mapM_cons, List.all_cons, ← ih, recognizes_eq]
      cases ofValue? x with
      | none => rfl
      | some p => cases xs.mapM ofValue? <;> rfl
  unfold recognizesAll allOfValue?
  rw [hmapM]
  cases v.items? with
  | none => simp
  | some xs => rfl

theorem recognizesAll_iff : recognizesAll v = true ↔ ∃ ps, allOfValue? v = some ps := by
  rw [recognizesAll_eq, Option.isSome_iff_exists]

end Primitive

/-! ### Conditional providers -/

theorem Schema.RuleSet.callable?_eq_none {r : RuleSet} (h : ofValue? v = some r) : v.callable? = none := by
  cases v with
  | callable => cases h
  | _ => rfl

namespace Provider

variable {f : Callable} {r : RuleSet} {ps qs : List Primitive}

theorem ofCriterion?_eq_filter_iff :
    ofCriterion? criterion ps = some (.filter f qs)
      ↔
    (criterion.callable? = some f ∧ f.isCallback = true) ∧ ps = qs := by
  unfold ofCriterion?
  cases criterion.callable? with
  | none => simp
  | some g =>
    dsimp only
    split
    . next hg =>
      simp only [Option.some.injEq, filter.injEq]
      constructor
      . rintro ⟨rfl, rfl⟩
        exact ⟨⟨rfl, hg⟩, rfl⟩
      . rintro ⟨⟨rfl, _⟩, rfl⟩
        exact ⟨rfl, rfl⟩
    . next hg =>
      simp only [reduceCtorEq, false_iff]
      rintro ⟨⟨⟨⟩, hf⟩, _⟩
      exact hg hf

theorem ofCriterion?_eq_ruled_iff :
    ofCriterion? criterion ps = some (.ruled r qs) ↔ RuleSet.ofValue? criterion = some r ∧ ps = qs := by
  unfold ofCriterion?
  cases hcriterion : criterion.callable? with
  | none => simp
  | some g =>
    have hnone : RuleSet.ofValue? criterion ≠ some r := by
      intro h
      cases hcriterion.symm.trans (RuleSet.callable?_eq_none h)
    simp [hnone]

theorem ofValue?_of_pair (h : v.pair? = some (criterion, primitives)) :
    ofValue? v = (Primitive.allOfValue? primitives).bind (ofCriterion? criterion) := by
  cases v with
  | list | tuple =>
    unfold ofValue?
    dsimp only
    rw [h]
  | _ => cases h

theorem eq_provider_of_no_pair {p : Provider} (hpair : v.pair? = none) (h : ofValue? v = some p) :
    ∃ n, v = .provider p n := by
  unfold ofValue? at h
  split at h
  . cases h
    exact ⟨_, rfl⟩
  . rw [hpair] at h
    cases h

theorem ofValue?_eq_filter_of_pair (h : v.pair? = some (criterion, primitives)) :
    ofValue? v = some (.filter f ps)
      ↔
    (criterion.callable? = some f ∧ f.isCallback = true) ∧ Primitive.allOfValue? primitives = some ps := by
  simp only [ofValue?_of_pair h, Option.bind_eq_some_iff, ofCriterion?_eq_filter_iff]
  constructor
  . rintro ⟨qs, hqs, hf, rfl⟩
    exact ⟨hf, hqs⟩
  . rintro ⟨hf, hps⟩
    exact ⟨ps, hps, hf, rfl⟩

theorem ofValue?_eq_ruled_of_pair (h : v.pair? = some (criterion, primitives)) :
    ofValue? v = some (.ruled r ps)
      ↔
    RuleSet.ofValue? criterion = some r ∧ Primitive.allOfValue? primitives = some ps := by
  simp only [ofValue?_of_pair h, Option.bind_eq_some_iff, ofCriterion?_eq_ruled_iff]
  constructor
  . rintro ⟨qs, hqs, hr, rfl⟩
    exact ⟨hr, hqs⟩
  . rintro ⟨hr, hps⟩
    exact ⟨ps, hps, hr, rfl⟩

theorem recognizesFilter_iff : recognizesFilter v = true ↔ ∃ f ps, ofValue? v = some (.filter f ps) := by
  unfold recognizesFilter
  split
  . next f ps _ => exact ⟨fun _ => ⟨f, ps, rfl⟩, fun _ => rfl⟩
  . next hprovider =>
    split
    . next criterion primitives hpair =>
      rw [Bool.and_eq_true, Value.isCallback_iff, Primitive.recognizesAll_iff]
      simp only [ofValue?_eq_filter_of_pair hpair, exists_and_left, exists_and_right]
    . next hpair =>
      simp only [Bool.false_eq_true, false_iff]
      rintro ⟨f, ps, h⟩
      obtain ⟨n, hv⟩ := eq_provider_of_no_pair hpair h
      exact hprovider f ps n hv

theorem recognizesRuled_iff : recognizesRuled v = true ↔ ∃ r ps, ofValue? v = some (.ruled r ps) := by
  unfold recognizesRuled
  split
  . next r ps _ => exact ⟨fun _ => ⟨r, ps, rfl⟩, fun _ => rfl⟩
  . next hprovider =>
    split
    . next criterion primitives hpair =>
      rw [Bool.and_eq_true, Option.isSome_iff_exists, Primitive.recognizesAll_iff]
      simp only [ofValue?_eq_ruled_of_pair hpair, exists_and_left, exists_and_right]
    . next hpair =>
      simp only [Bool.false_eq_true, false_iff]
      rintro ⟨r, ps, h⟩
      obtain ⟨n, hv⟩ := eq_provider_of_no_pair hpair h
      exact hprovider r ps n hv

theorem recognizes_eq (v : Value) : recognizes v = (ofValue? v).isSome := by
  rw [Bool.eq_iff_iff, Option.isSome_iff_exists, recognizes, Bool.or_eq_true, recognizesFilter_iff,
    recognizesRuled_iff]
  constructor
  . rintro (⟨f, ps, h⟩ | ⟨r, ps, h⟩)
    . exact ⟨_, h⟩
    . exact ⟨_, h⟩
  . rintro ⟨p, h⟩
    cases p with
    | filter f ps => exact Or.inl ⟨f, ps, h⟩
    | ruled r ps => exact Or.inr ⟨r, ps, h⟩

end Provider

/-! ### Registrations -/

theorem Primitive.ofValue?_eq_none {p : Provider} (h : Provider.ofValue? v = some p) : ofValue? v = none := by
  cases v with
  | list | tuple | provider => rfl
  | _ => cases h

theorem Schema.RuleSet.exists_check (h : isRuleSetValue v = true) : ∃ r, check v = .ok r := by
  cases v with
  | object es =>
    obtain ⟨accept, haccept⟩ := exists_givesSide h "accept"
    obtain ⟨reject, hreject⟩ := exists_givesSide h "reject"
    exact ⟨_, check_object haccept hreject (isRuleSetValue_object_iff.1 h).2.1⟩
  | _ => cases h

namespace Registry

variable {σ : Type}

theorem Entry.ofValue?_eq (v : Value) :
    Entry.ofValue? v
      =
    match Primitive.ofValue? v with
    | some p => some (.primitive p)
    | none => (Provider.ofValue? v).map .provider := by
  unfold Entry.ofValue?
  cases h : Provider.ofValue? v with
  | some p =>
    rw [Primitive.ofValue?_eq_none h]
    rfl
  | none => cases Primitive.ofValue? v <;> rfl

theorem primitivesOf_eq_filterMap (vs : List Value) : primitivesOf vs = vs.filterMap Primitive.ofValue? := by
  unfold primitivesOf
  congr 1
  funext v
  rw [Entry.ofValue?_eq]
  cases Primitive.ofValue? v with
  | some p => rfl
  | none => cases Provider.ofValue? v <;> rfl

theorem providersOf_eq_filterMap (vs : List Value) : providersOf vs = vs.filterMap Provider.ofValue? := by
  unfold providersOf Entry.ofValue?
  congr 1
  funext v
  cases Provider.ofValue? v with
  | some p => rfl
  | none => cases Primitive.ofValue? v <;> rfl

theorem countP_recognizes (vs : List Value) :
    (vs.countP fun v => Primitive.recognizes v || Provider.recognizes v)
      = (vs.filterMap Primitive.ofValue?).length + (vs.filterMap Provider.ofValue?).length := by
  rw [List.length_filterMap_eq_countP, List.length_filterMap_eq_countP]
  induction vs with
  | nil => rfl
  | cons v vs ih =>
    rw [List.countP_cons, List.countP_cons, List.countP_cons, ih, Primitive.recognizes_eq,
      Provider.recognizes_eq]
    cases h : Provider.ofValue? v with
    | some p =>
      -- A value that counts among the providers does not count among the primitives as well.
      rw [Primitive.ofValue?_eq_none h]
      simp [Nat.add_assoc]
    | none => simp [Nat.add_right_comm]

theorem insertAll_eq_filterMap (r : Registry) (vs : List Value) :
    r.insertAll vs
      =
    { primitives := r.primitives ++ vs.filterMap Primitive.ofValue?
      providers := r.providers ++ vs.filterMap Provider.ofValue? } := by
  rw [insertAll_eq, primitivesOf_eq_filterMap, providersOf_eq_filterMap]

theorem size_insertAll (r : Registry) (vs : List Value) :
    (r.insertAll vs).size = r.size + vs.countP fun v => Primitive.recognizes v || Provider.recognizes v := by
  rw [insertAll_eq_filterMap, countP_recognizes, size, size, List.length_append, List.length_append]
  omega

/--
A value is recognized as one of the three kinds of registrations exactly if it is classified as that kind. It is
never a primitive and a provider at once, so that either may be tried first, and the check of a rule set, which is
made on the way, does not fail. Of a list as many values are registered as are recognized, and nothing fails.
-/
theorem recognized_iff_classified :
    (∀ v : Value,
      (Primitive.recognizes v = true ↔ ∃ p, Primitive.ofValue? v = some p)
        ∧ (Provider.recognizesFilter v = true ↔ ∃ f ps, Provider.ofValue? v = some (.filter f ps))
        ∧ (Provider.recognizesRuled v = true ↔ ∃ rules ps, Provider.ofValue? v = some (.ruled rules ps))
        ∧ (Primitive.ofValue? v = none ∨ Provider.ofValue? v = none)
        ∧ (Entry.ofValue? v
            =
          match Primitive.ofValue? v with
          | some p => some (.primitive p)
          | none => (Provider.ofValue? v).map .provider)
        ∧ (Schema.isRuleSetValue v = true → ∃ rules, RuleSet.check v = .ok rules))
      ∧ ∀ (vs : List Value) (r : Registry) (s : Session σ), ∃ r' s', add (.list vs) r s = (.ok r', s')
        ∧ r'.primitives = r.primitives ++ vs.filterMap Primitive.ofValue?
        ∧ r'.providers = r.providers ++ vs.filterMap Provider.ofValue?
        ∧ r'.size = r.size + vs.countP fun v => Primitive.recognizes v || Provider.recognizes v := by
  constructor
  . intro v
    refine ⟨Primitive.recognizes_iff, Provider.recognizesFilter_iff, Provider.recognizesRuled_iff, ?_,
      Entry.ofValue?_eq v, RuleSet.exists_check⟩
    cases h : Provider.ofValue? v with
    | none => exact Or.inr rfl
    | some p => exact Or.inl (Primitive.ofValue?_eq_none h)
  . intro vs r s
    obtain ⟨s', hrun, _⟩ := add_run (show (Value.list vs).elements? = some vs from rfl) r s
    have hinsert := insertAll_eq_filterMap r vs
    exact ⟨_, s', hrun, congrArg primitives hinsert, congrArg providers hinsert, size_insertAll r vs⟩

/-- Of these the first, the third and the fourth are registrations. -/
def variety : List Value :=
  [.tuple [.object Schema.bothSides, .list []], .null, .callable always,
    .list [.callable always, .tuple [numbered "a" (.int 1), .primitive (.generator always) 0]],
    .tuple [.callable always, .str "a"]]

theorem recognized_iff_classified_variety :
    Schema.isRuleSetValue (.object Schema.bothSides) = true
      ∧ (∃ rules, RuleSet.check (.object Schema.bothSides) = .ok rules)
      ∧ ∃ r s', add (.list variety) .empty (.initial () (.whole 0) "" toString) = (.ok r, s')
        ∧ r.size = 3 := by
  obtain ⟨hvalues, hadd⟩ := @recognized_iff_classified Unit
  obtain ⟨-, -, -, -, -, hcheck⟩ := hvalues (.object Schema.bothSides)
  have htest : Schema.isRuleSetValue (.object Schema.bothSides) = true := by decide +kernel
  obtain ⟨r, s', hrun, -, -, hsize⟩ := hadd variety .empty (.initial () (.whole 0) "" toString)
  have hcount : (variety.countP fun v => Primitive.recognizes v || Provider.recognizes v) = 3 := by
    decide +kernel
  rw [hcount] at hsize
  exact ⟨htest, hcheck htest, r, s', hrun, hsize⟩

end Registry

end EventTracking
