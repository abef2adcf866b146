import EventTracking.Proofs.Context.Isolation
import EventTracking.Proofs.Manifest.Registration

/-!
This module contains the theorem on the snapshots of a registry: registering them again in an empty registry
gives the same registry, and removing them in any order leaves it empty.
-/

namespace EventTracking

open Schema (Rules RuleSet)

/-! ### Values of registrations -/

namespace Schema.RuleSet

theorem ofValue?_toValue (r : RuleSet) : ofValue? r.toValue = some r := by
  let accept : Rules := ⟨r.accept, r.accept_valid⟩
  let reject : Rules := ⟨r.reject, r.reject_valid⟩
  have haccept : ManifestEntry.WritesSide "accept" (some accept) [("accept", .ofTexts r.accept)] :=
    .present (.several rfl)
  have hreject : ManifestEntry.WritesSide "reject" (some reject) [("reject", .ofTexts r.reject)] :=
    .present (.several rfl)
  exact ManifestEntry.ofValue?_sides haccept hreject rfl

end Schema.RuleSet

namespace Provider

def callables : Provider → List Callable
  | .filter f ps => f :: ps.filterMap Primitive.generator?
  | .ruled _ ps => ps.filterMap Primitive.generator?

end Provider

namespace Registry

variable {σ : Type} {r : Registry} {e : Entry} {es : List Entry}

namespace Entry

def toValue : Entry → Value
  | .primitive p => p.toValue
  | .provider p => p.toValue

def callables : Entry → List Callable
  | .primitive p => p.generator?.toList
  | .provider p => p.callables

structure IsValid (e : Entry) : Prop where
  entities : ∀ v ∈ e.entities, v.isSelfDescribing = true
  callables : ∀ f ∈ e.callables, f.isCallback = true

end Entry

end Registry

open Registry (Entry)

theorem Primitive.ofValue?_of_isSelfDescribing {v : Value} (h : v.isSelfDescribing = true) :
    ofValue? v = some (.fixed v) := by
  cases v with
  | object es => exact if_pos h
  | _ => cases h

theorem Primitive.ofValue?_toValue {p : Primitive} (h : (Entry.primitive p).IsValid) :
    ofValue? p.toValue = some p := by
  cases p with
  | fixed v => exact ofValue?_of_isSelfDescribing (h.entities v List.mem_cons_self)
  | generator f => exact if_pos (h.callables f List.mem_cons_self)

namespace Provider

variable {p : Provider} {q : Primitive} {ps : List Primitive}

theorem isValid_of_mem_primitives (h : (Entry.provider p).IsValid) (hq : q ∈ p.primitives) :
    (Entry.primitive q).IsValid where
  entities v hv := h.entities v (List.mem_flatMap.2 ⟨q, hq, hv⟩)
  callables f hf := by
    have hgenerator : f ∈ p.primitives.filterMap Primitive.generator? :=
      List.mem_filterMap.2 ⟨q, hq, Option.mem_toList.1 hf⟩
    apply h.callables f
    cases p with
    | filter => exact List.mem_cons_of_mem _ hgenerator
    | ruled => exact hgenerator

theorem allOfValue?_toValue (h : ∀ q ∈ ps, (Entry.primitive q).IsValid) :
    Primitive.allOfValue? (.list (ps.map Primitive.toValue)) = some ps := by
  have hforall : List.Forall₂ (fun x p => Primitive.ofValue? x = some p)
      (ps.map Primitive.toValue) ps := by
    rw [List.forall₂_map_left_iff, List.forall₂_same]
    exact fun q hq => Primitive.ofValue?_toValue (h q hq)
  exact Primitive.allOfValue?_eq_some_iff.2 hforall

theorem ofValue?_toValue (h : (Entry.provider p).IsValid) : ofValue? p.toValue = some p := by
  have hprimitives := allOfValue?_toValue fun q => isValid_of_mem_primitives h (q := q)
  have hpair : ∀ criterion primitives, ofValue? (.tuple [criterion, primitives])
      = (Primitive.allOfValue? primitives).bind (ofCriterion? criterion) := fun _ _ => rfl
  cases p with
  | filter f ps =>
    rw [primitives] at hprimitives
    rw [toValue, hpair, hprimitives]
    exact if_pos (h.callables f List.mem_cons_self)
  | ruled r ps =>
    rw [primitives] at hprimitives
    rw [toValue, hpair, hprimitives]
    exact congrArg (Option.map _) r.ofValue?_toValue

end Provider

namespace Registry

variable {σ : Type} {r : Registry} {e : Entry} {es : List Entry} {vs : List Value}

theorem Entry.ofValue?_toValue (h : e.IsValid) : Entry.ofValue? e.toValue = some e := by
  unfold Entry.ofValue? Entry.toValue
  cases e with
  | provider p =>
    dsimp only
    rw [Provider.ofValue?_toValue h]
  | primitive p =>
    have hnone : Provider.ofValue? p.toValue = none := by
      cases p with
      | generator => rfl
      | fixed v =>
        have hv := h.entities v List.mem_cons_self
        cases v with
        | object => rfl
        | _ => cases hv
    dsimp only
    rw [hnone, Primitive.ofValue?_toValue h]
    rfl

/-! ### Snapshots -/

def snapshot (r : Registry) : List Value := r.primitiveValues ++ r.providerValues

def entries (r : Registry) : List Entry := r.primitives.map .primitive ++ r.providers.map .provider

theorem snapshot_eq (r : Registry) : r.snapshot = r.entries.map Entry.toValue := by
  rw [snapshot, entries, List.map_append, List.map_map, List.map_map]
  rfl

theorem Every.forall_mem_entries {P : Entry → Prop} (h : r.Every P) : ∀ e ∈ r.entries, P e := by
  rw [entries, List.forall_mem_append, List.forall_mem_map, List.forall_mem_map]
  exact ⟨h.primitives, h.providers⟩

theorem forall₂_snapshot (h : r.Every Entry.IsValid) :
    List.Forall₂ (fun e v => Entry.ofValue? v = some e) r.entries r.snapshot := by
  rw [snapshot_eq, List.forall₂_map_right_iff, List.forall₂_same]
  exact fun e he => Entry.ofValue?_toValue (h.forall_mem_entries e he)

theorem primitivesOf_snapshot (h : r.Every Entry.IsValid) : primitivesOf r.snapshot = r.primitives := by
  rw [primitivesOf_eq (forall₂_snapshot h), entries, List.filterMap_append, List.filterMap_map,
    List.filterMap_map]
  have hprimitives : r.primitives.filterMap (Entry.primitive? ∘ Entry.primitive) = r.primitives :=
    List.filterMap_some
  have hproviders : r.providers.filterMap (Entry.primitive? ∘ Entry.provider) = [] :=
    List.filterMap_eq_nil_iff.2 fun _ _ => rfl
  rw [hprimitives, hproviders, List.append_nil]

theorem providersOf_snapshot (h : r.Every Entry.IsValid) : providersOf r.snapshot = r.providers := by
  rw [providersOf_eq (forall₂_snapshot h), entries, List.filterMap_append, List.filterMap_map,
    List.filterMap_map]
  have hprimitives : r.primitives.filterMap (Entry.provider? ∘ Entry.primitive) = [] :=
    List.filterMap_eq_nil_iff.2 fun _ _ => rfl
  have hproviders : r.providers.filterMap (Entry.provider? ∘ Entry.provider) = r.providers :=
    List.filterMap_some
  rw [hprimitives, hproviders, List.nil_append]

theorem insertAll_snapshot (h : r.Every Entry.IsValid) : empty.insertAll r.snapshot = r := by
  rw [insertAll_eq, primitivesOf_snapshot h, providersOf_snapshot h]
  rfl

theorem add_run_of_described (hvs : ∀ v ∈ vs, insertNote? v = none) (s : Session σ) :
    add (.list vs) r s = (.ok (r.insertAll vs), s) := by
  have hnotes : (forIn vs PUnit.unit fun v _ => do
      note (insertNote? v)
      return .yield PUnit.unit : Act (Session σ) PUnit) s = (.ok ⟨⟩, s) := by
    induction vs with
    | nil => rfl
    | cons v vs ih =>
      obtain ⟨hv, hvs⟩ := List.forall_mem_cons.1 hvs
      have hnote : note (insertNote? v) s = (.ok (), s) := by
        rw [hv]
        rfl
      rw [List.forIn_cons, bind_assoc, Act.bind_run hnote, pure_bind]
      exact ih hvs
  rw [add, Value.elements?]
  dsimp only
  rw [Act.bind_run hnotes, Act.pure_run]

theorem insertNote?_of_mem_snapshot (h : r.Every Entry.IsValid) :
    ∀ v ∈ r.snapshot, insertNote? v = none := by
  rw [snapshot_eq, List.forall_mem_map]
  intro e he
  rw [insertNote?, Entry.ofValue?_toValue (h.forall_mem_entries e he)]

/-! ### Removal of snapshots -/

theorem kept_self {α : Type} {same : α → α → Bool} {xs : List α} (h : ∀ x ∈ xs, same x x) :
    kept same xs xs = [] := by
  rw [kept, List.map_eq_nil_iff, List.filter_eq_nil_iff]
  rintro ⟨x, i⟩ hx
  obtain ⟨hi, hget⟩ := List.mem_zipIdx' hx
  have hsame : same x x := h x (by rw [hget]; exact List.getElem_mem _)
  -- The member counts in the whole list and not in what stands before it.
  have hsplit : xs = xs.take i ++ x :: xs.drop (i + 1) := by
    rw [hget, List.getElem_cons_drop, List.take_append_drop]
  have hcount := congrArg (List.countP (same x)) hsplit
  rw [List.countP_append, List.countP_cons_of_pos hsame] at hcount
  simp only [decide_eq_true_eq]
  omega

/-- Whether the equality of values has its laws for the entities of a registration, and each equals itself. -/
def Entry.IsOrderly (e : Entry) : Prop := ∀ v ∈ e.entities, v.IsWellFormed ∧ v.isNan = false

theorem without_snapshot (h : r.Every Entry.IsValid) (horderly : r.Every Entry.IsOrderly) :
    r.without r.snapshot = empty := by
  rw [without, primitivesOf_snapshot h, providersOf_snapshot h,
    kept_self fun p hp => Primitive.same_self (horderly.primitives p hp),
    kept_self fun p hp => Provider.same_self (horderly.providers p hp)]
  rfl

theorem describesWellFormed_of_mem_snapshot (h : r.Every Entry.IsValid)
    (horderly : r.Every Entry.IsOrderly) : ∀ v ∈ r.snapshot, DescribesWellFormed v := by
  rw [snapshot_eq, List.forall_mem_map]
  intro e he e' he'
  cases he'.symm.trans (Entry.ofValue?_toValue (h.forall_mem_entries e he))
  exact fun v hv => (horderly.forall_mem_entries e he v hv).1

theorem remove_snapshot_run (h : r.Every Entry.IsValid) (horderly : r.Every Entry.IsOrderly)
    (hvs : r.snapshot.Perm vs) (s : Session σ) : ∃ s', remove (.list vs) r s = (.ok .empty, s') := by
  have hwellFormed : r.IsWellFormed :=
    ⟨fun p hp v hv => (horderly.primitives p hp v hv).1, fun p hp v hv => (horderly.providers p hp v hv).1⟩
  have hdescribed : ∀ v ∈ vs, DescribesWellFormed v :=
    fun v hv => describesWellFormed_of_mem_snapshot h horderly v (hvs.mem_iff.2 hv)
  have hvisits : (Value.list vs).elements? = some vs := rfl
  obtain ⟨s', hrun, _⟩ := remove_run hvisits r s
  refine ⟨s', ?_⟩
  rw [hrun, eraseAll_eq_without hwellFormed hdescribed, without_of_perm hvs, without_snapshot h horderly]

/--
The snapshots of a registry with any history stand for all of it, as long as the callables in it are
callbacks. Registering them in an empty registry discards none of them, as nothing is noted, and gives the
registry itself. Removing them in whatever order leaves it empty.
-/
theorem snapshot_faithful {changes : List Change}
    (hchanges : ∀ c ∈ changes, ∀ v ∈ c.added, Describes Entry.IsValid v) (s : Session σ) :
    ∃ r s', performAll changes .empty s = (.ok r, s')
      ∧ (∀ s : Session σ, add (.list r.snapshot) .empty s = (.ok r, s))
      ∧ (r.Every Entry.IsOrderly → ∀ vs, r.snapshot.Perm vs → ∀ s : Session σ,
        ∃ s', remove (.list vs) r s = (.ok .empty, s')) := by
  obtain ⟨r, s', hrun, h⟩ := performAll_every hchanges .empty s
  refine ⟨r, s', hrun, ?_, fun horderly vs hvs => remove_snapshot_run h horderly hvs⟩
  intro s
  rw [add_run_of_described (insertNote?_of_mem_snapshot h), insertAll_snapshot h]

def allKinds : List Change :=
  [.add (.list [numbered "a" (.int 1), .callable always]),
    .add (.tuple [.tuple [.callable always, .list [numbered "b" (.int 2), .primitive (.generator always) 0]],
      numbered "d" (.int 4), .tuple [.ruleSet (.ofRules Manifest.everySchema .empty), numbered "c" (.int 3)]]),
    .remove (.list [numbered "d" (.int 4)])]

theorem describes_of_mem_allKinds {P : Entry → Prop}
    (h : ∀ e : Entry, (∀ v ∈ e.entities, ∃ schema n, v = numbered schema (.int n)) →
      (∀ f ∈ e.callables, f = always) → P e) :
    ∀ c ∈ allKinds, ∀ v ∈ c.added, Describes P v := by
  simp only [allKinds, List.forall_mem_cons, Change.added, Value.elements?, Option.getD_some]
  refine ⟨⟨?_, ?_, by simp⟩, ⟨?_, ?_, ?_, by simp⟩, by simp, by simp⟩
  . rintro e ⟨⟩
    exact h _ (List.forall_mem_singleton.2 ⟨"a", 1, rfl⟩) (by simp [Entry.callables, Primitive.generator?])
  . rintro e ⟨⟩
    exact h _ (by simp [Entry.entities, Primitive.entities]) (List.forall_mem_singleton.2 rfl)
  . rintro e ⟨⟩
    exact h _ (List.forall_mem_singleton.2 ⟨"b", 2, rfl⟩)
      (by simp [Entry.callables, Provider.callables, Primitive.generator?])
  . rintro e ⟨⟩
    exact h _ (List.forall_mem_singleton.2 ⟨"d", 4, rfl⟩) (by simp [Entry.callables, Primitive.generator?])
  . rintro e ⟨⟩
    exact h _ (List.forall_mem_singleton.2 ⟨"c", 3, rfl⟩)
      (by simp [Entry.callables, Provider.callables, Primitive.generator?])

theorem snapshot_faithful_allKinds :
    (∀ c ∈ allKinds, ∀ v ∈ c.added, Describes Entry.IsValid v)
      ∧ ∃ r s', performAll allKinds .empty (.initial () (.whole 0) "" toString) = (.ok r, s')
        ∧ r.snapshot.length = 4
        ∧ add (.list r.snapshot) .empty s' = (.ok r, s')
        ∧ ∃ s'', remove (.list r.snapshot.reverse) r s' = (.ok .empty, s'') := by
  have hvalid : ∀ c ∈ allKinds, ∀ v ∈ c.added, Describes Entry.IsValid v := by
    apply describes_of_mem_allKinds
    intro e hentities hcallables
    constructor
    . intro v hv
      obtain ⟨schema, n, rfl⟩ := hentities v hv
      rfl
    . intro f hf
      rw [hcallables f hf]
      rfl
  have horderly : ∀ c ∈ allKinds, ∀ v ∈ c.added, Describes Entry.IsOrderly v := by
    apply describes_of_mem_allKinds
    intro e hentities _ v hv
    obtain ⟨schema, n, rfl⟩ := hentities v hv
    exact ⟨describesWellFormed_numbered schema (Value.isWellFormed_of_leafKey? rfl) _ rfl _
      List.mem_cons_self, rfl⟩
  obtain ⟨r, s', hrun, hadd, hremove⟩ :=
    snapshot_faithful hvalid (.initial () (.whole 0) "" toString)
  obtain ⟨r', s'', hrun', hr⟩ :=
    performAll_every horderly .empty (.initial () (.whole 0) "" toString)
  cases hrun.symm.trans hrun'
  have hlength : ((performAll allKinds .empty (.initial () (.whole 0) "" toString)).1.map fun r =>
      r.snapshot.length).toOption = some 4 := by
    decide +kernel
  rw [hrun] at hlength
  exact ⟨hvalid, r, s', hrun, Option.some.inj hlength, hadd s',
    hremove hr _ (List.reverse_perm _).symm s'⟩

def pairwise : Callable :=
  let signature : Signature := [⟨"a", .positionalOrKeyword, false⟩, ⟨"b", .positionalOrKeyword, false⟩]
  .routine ⟨"pairwise", signature, some signature, true⟩

/-- A generator that was made of something else than a callback is given back as what is discarded. -/
theorem snapshot_of_no_callback :
    ∃ r s', performAll [.add (.list [.primitive (.generator pairwise) 0])] .empty
        (.initial () (.whole 0) "" toString) = (.ok r, s')
      ∧ r.snapshot.length = 1
      ∧ ∃ r' s'', add (.list r.snapshot) .empty s' = (.ok r', s'') ∧ r'.snapshot.length = 0 :=
  ⟨⟨[.generator pairwise], []⟩, _, rfl, rfl, .empty, _, rfl, rfl⟩

end Registry

end EventTracking
