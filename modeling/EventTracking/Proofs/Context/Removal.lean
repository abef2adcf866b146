import EventTracking.Proofs.Context.Registrations

/-!
This module contains the theorem on removal from a registry: of equal registrations the earliest are gone, as
many as there are inputs that describe one, and all others stay in their order.
-/

namespace EventTracking

namespace Registry

/-! ### Removal from a list -/

section

variable {α : Type} {same : α → α → Bool} {dom : α → Prop} {a c : α}
  {candidates candidates' before before' xs : List α}

/-- The members that have at least as many equal ones before them as there are equal candidates. -/
def kept (same : α → α → Bool) (candidates xs : List α) : List α :=
  (xs.zipIdx.filter fun x => candidates.countP (same x.1) ≤ (xs.take x.2).countP (same x.1)).map Prod.fst

def keptAfter (same : α → α → Bool) (candidates : List α) : (before xs : List α) → List α
  | _, [] => []
  | before, x :: xs =>
    if candidates.countP (same x) ≤ before.countP (same x)
    then x :: keptAfter same candidates (before ++ [x]) xs
    else keptAfter same candidates (before ++ [x]) xs

theorem keptAfter_eq (before xs : List α) :
    keptAfter same candidates before xs
      =
    ((xs.zipIdx before.length).filter fun x =>
      candidates.countP (same x.1) ≤ ((before ++ xs).take x.2).countP (same x.1)).map Prod.fst := by
  induction xs generalizing before with
  | nil => rfl
  | cons x xs ih =>
    have hrest := ih (before ++ [x])
    rw [List.length_append, List.length_singleton, List.append_assoc, List.singleton_append] at hrest
    rw [keptAfter, List.zipIdx_cons, List.filter_cons, hrest]
    dsimp only
    rw [List.take_left]
    by_cases h : candidates.countP (same x) ≤ before.countP (same x)
    . rw [if_pos h, if_pos (decide_eq_true h), List.map_cons]
    . rw [if_neg h, if_neg (by simpa using h)]

theorem kept_eq (candidates xs : List α) :
    kept same candidates xs = keptAfter same candidates [] xs := by
  rw [keptAfter_eq]
  rfl

/-- Candidates and members before the rest that come in equal numbers make no difference to it. -/
theorem keptAfter_shift (k : α → Nat)
    (hcandidates : ∀ x ∈ xs, candidates'.countP (same x) = candidates.countP (same x) + k x)
    (hbefore : ∀ x ∈ xs, before'.countP (same x) = before.countP (same x) + k x) :
    keptAfter same candidates' before' xs = keptAfter same candidates before xs := by
  induction xs generalizing before before' with
  | nil => rfl
  | cons x xs ih =>
    obtain ⟨hcandidate, hcandidates⟩ := List.forall_mem_cons.1 hcandidates
    obtain ⟨hfirst, hbefore⟩ := List.forall_mem_cons.1 hbefore
    have hrest : ∀ y ∈ xs, (before' ++ [x]).countP (same y) = (before ++ [x]).countP (same y) + k y := by
      intro y hy
      rw [List.countP_append, List.countP_append, hbefore y hy]
      omega
    rw [keptAfter, keptAfter, ih hcandidates hrest, hcandidate, hfirst]
    simp only [Nat.add_le_add_iff_right]

theorem kept_congr (h : ∀ x ∈ xs, candidates'.countP (same x) = candidates.countP (same x)) :
    kept same candidates' xs = kept same candidates xs := by
  rw [kept_eq, kept_eq]
  exact keptAfter_shift (fun _ => 0) h fun _ _ => rfl

theorem kept_nil (xs : List α) : kept same [] xs = xs := by
  unfold kept
  simp

theorem kept_sublist (candidates xs : List α) : (kept same candidates xs).Sublist xs := by
  have h : (kept same candidates xs).Sublist (xs.zipIdx.map Prod.fst) :=
    List.filter_sublist.map Prod.fst
  rwa [List.zipIdx_map_fst] at h

theorem keptAfter_removeFirst (per : IsPartialEquivalence dom fun x y => same x y) (hc : dom c)
    (hbefore : ∀ x ∈ before, dom x ∧ ¬ same x c) (hxs : ∀ x ∈ xs, dom x) :
    keptAfter same (c :: candidates) before xs
      =
    keptAfter same candidates before (removeFirst (fun x => same x c) xs) := by
  induction xs generalizing before with
  | nil => rfl
  | cons x xs ih =>
    obtain ⟨hx, hxs⟩ := List.forall_mem_cons.1 hxs
    rw [removeFirst, keptAfter]
    by_cases h : same x c
    . -- The member is the first of its class, and its removal answers for the candidate.
      have hfirst : before.countP (same x) = 0 := by
        rw [List.countP_eq_zero]
        intro y hy hxy
        exact (hbefore y hy).2 (per.euclid hx (hbefore y hy).1 hc hxy h)
      have hclass : ∀ y ∈ xs, same y x = same y c := by
        intro y hy
        rw [Bool.eq_iff_iff]
        constructor
        . exact fun hyx => per.trans (hxs y hy) hx hc hyx h
        . exact fun hyc => per.trans (hxs y hy) hc hx hyc (per.symm hx hc h)
      rw [if_pos h, hfirst, List.countP_cons_of_pos h, if_neg (by omega)]
      apply keptAfter_shift fun y => if same y c then 1 else 0
      . exact fun y _ => List.countP_cons
      . intro y hy
        rw [List.countP_append, List.countP_singleton, hclass y hy]
    . rw [if_neg h, keptAfter, List.countP_cons_of_neg h, ih _ hxs]
      rw [List.forall_mem_append, List.forall_mem_singleton]
      exact ⟨hbefore, hx, h⟩

theorem foldl_removeFirst (per : IsPartialEquivalence dom fun x y => same x y)
    (hcandidates : ∀ c ∈ candidates, dom c) (hxs : ∀ x ∈ xs, dom x) :
    candidates.foldl (fun xs c => removeFirst (fun x => same x c) xs) xs = kept same candidates xs := by
  induction candidates generalizing xs with
  | nil => exact (kept_nil xs).symm
  | cons c candidates ih =>
    obtain ⟨hc, hcandidates⟩ := List.forall_mem_cons.1 hcandidates
    have hremoved : ∀ x ∈ removeFirst (fun x => same x c) xs, dom x :=
      fun x hx => hxs x ((removeFirst_sublist _ _).subset hx)
    rw [List.foldl_cons, ih hcandidates hremoved, kept_eq, kept_eq,
      keptAfter_removeFirst per hc (by simp) hxs]

theorem filter_keptAfter (per : IsPartialEquivalence dom fun x y => same x y) (ha : dom a)
    (hcandidates : ∀ c ∈ candidates, dom c) (hbefore : ∀ x ∈ before, dom x) (hxs : ∀ x ∈ xs, dom x) :
    (keptAfter same candidates before xs).filter (same a)
      =
    (xs.filter (same a)).drop (candidates.countP (same a) - before.countP (same a)) := by
  induction xs generalizing before with
  | nil => simp [keptAfter]
  | cons x xs ih =>
    obtain ⟨hx, hxs⟩ := List.forall_mem_cons.1 hxs
    have hbefore' : ∀ y ∈ before ++ [x], dom y :=
      List.forall_mem_append.2 ⟨hbefore, List.forall_mem_singleton.2 hx⟩
    have hrest := ih hbefore' hxs
    rw [List.countP_append, List.countP_singleton] at hrest
    rw [keptAfter]
    by_cases h : same a x
    . have hclass : ∀ ys : List α, (∀ y ∈ ys, dom y) → ys.countP (same x) = ys.countP (same a) := by
        intro ys hys
        apply List.countP_congr
        intro y hy
        constructor
        . exact fun hxy => per.trans ha hx (hys y hy) h hxy
        . exact fun hay => per.euclid ha hx (hys y hy) h hay
      rw [if_pos h] at hrest
      rw [hclass candidates hcandidates, hclass before hbefore, List.filter_cons_of_pos h]
      by_cases hle : candidates.countP (same a) ≤ before.countP (same a)
      . rw [if_pos hle, List.filter_cons_of_pos h, hrest, Nat.sub_eq_zero_of_le hle,
          Nat.sub_eq_zero_of_le (by omega)]
        rfl
      . obtain ⟨n, hn⟩ : ∃ n, candidates.countP (same a) - before.countP (same a) = n + 1 :=
          ⟨candidates.countP (same a) - before.countP (same a) - 1, by omega⟩
        have hn' : candidates.countP (same a) - (before.countP (same a) + 1) = n := by omega
        rw [if_neg hle, hrest, hn, hn', List.drop_succ_cons]
    . rw [if_neg h, Nat.add_zero] at hrest
      rw [List.filter_cons_of_neg h]
      split
      . rw [List.filter_cons_of_neg h, hrest]
      . rw [hrest]

theorem filter_kept (per : IsPartialEquivalence dom fun x y => same x y) (ha : dom a)
    (hcandidates : ∀ c ∈ candidates, dom c) (hxs : ∀ x ∈ xs, dom x) :
    (kept same candidates xs).filter (same a) = (xs.filter (same a)).drop (candidates.countP (same a)) := by
  rw [kept_eq, filter_keptAfter per ha hcandidates (by simp) hxs]
  rfl

theorem removeFirst_append_singleton {p : α → Bool} (hxs : ∀ x ∈ xs, ¬ p x) (ha : p a) :
    removeFirst p (xs ++ [a]) = xs := by
  induction xs with
  | nil => simp [removeFirst, ha]
  | cons x xs ih =>
    obtain ⟨hx, hxs⟩ := List.forall_mem_cons.1 hxs
    rw [List.cons_append, removeFirst, if_neg hx, ih hxs]

end

/-! ### Removal from a registry -/

variable {σ : Type} {r : Registry} {v x : Value} {vs xs : List Value} {e : Entry}

def Entry.primitive? : Entry → Option Primitive
  | .primitive p => some p
  | .provider _ => none

def Entry.provider? : Entry → Option Provider
  | .provider p => some p
  | .primitive _ => none

def primitivesOf (vs : List Value) : List Primitive :=
  vs.filterMap fun v => (Entry.ofValue? v).bind Entry.primitive?

def providersOf (vs : List Value) : List Provider :=
  vs.filterMap fun v => (Entry.ofValue? v).bind Entry.provider?

def without (r : Registry) (vs : List Value) : Registry where
  primitives := kept Primitive.same (primitivesOf vs) r.primitives
  providers := kept Provider.same (providersOf vs) r.providers

theorem primitivesOf_cons (h : Entry.ofValue? v = some e) (vs : List Value) :
    primitivesOf (v :: vs) = e.primitive?.toList ++ primitivesOf vs := by
  rw [primitivesOf, List.filterMap_cons, h, Option.bind_some]
  cases e.primitive? <;> rfl

theorem providersOf_cons (h : Entry.ofValue? v = some e) (vs : List Value) :
    providersOf (v :: vs) = e.provider?.toList ++ providersOf vs := by
  rw [providersOf, List.filterMap_cons, h, Option.bind_some]
  cases e.provider? <;> rfl

theorem primitivesOf_cons_of_none (h : Entry.ofValue? v = none) (vs : List Value) :
    primitivesOf (v :: vs) = primitivesOf vs := by
  rw [primitivesOf, List.filterMap_cons, h]
  rfl

theorem providersOf_cons_of_none (h : Entry.ofValue? v = none) (vs : List Value) :
    providersOf (v :: vs) = providersOf vs := by
  rw [providersOf, List.filterMap_cons, h]
  rfl

theorem primitivesOf_eq {es : List Entry}
    (h : List.Forall₂ (fun e v => Entry.ofValue? v = some e) es vs) :
    primitivesOf vs = es.filterMap Entry.primitive? := by
  induction h with
  | nil => rfl
  | @cons e _ _ _ hv _ ih =>
    rw [primitivesOf_cons hv, ih, List.filterMap_cons]
    cases e.primitive? <;> rfl

theorem providersOf_eq {es : List Entry}
    (h : List.Forall₂ (fun e v => Entry.ofValue? v = some e) es vs) :
    providersOf vs = es.filterMap Entry.provider? := by
  induction h with
  | nil => rfl
  | @cons e _ _ _ hv _ ih =>
    rw [providersOf_cons hv, ih, List.filterMap_cons]
    cases e.provider? <;> rfl

theorem insertAll_eq (r : Registry) (vs : List Value) :
    r.insertAll vs = ⟨r.primitives ++ primitivesOf vs, r.providers ++ providersOf vs⟩ := by
  unfold insertAll
  induction vs generalizing r with
  | nil => simp [primitivesOf, providersOf]
  | cons v vs ih =>
    rw [List.foldl_cons, ih, insert]
    cases h : Entry.ofValue? v with
    | none => rw [primitivesOf_cons_of_none h, providersOf_cons_of_none h]
    | some e =>
      rw [primitivesOf_cons h, providersOf_cons h]
      cases e <;> simp [addEntry, Entry.primitive?, Entry.provider?]

theorem eraseAll_eq (r : Registry) (vs : List Value) :
    r.eraseAll vs
      =
    { primitives := (primitivesOf vs).foldl (fun ps p => removeFirst (fun q => q.same p) ps) r.primitives
      providers := (providersOf vs).foldl (fun ps p => removeFirst (fun q => q.same p) ps) r.providers } := by
  unfold eraseAll
  induction vs generalizing r with
  | nil => rfl
  | cons v vs ih =>
    rw [List.foldl_cons, ih, erase]
    cases h : Entry.ofValue? v with
    | none => rw [primitivesOf_cons_of_none h, providersOf_cons_of_none h]
    | some e =>
      rw [primitivesOf_cons h, providersOf_cons h]
      cases e with
      | primitive p => rfl
      | provider p => rfl

theorem primitivesOf_eq_nil (h : ∀ v ∈ vs, ∀ p, Entry.ofValue? v ≠ some (.primitive p)) :
    primitivesOf vs = [] := by
  rw [primitivesOf, List.filterMap_eq_nil_iff]
  intro v hv
  cases he : Entry.ofValue? v with
  | none => rfl
  | some e =>
    cases e with
    | primitive p => exact absurd he (h v hv p)
    | provider p => rfl

theorem providersOf_eq_nil (h : ∀ v ∈ vs, ∀ p, Entry.ofValue? v ≠ some (.provider p)) :
    providersOf vs = [] := by
  rw [providersOf, List.filterMap_eq_nil_iff]
  intro v hv
  cases he : Entry.ofValue? v with
  | none => rfl
  | some e =>
    cases e with
    | primitive p => rfl
    | provider p => exact absurd he (h v hv p)

theorem isWellFormed_of_primitivesOf (hvs : ∀ v ∈ vs, DescribesWellFormed v) :
    ∀ p ∈ primitivesOf vs, ∀ w ∈ p.entities, w.IsWellFormed := by
  intro p hp
  obtain ⟨v, hv, hp⟩ := List.mem_filterMap.1 hp
  obtain ⟨e, he, hp⟩ := Option.bind_eq_some_iff.1 hp
  cases e with
  | primitive q =>
    cases hp
    exact hvs v hv _ he
  | provider q => cases hp

theorem isWellFormed_of_providersOf (hvs : ∀ v ∈ vs, DescribesWellFormed v) :
    ∀ p ∈ providersOf vs, ∀ w ∈ p.entities, w.IsWellFormed := by
  intro p hp
  obtain ⟨v, hv, hp⟩ := List.mem_filterMap.1 hp
  obtain ⟨e, he, hp⟩ := Option.bind_eq_some_iff.1 hp
  cases e with
  | primitive q => cases hp
  | provider q =>
    cases hp
    exact hvs v hv _ he

theorem eraseAll_eq_without (h : r.IsWellFormed) (hvs : ∀ v ∈ vs, DescribesWellFormed v) :
    r.eraseAll vs = r.without vs := by
  rw [eraseAll_eq, without,
    foldl_removeFirst Primitive.isPartialEquivalence_same (isWellFormed_of_primitivesOf hvs) h.primitives,
    foldl_removeFirst Provider.isPartialEquivalence_same (isWellFormed_of_providersOf hvs) h.providers]

theorem without_of_perm (h : vs.Perm xs) : r.without xs = r.without vs := by
  have hprimitives : (primitivesOf vs).Perm (primitivesOf xs) := h.filterMap _
  have hproviders : (providersOf vs).Perm (providersOf xs) := h.filterMap _
  unfold without
  congr 1
  . exact kept_congr fun p _ => hprimitives.symm.countP_eq p.same
  . exact kept_congr fun p _ => hproviders.symm.countP_eq p.same

theorem without_cons_of_not_holds (h : ∀ e, Entry.ofValue? v = some e → r.holds e = false)
    (vs : List Value) : r.without (v :: vs) = r.without vs := by
  unfold without
  cases he : Entry.ofValue? v with
  | none => rw [primitivesOf_cons_of_none he, providersOf_cons_of_none he]
  | some e =>
    have hholds := h e he
    rw [primitivesOf_cons he, providersOf_cons he]
    cases e with
    | primitive p =>
      have hcount : kept Primitive.same (p :: primitivesOf vs) r.primitives
          = kept Primitive.same (primitivesOf vs) r.primitives := by
        apply kept_congr
        intro q hq
        exact List.countP_cons_of_neg (List.any_eq_false.1 hholds q hq)
      exact congrArg (Registry.mk · _) hcount
    | provider p =>
      have hcount : kept Provider.same (p :: providersOf vs) r.providers
          = kept Provider.same (providersOf vs) r.providers := by
        apply kept_congr
        intro q hq
        exact List.countP_cons_of_neg (List.any_eq_false.1 hholds q hq)
      exact congrArg (Registry.mk _ ·) hcount

theorem holds_eq_false (h : r.IsWellFormed) (he : ∀ v ∈ e.entities, v.IsWellFormed) {v : Value}
    (hv : v ∈ e.entities) (hnone : r.Every fun d => ∀ w ∈ d.entities, ¬ Value.same v w) : r.holds e = false := by
  cases e with
  | primitive p =>
    rw [holds, List.any_eq_false]
    intro q hq hqp
    have hpq := Primitive.isPartialEquivalence_same.symm (h.primitives q hq) he hqp
    obtain ⟨w, hw, hvw⟩ := Primitive.exists_same_entity hpq v hv
    exact hnone.primitives q hq w hw hvw
  | provider p =>
    rw [holds, List.any_eq_false]
    intro q hq hqp
    have hpq := Provider.isPartialEquivalence_same.symm (h.providers q hq) he hqp
    obtain ⟨w, hw, hvw⟩ := Provider.exists_same_entity hpq v hv
    exact hnone.providers q hq w hw hvw

theorem removeEntry_addEntry (hholds : r.holds e = false)
    (he : ∀ v ∈ e.entities, v.IsWellFormed ∧ v.isNan = false) : (r.addEntry e).removeEntry e = r := by
  cases e with
  | primitive p =>
    exact congrArg (Registry.mk · r.providers)
      (removeFirst_append_singleton (List.any_eq_false.1 hholds) (Primitive.same_self he))
  | provider p =>
    exact congrArg (Registry.mk r.primitives)
      (removeFirst_append_singleton (List.any_eq_false.1 hholds) (Provider.same_self he))

theorem erase_insert (he : ∀ e, Entry.ofValue? v = some e →
      r.holds e = false ∧ ∀ w ∈ e.entities, w.IsWellFormed ∧ w.isNan = false) :
    (r.insert v).erase v = r := by
  unfold insert erase
  cases h : Entry.ofValue? v with
  | none => rfl
  | some e =>
    obtain ⟨hholds, hentities⟩ := he e h
    exact removeEntry_addEntry hholds hentities

structure RemovesEarliest (σ : Type) (r : Registry) : Prop where
  run {contexts : Value} {xs : List Value} (items : contexts.elements? = some xs)
    (hxs : ∀ x ∈ xs, DescribesWellFormed x) (s : Session σ) :
    ∃ s', remove contexts r s = (.ok (r.without xs), s')
  /-- Of each class of equal primitives the earliest are gone, one for each value of the class. -/
  primitives {xs : List Value} (hxs : ∀ x ∈ xs, DescribesWellFormed x) {p : Primitive}
    (hp : ∀ v ∈ p.entities, v.IsWellFormed) :
    (r.without xs).primitives.filter p.same
      = (r.primitives.filter p.same).drop ((primitivesOf xs).countP p.same)
  providers {xs : List Value} (hxs : ∀ x ∈ xs, DescribesWellFormed x) {p : Provider}
    (hp : ∀ v ∈ p.entities, v.IsWellFormed) :
    (r.without xs).providers.filter p.same
      = (r.providers.filter p.same).drop ((providersOf xs).countP p.same)
  /-- All others stay in their order. -/
  order (xs : List Value) : (r.without xs).primitives.Sublist r.primitives
    ∧ (r.without xs).providers.Sublist r.providers
  permuted {xs ys : List Value} (h : xs.Perm ys) : r.without ys = r.without xs
  /-- A value that describes no registration that the registry holds is not missed. -/
  missing {x : Value} (h : ∀ e, Entry.ofValue? x = some e → r.holds e = false) (xs : List Value) :
    r.without (x :: xs) = r.without xs
  /-- That is so if it holds a NaN that no registration holds. -/
  nan {x n v : Value} {e : Entry} (hx : DescribesWellFormed x) (he : Entry.ofValue? x = some e)
    (hv : v ∈ e.entities) (hnan : n.isNan = true) (part : n.IsPart v)
    (absent : r.Every fun d => ∀ w ∈ d.entities, ¬ n.IsPart w) : r.holds e = false
  onlyPrimitives {xs : List Value} (h : ∀ x ∈ xs, ∀ p, Entry.ofValue? x ≠ some (.provider p)) :
    (r.without xs).providers = r.providers
  onlyProviders {xs : List Value} (h : ∀ x ∈ xs, ∀ p, Entry.ofValue? x ≠ some (.primitive p)) :
    (r.without xs).primitives = r.primitives
  /-- What has been added last and equals nothing before it is what is removed. -/
  restored {contexts x : Value} (items : contexts.elements? = some [x])
    (hx : ∀ e, Entry.ofValue? x = some e →
      r.holds e = false ∧ ∀ v ∈ e.entities, v.IsWellFormed ∧ v.isNan = false) (s : Session σ) :
    ∃ s', (do let r' ← add contexts r; remove contexts r') s = (.ok r, s')

theorem IsWellFormed.removesEarliest (h : r.IsWellFormed) : RemovesEarliest σ r where
  run items hxs s := by
    obtain ⟨s', hrun, _⟩ := remove_run items r s
    rw [eraseAll_eq_without h hxs] at hrun
    exact ⟨s', hrun⟩
  primitives hxs _ hp :=
    filter_kept Primitive.isPartialEquivalence_same hp (isWellFormed_of_primitivesOf hxs) h.primitives
  providers hxs _ hp :=
    filter_kept Provider.isPartialEquivalence_same hp (isWellFormed_of_providersOf hxs) h.providers
  order xs := ⟨kept_sublist _ _, kept_sublist _ _⟩
  permuted := without_of_perm
  missing := without_cons_of_not_holds
  nan hx he hv hnan part absent :=
    holds_eq_false h (hx _ he) hv ⟨fun p hp w hw => Value.not_same_of_isNan hnan part (absent.primitives p hp w hw),
      fun p hp w hw => Value.not_same_of_isNan hnan part (absent.providers p hp w hw)⟩
  onlyPrimitives hxs := by
    have hnone := providersOf_eq_nil hxs
    rw [without, hnone, kept_nil]
  onlyProviders hxs := by
    have hnone := primitivesOf_eq_nil hxs
    rw [without, hnone, kept_nil]
  restored items hx s := by
    obtain ⟨s₁, hadd, _⟩ := add_run items r s
    obtain ⟨s₂, hremove, _⟩ := remove_run items (r.insertAll [_]) s₁
    refine ⟨s₂, ?_⟩
    rw [Act.bind_run hadd, hremove]
    exact congrArg (fun r => (Except.ok r, s₂)) (erase_insert hx)

/-- Whatever has been added to a registry and removed from it, removal takes the earliest. -/
theorem remove_earliest {changes : List Change}
    (hchanges : ∀ c ∈ changes, ∀ v ∈ c.inputs, DescribesWellFormed v) (s : Session σ) :
    ∃ r s', performAll changes .empty s = (.ok r, s') ∧ RemovesEarliest σ r := by
  obtain ⟨r, s', hrun, h⟩ := performAll_run hchanges isWellFormed_empty s
  exact ⟨r, s', hrun, h.removesEarliest⟩

def numbered (schema : String) (n : Value) : Value :=
  .object [(.str "sc", .str schema), (.str "dt", .object [(.str "n", n)])]

def numberKinds (p : Primitive) : List String :=
  p.entities.filterMap fun v => ((v.field? "dt").bind (·.field? "n")).map Value.kind

def always : Callable := .routine ⟨"always", [⟨"args", .variadic, false⟩], none, true⟩

def changes : List Change :=
  [.add (.list [numbered "a" (.int 1), numbered "b" (.int 1), .callable always]),
    .remove (.list [numbered "b" (.bool true)]),
    .add (.list [numbered "a" (.bool true), numbered "a" (.float .nan)]),
    .add (.list [.tuple [.callable always, numbered "a" (.int 1)]])]

def removed : List Value := [numbered "a" (.nan 1), numbered "a" (.float (.ofInt 1))]

theorem describesWellFormed_numbered (schema : String) {n : Value} (hn : n.IsWellFormed) :
    DescribesWellFormed (numbered schema n) := by
  have hstr : ∀ s, (Value.str s).IsWellFormed := fun s => Value.isWellFormed_of_leafKey? rfl
  have hdata : (Value.object [(.str "n", n)]).IsWellFormed :=
    Value.isWellFormed_object (List.pairwise_singleton _ _) (by simp [hstr, hn])
  intro e he v hv
  cases he
  cases List.mem_singleton.1 hv
  apply Value.isWellFormed_object
  . simp [Value.sameItem, Value.sameLeaf, Value.exactValue?]
  . simp [hstr, hdata]

theorem describesWellFormed_of_mem_changes :
    ∀ c ∈ changes, ∀ v ∈ c.inputs, DescribesWellFormed v := by
  have hone : (Value.int 1).IsWellFormed := Value.isWellFormed_of_leafKey? rfl
  have htrue : (Value.bool true).IsWellFormed := Value.isWellFormed_of_leafKey? rfl
  have hcallable : DescribesWellFormed (.callable always) := by
    rintro e ⟨⟩ v ⟨⟩
  have hpair : DescribesWellFormed (.tuple [.callable always, numbered "a" (.int 1)]) := by
    rintro e ⟨⟩
    exact describesWellFormed_numbered "a" hone (.primitive (.fixed _)) rfl
  simp only [changes, List.forall_mem_cons, Change.inputs, Value.elements?, Option.getD_some]
  simp [describesWellFormed_numbered, Value.isWellFormed_float, hone, htrue, hcallable, hpair]

theorem remove_earliest_numbered :
    ∃ r s', performAll changes .empty (.initial () (.whole 0) "" toString) = (.ok r, s')
      ∧ r.primitives.map numberKinds = [["int"], [], ["bool"], ["float"]]
      ∧ (∃ s'', remove (.list removed) r s' = (.ok (r.without removed), s''))
      ∧ (r.without removed).primitives.map numberKinds = [[], ["bool"], ["float"]]
      ∧ (r.without removed).providers = r.providers := by
  obtain ⟨r, s', hrun, h⟩ :=
    remove_earliest describesWellFormed_of_mem_changes (.initial () (.whole 0) "" toString)
  have hcomputed : ((performAll changes .empty (.initial () (.whole 0) "" toString)).1.map fun r =>
      (r.primitives.map numberKinds, (r.without removed).primitives.map numberKinds)).toOption
        = some ([["int"], [], ["bool"], ["float"]], [[], ["bool"], ["float"]]) := by
    decide +kernel
  rw [hrun] at hcomputed
  obtain ⟨hbefore, hafter⟩ := Prod.mk.inj (Option.some.inj hcomputed)
  have hremoved : ∀ x ∈ removed, DescribesWellFormed x := by
    rw [removed, List.forall_mem_cons, List.forall_mem_singleton]
    exact ⟨describesWellFormed_numbered "a" (Value.isWellFormed_of_leafKey? rfl),
      describesWellFormed_numbered "a" (Value.isWellFormed_float _)⟩
  refine ⟨r, s', hrun, hbefore, h.run rfl hremoved s', hafter, h.onlyPrimitives ?_⟩
  intro x hx p hp
  rcases List.mem_cons.1 hx with rfl | hx
  . cases hp
  . cases List.mem_singleton.1 hx
    cases hp

/-- An entity with a NaN is removed by one that holds the very same object. -/
theorem remove_same_nan :
    ∃ r s' s'', performAll [.add (.list [numbered "a" (.float .nan)])] .empty
        (.initial () (.whole 0) "" toString) = (.ok r, s')
      ∧ r.size = 1
      ∧ remove (.list [numbered "a" (.float .nan)]) r s' = (.ok .empty, s'') := by
  have hentry : ∀ e, Entry.ofValue? (numbered "a" (.float .nan)) = some e →
      empty.holds e = false ∧ ∀ v ∈ e.entities, v.IsWellFormed ∧ v.isNan = false := by
    intro e he
    have hwellFormed := describesWellFormed_numbered "a" (Value.isWellFormed_float .nan) e he
    cases he
    refine ⟨rfl, fun v hv => ⟨hwellFormed v hv, ?_⟩⟩
    cases List.mem_singleton.1 hv
    rfl
  have hvisits : (Value.list [numbered "a" (.float .nan)]).elements? = some [numbered "a" (.float .nan)] := rfl
  rcases hadded : performAll [.add (.list [numbered "a" (.float .nan)])] .empty
    (.initial () (.whole 0) "" toString) with ⟨outcome, s'⟩
  obtain ⟨s'', hremoved, _⟩ := remove_run hvisits (empty.insert (numbered "a" (.float .nan))) s'
  have hrestored : (empty.insert (numbered "a" (.float .nan))).eraseAll [numbered "a" (.float .nan)] = empty :=
    erase_insert hentry
  rw [hrestored] at hremoved
  cases hadded
  exact ⟨_, _, s'', rfl, rfl, hremoved⟩

end Registry

end EventTracking
