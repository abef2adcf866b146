import EventTracking.Value.Equality
import Mathlib.Data.List.Forall2

/-!
This module contains the laws of the equality of values. Among values whose objects have different keys and
whose sets have different items it is symmetric and transitive, and a value equals itself unless it is a NaN.
-/

namespace EventTracking

/-! ### Relations on a domain -/

structure IsPartialEquivalence {α : Type} (dom : α → Prop) (R : α → α → Prop) : Prop where
  symm : ∀ {a b : α}, dom a → dom b → R a b → R b a
  trans : ∀ {a b c : α}, dom a → dom b → dom c → R a b → R b c → R a c

def Matched {α : Type} (R : α → α → Prop) (xs ys : List α) : Prop :=
  xs.length = ys.length ∧ ∀ x ∈ xs, ∃ y ∈ ys, R x y

theorem matched_of_forall₂ {α : Type} {R : α → α → Prop} {xs ys : List α} (h : List.Forall₂ R xs ys) :
    Matched R xs ys := by
  refine ⟨h.length_eq, ?_⟩
  intro x hx
  obtain ⟨i, hi, rfl⟩ := List.getElem_of_mem hx
  have hi' : i < ys.length := h.length_eq ▸ hi
  exact ⟨ys[i], List.getElem_mem hi', h.get hi hi'⟩

theorem exists_partner {α : Type} {R : α → α → Prop} {xs ys : List α}
    (hlength : ys.length ≤ xs.length) (h : ∀ x ∈ xs, ∃ y ∈ ys, R x y)
    (different : xs.Pairwise fun x x' => ∀ y ∈ ys, R x y → ¬ R x' y) : ∀ y ∈ ys, ∃ x ∈ xs, R x y := by
  induction xs generalizing ys with
  | nil =>
    rw [List.eq_nil_of_length_eq_zero (Nat.le_zero.1 hlength)]
    simp
  | cons x xs ih =>
    obtain ⟨⟨y, hy, hxy⟩, hxs⟩ := List.forall_mem_cons.1 h
    obtain ⟨hdifferent, hdifferents⟩ := List.pairwise_cons.1 different
    obtain ⟨before, after, rfl⟩ := List.append_of_mem hy
    have hmem : ∀ z, z ∈ before ++ y :: after ↔ z = y ∨ z ∈ before ++ after := by
      intro z
      rw [List.perm_middle.mem_iff, List.mem_cons]
    -- The others have their partners among those that remain.
    have hrest : ∀ x' ∈ xs, ∃ y' ∈ before ++ after, R x' y' := by
      intro x' hx'
      obtain ⟨y', hy', hxy'⟩ := hxs x' hx'
      rcases (hmem y').1 hy' with rfl | hy'
      . exact absurd hxy' (hdifferent x' hx' y' hy hxy)
      . exact ⟨y', hy', hxy'⟩
    have hshorter : (before ++ after).length ≤ xs.length := by
      simp only [List.length_append, List.length_cons] at hlength ⊢
      omega
    have hall := ih hshorter hrest (hdifferents.imp fun hne z hz => hne z ((hmem z).2 (Or.inr hz)))
    intro z hz
    rcases (hmem z).1 hz with rfl | hz
    . exact ⟨x, List.mem_cons_self, hxy⟩
    . obtain ⟨x', hx', hxz⟩ := hall z hz
      exact ⟨x', List.mem_cons_of_mem _ hx', hxz⟩

namespace IsPartialEquivalence

variable {α : Type} {dom : α → Prop} {R : α → α → Prop} {a b c : α} {xs ys : List α}

theorem euclid (h : IsPartialEquivalence dom R) (ha : dom a) (hb : dom b) (hc : dom c) (hab : R a b)
    (hac : R a c) : R b c :=
  h.trans hb ha hc (h.symm ha hb hab) hac

theorem comap {β : Type} (h : IsPartialEquivalence dom R) (g : β → α) :
    IsPartialEquivalence (fun x => dom (g x)) fun x y => R (g x) (g y) :=
  ⟨h.symm, h.trans⟩

theorem eq_of_related (h : IsPartialEquivalence dom R) (hxs : ∀ x ∈ xs, dom x)
    (different : xs.Pairwise fun x x' => ¬ R x x') (ha : a ∈ xs) (hb : b ∈ xs) (hab : R a b) : a = b := by
  have hforward : xs.Pairwise fun x x' => R x x' → x = x' := different.imp fun hne hR => absurd hR hne
  have hbackward : xs.Pairwise fun x x' => R x' x → x' = x :=
    different.imp_of_mem fun hx hx' hne hR => absurd (h.symm (hxs _ hx') (hxs _ hx) hR) hne
  exact List.Pairwise.forall_of_forall_of_flip (fun _ _ _ => rfl) hforward hbackward ha hb hab

theorem forall₂ (h : IsPartialEquivalence dom R) :
    IsPartialEquivalence (fun xs : List α => ∀ x ∈ xs, dom x) (List.Forall₂ R) := by
  constructor
  . intro xs ys hxs hys hxy
    induction hxy with
    | nil => exact .nil
    | cons hab _ ih =>
      obtain ⟨ha, hxs⟩ := List.forall_mem_cons.1 hxs
      obtain ⟨hb, hys⟩ := List.forall_mem_cons.1 hys
      exact .cons (h.symm ha hb hab) (ih hxs hys)
  . intro xs ys zs hxs hys hzs hxy hyz
    induction hxy generalizing zs with
    | nil =>
      cases hyz
      exact .nil
    | cons hab _ ih =>
      cases hyz with
      | cons hbc hyz =>
        obtain ⟨ha, hxs⟩ := List.forall_mem_cons.1 hxs
        obtain ⟨hb, hys⟩ := List.forall_mem_cons.1 hys
        obtain ⟨hc, hzs⟩ := List.forall_mem_cons.1 hzs
        exact .cons (h.trans ha hb hc hab hbc) (ih hxs hys hzs hyz)

theorem exists_of_matched (h : IsPartialEquivalence dom R) (hxs : ∀ x ∈ xs, dom x)
    (hys : ∀ y ∈ ys, dom y) (different : xs.Pairwise fun x x' => ¬ R x x') (hxy : Matched R xs ys) :
    ∀ y ∈ ys, ∃ x ∈ xs, R x y := by
  apply exists_partner (Nat.le_of_eq hxy.1.symm) hxy.2
  apply different.imp_of_mem
  intro x x' hx hx' hne y hy hR hR'
  exact hne (h.trans (hxs x hx) (hys y hy) (hxs x' hx') hR (h.symm (hxs x' hx') (hys y hy) hR'))

theorem matched (h : IsPartialEquivalence dom R) :
    IsPartialEquivalence (fun xs : List α => (∀ x ∈ xs, dom x) ∧ xs.Pairwise fun x x' => ¬ R x x')
      (Matched R) := by
  constructor
  . intro xs ys ⟨hxs, different⟩ ⟨hys, _⟩ hxy
    refine ⟨hxy.1.symm, ?_⟩
    intro y hy
    obtain ⟨x, hx, hR⟩ := h.exists_of_matched hxs hys different hxy y hy
    exact ⟨x, hx, h.symm (hxs x hx) (hys y hy) hR⟩
  . intro xs ys zs ⟨hxs, _⟩ ⟨hys, _⟩ ⟨hzs, _⟩ hxy hyz
    refine ⟨hxy.1.trans hyz.1, ?_⟩
    intro x hx
    obtain ⟨y, hy, hR⟩ := hxy.2 x hx
    obtain ⟨z, hz, hS⟩ := hyz.2 y hy
    exact ⟨z, hz, h.trans (hxs x hx) (hys y hy) (hzs z hz) hR hS⟩

theorem prod {β : Type} {dom' : β → Prop} {S : β → β → Prop} (h : IsPartialEquivalence dom R)
    (h' : IsPartialEquivalence dom' S) :
    IsPartialEquivalence (fun p : α × β => dom p.1 ∧ dom' p.2) fun p q => R p.1 q.1 ∧ S p.2 q.2 := by
  constructor
  . intro p q hp hq hpq
    exact ⟨h.symm hp.1 hq.1 hpq.1, h'.symm hp.2 hq.2 hpq.2⟩
  . intro p q r hp hq hr hpq hqr
    exact ⟨h.trans hp.1 hq.1 hr.1 hpq.1 hqr.1, h'.trans hp.2 hq.2 hr.2 hpq.2 hqr.2⟩

end IsPartialEquivalence

namespace Value

variable {a b c : Value}

inductive LeafKey where
  | number (d : Dyadic)
  | instant (seconds : Int) (microsecond : Nat)
  | primitive (object : Nat)
  | provider (object : Nat)
  | plain (v : Value)

def leafKey? (v : Value) : Option LeafKey :=
  match v.exactValue? with
  | some d => some (.number d)
  | none =>
    match v with
    | .list _ | .tuple _ | .object _ | .set _ => none
    | .primitive _ n => some (.primitive n)
    | .provider _ n => some (.provider n)
    | .moment t =>
      match t.offset with
      | some p => some (.instant (t.clockSeconds - p) t.microsecond)
      | none => some (.plain (.moment t))
    | v => some (.plain v)

theorem exactValue?_of_leafKey? {d : Dyadic} (h : leafKey? a = some (.number d)) :
    a.exactValue? = some d := by
  unfold leafKey? at h
  split at h
  . next hexact =>
    cases h
    exact hexact
  . split at h
    all_goals first | cases h | (split at h <;> cases h)

theorem moment_of_leafKey? {seconds : Int} {microsecond : Nat}
    (h : leafKey? a = some (.instant seconds microsecond)) :
    ∃ t p, a = .moment t ∧ t.offset = some p ∧ t.clockSeconds - p = seconds
      ∧ t.microsecond = microsecond := by
  unfold leafKey? at h
  split at h
  . cases h
  . split at h
    case h_7 t _ =>
      split at h
      . next p hp =>
        cases h
        exact ⟨t, p, rfl, hp, rfl, rfl⟩
      . cases h
    all_goals cases h

theorem primitive_of_leafKey? {n : Nat} (h : leafKey? a = some (.primitive n)) :
    ∃ p, a = .primitive p n := by
  unfold leafKey? at h
  split at h
  . cases h
  . split at h
    case h_5 p _ _ =>
      cases h
      exact ⟨p, rfl⟩
    all_goals first | cases h | (split at h <;> cases h)

theorem provider_of_leafKey? {n : Nat} (h : leafKey? a = some (.provider n)) : ∃ p, a = .provider p n := by
  unfold leafKey? at h
  split at h
  . cases h
  . split at h
    case h_6 p _ _ =>
      cases h
      exact ⟨p, rfl⟩
    all_goals first | cases h | (split at h <;> cases h)

theorem eq_of_leafKey? {v : Value} (h : leafKey? a = some (.plain v)) : a = v := by
  unfold leafKey? at h
  split at h
  . cases h
  . split at h
    case h_7 t _ =>
      split at h
      . cases h
      . cases h
        rfl
    all_goals
      cases h
    rfl

theorem leafKey?_of_exactValue? {d : Dyadic} (h : a.exactValue? = some d) :
    leafKey? a = some (.number d) := by
  unfold leafKey?
  split
  . next hexact =>
    rw [hexact] at h
    cases h
    rfl
  . next hexact =>
    rw [hexact] at h
    cases h

theorem exists_leafKey?_of_same {s t : Moment} (h : s.same t) :
    ∃ k, leafKey? (.moment s) = some k ∧ leafKey? (.moment t) = some k := by
  unfold Moment.same at h
  split at h
  . next p q hp hq =>
    rw [Bool.and_eq_true, beq_iff_eq, beq_iff_eq] at h
    refine ⟨.instant (s.clockSeconds - p) s.microsecond, ?_, ?_⟩
    . simp [leafKey?, exactValue?, hp]
    . simp [leafKey?, exactValue?, hq, h.1, h.2]
  . next hs _ =>
    rw [beq_iff_eq] at h
    subst h
    have hkey : leafKey? (.moment s) = some (.plain (.moment s)) := by
      simp [leafKey?, exactValue?, hs]
    exact ⟨_, hkey, hkey⟩
  . cases h

theorem exists_leafKey?_of_sameLeaf (h : sameLeaf a b) :
    ∃ k, leafKey? a = some k ∧ leafKey? b = some k := by
  unfold sameLeaf at h
  split at h
  . next x y hx hy =>
    rw [beq_iff_eq] at h
    subst h
    exact ⟨.number x, leafKey?_of_exactValue? hx, leafKey?_of_exactValue? hy⟩
  . split at h
    case h_8 => exact exists_leafKey?_of_same h
    case h_13 =>
      rw [Bool.and_eq_true, beq_iff_eq, beq_iff_eq] at h
      rw [h.1, h.2]
      exact ⟨_, rfl, rfl⟩
    case h_14 => cases h
    all_goals
      try rw [beq_iff_eq] at h
      try subst h
      exact ⟨_, rfl, rfl⟩
  . cases h

theorem sameLeaf_self_of_plain (h : leafKey? a = some (.plain a)) : sameLeaf a a := by
  cases a with
  | float x =>
    cases x with
    | nan => rfl
    | infinity s => simp [sameLeaf, exactValue?, Binary64.toDyadic?]
    | finite => cases h
  | moment t =>
    cases ht : t.offset with
    | some p => simp [leafKey?, exactValue?, ht] at h
    | none => simp [sameLeaf, exactValue?, Moment.same, ht]
  | _ => first | (simp [sameLeaf, exactValue?]; done) | cases h

theorem sameLeaf_iff : sameLeaf a b ↔ ∃ k, leafKey? a = some k ∧ leafKey? b = some k := by
  refine ⟨exists_leafKey?_of_sameLeaf, ?_⟩
  rintro ⟨k, ha, hb⟩
  cases k with
  | number d =>
    unfold sameLeaf
    rw [exactValue?_of_leafKey? ha, exactValue?_of_leafKey? hb]
    exact beq_self_eq_true d
  | instant seconds microsecond =>
    obtain ⟨t, p, rfl, hp, hseconds, hmicro⟩ := moment_of_leafKey? ha
    obtain ⟨u, q, rfl, hq, hseconds', hmicro'⟩ := moment_of_leafKey? hb
    simp [sameLeaf, exactValue?, Moment.same, hp, hq, hseconds, hseconds', hmicro, hmicro']
  | primitive n =>
    obtain ⟨p, rfl⟩ := primitive_of_leafKey? ha
    obtain ⟨q, rfl⟩ := primitive_of_leafKey? hb
    exact beq_self_eq_true n
  | provider n =>
    obtain ⟨p, rfl⟩ := provider_of_leafKey? ha
    obtain ⟨q, rfl⟩ := provider_of_leafKey? hb
    exact beq_self_eq_true n
  | plain v =>
    cases eq_of_leafKey? ha
    cases eq_of_leafKey? hb
    exact sameLeaf_self_of_plain ha

theorem not_sameLeaf_left (h : leafKey? a = none) : ¬ sameLeaf a b := by
  intro hab
  obtain ⟨k, hk, _⟩ := sameLeaf_iff.1 hab
  rw [h] at hk
  cases hk

theorem not_sameLeaf_right (h : leafKey? b = none) : ¬ sameLeaf a b := by
  intro hab
  obtain ⟨k, _, hk⟩ := sameLeaf_iff.1 hab
  rw [h] at hk
  cases hk

theorem isPartialEquivalence_sameLeaf :
    IsPartialEquivalence (fun _ => True) fun a b => sameLeaf a b := by
  constructor
  . intro a b _ _ h
    obtain ⟨k, ha, hb⟩ := sameLeaf_iff.1 h
    exact sameLeaf_iff.2 ⟨k, hb, ha⟩
  . intro a b c _ _ _ hab hbc
    obtain ⟨k, ha, hb⟩ := sameLeaf_iff.1 hab
    obtain ⟨l, hb', hc⟩ := sameLeaf_iff.1 hbc
    rw [hb] at hb'
    cases hb'
    exact sameLeaf_iff.2 ⟨k, ha, hc⟩

/-! ### Containers -/

theorem sameItems_iff {xs ys : List Value} :
    sameItems xs ys = true ↔ List.Forall₂ (fun x y => sameItem x y = true) xs ys := by
  induction xs generalizing ys with
  | nil => cases ys <;> simp [sameItems]
  | cons x xs ih => cases ys <;> simp [sameItems, ih]

theorem allAmong_iff {xs ys : List Value} :
    allAmong xs ys = true ↔ ∀ x ∈ xs, ∃ y ∈ ys, sameItem x y = true := by
  induction xs with
  | nil => simp [allAmong]
  | cons x xs ih => simp [allAmong, ih]

theorem sameEntries_iff {es fs : List (Value × Value)} :
    sameEntries es fs = true
      ↔
    ∀ e ∈ es, ∃ f, fs.find? (fun f => sameItem e.1 f.1) = some f ∧ sameItem e.2 f.2 = true := by
  induction es with
  | nil => simp [sameEntries]
  | cons e es ih =>
    rw [sameEntries, Bool.and_eq_true, ih, List.forall_mem_cons]
    apply and_congr_left'
    cases fs.find? fun f => sameItem e.1 f.1 <;> simp

def SameEntry (e f : Value × Value) : Prop := sameItem e.1 f.1 = true ∧ sameItem e.2 f.2 = true

inductive Alike : Value → Value → Prop where
  | leaf {a b : Value} (h : sameLeaf a b = true) : Alike a b
  | list {xs ys : List Value} (h : List.Forall₂ (fun x y => sameItem x y = true) xs ys) :
      Alike (.list xs) (.list ys)
  | tuple {xs ys : List Value} (h : List.Forall₂ (fun x y => sameItem x y = true) xs ys) :
      Alike (.tuple xs) (.tuple ys)
  | object {es fs : List (Value × Value)} (h : Matched SameEntry es fs) : Alike (.object es) (.object fs)
  | set {xs ys : List Value} (h : Matched (fun x y => sameItem x y = true) xs ys) : Alike (.set xs) (.set ys)

theorem matched_of_sameEntries {es fs : List (Value × Value)} (hlength : es.length = fs.length)
    (h : sameEntries es fs = true) : Matched SameEntry es fs := by
  refine ⟨hlength, ?_⟩
  intro e he
  obtain ⟨f, hfind, hvalue⟩ := sameEntries_iff.1 h e he
  have hkey := List.find?_some hfind
  exact ⟨f, List.mem_of_find?_eq_some hfind, hkey, hvalue⟩

theorem alike_of_sameItem (h : sameItem a b = true) : Alike a b := by
  unfold sameItem at h
  split at h
  . exact .list (sameItems_iff.1 h)
  . exact .tuple (sameItems_iff.1 h)
  . rw [Bool.and_eq_true, beq_iff_eq] at h
    exact .object (matched_of_sameEntries h.1 h.2)
  . rw [Bool.and_eq_true, beq_iff_eq] at h
    exact .set ⟨h.1, allAmong_iff.1 h.2⟩
  . exact .leaf h

theorem sameItem_of_sameLeaf (h : sameLeaf a b = true) : sameItem a b = true := by
  unfold sameItem
  split
  any_goals cases h
  exact h

theorem sameItem_object {es fs : List (Value × Value)} (h : Matched SameEntry es fs)
    (unique : ∀ e ∈ es, ∀ f ∈ fs, ∀ f' ∈ fs, sameItem e.1 f.1 = true → sameItem e.1 f'.1 = true → f = f') :
    sameItem (.object es) (.object fs) = true := by
  rw [sameItem, Bool.and_eq_true, beq_iff_eq]
  refine ⟨h.1, sameEntries_iff.2 ?_⟩
  intro e he
  obtain ⟨f, hf, hkey, hvalue⟩ := h.2 e he
  cases hfind : fs.find? fun f => sameItem e.1 f.1 with
  | none => exact absurd hkey (List.find?_eq_none.1 hfind f hf)
  | some f' =>
    have hkey' := List.find?_some hfind
    cases unique e he f hf f' (List.mem_of_find?_eq_some hfind) hkey hkey'
    exact ⟨f, rfl, hvalue⟩

/-! ### Parts -/

inductive IsPart (v : Value) : Value → Prop where
  | self : IsPart v v
  | list {x : Value} {xs : List Value} (mem : x ∈ xs) (part : IsPart v x) : IsPart v (.list xs)
  | tuple {x : Value} {xs : List Value} (mem : x ∈ xs) (part : IsPart v x) : IsPart v (.tuple xs)
  | key {e : Value × Value} {es : List (Value × Value)} (mem : e ∈ es) (part : IsPart v e.1) :
      IsPart v (.object es)
  | value {e : Value × Value} {es : List (Value × Value)} (mem : e ∈ es) (part : IsPart v e.2) :
      IsPart v (.object es)
  | item {x : Value} {xs : List Value} (mem : x ∈ xs) (part : IsPart v x) : IsPart v (.set xs)

/-- Whether all objects in a value have different keys, and all sets in it different items, as they should. -/
structure IsWellFormed (v : Value) : Prop where
  keys : ∀ es, IsPart (.object es) v → es.Pairwise fun e f => ¬ sameItem e.1 f.1
  items : ∀ xs, IsPart (.set xs) v → xs.Pairwise fun x y => ¬ sameItem x y

theorem IsWellFormed.of_parts (h : b.IsWellFormed) (hparts : ∀ v, IsPart v a → IsPart v b) :
    a.IsWellFormed :=
  ⟨fun es hes => h.keys es (hparts _ hes), fun xs hxs => h.items xs (hparts _ hxs)⟩

theorem isWellFormed_of_leafKey? {k : LeafKey} (h : leafKey? a = some k) : a.IsWellFormed := by
  constructor
  . intro es hes
    cases hes <;> cases h
  . intro xs hxs
    cases hxs <;> cases h

theorem isWellFormed_float (x : Binary64) : (float x).IsWellFormed := by
  constructor
  . rintro es ⟨⟩
  . rintro xs ⟨⟩

theorem isWellFormed_object {es : List (Value × Value)} (different : es.Pairwise fun e f => ¬ sameItem e.1 f.1)
    (hes : ∀ e ∈ es, e.1.IsWellFormed ∧ e.2.IsWellFormed) : (object es).IsWellFormed := by
  constructor
  . intro fs hfs
    cases hfs with
    | self => exact different
    | key mem part => exact (hes _ mem).1.keys fs part
    | value mem part => exact (hes _ mem).2.keys fs part
  . intro xs hxs
    cases hxs with
    | key mem part => exact (hes _ mem).1.items xs part
    | value mem part => exact (hes _ mem).2.items xs part

/-- A value of limited size. The laws are proved by induction on the limit. -/
def WithinLimit (n : Nat) (v : Value) : Prop := v.IsWellFormed ∧ sizeOf v < n

namespace WithinLimit

variable {n : Nat} {xs : List Value} {es : List (Value × Value)}

theorem of_parts (h : WithinLimit (n + 1) b) (hparts : ∀ v, IsPart v a → IsPart v b)
    (hsize : sizeOf a < sizeOf b) : WithinLimit n a :=
  ⟨h.1.of_parts hparts, Nat.lt_of_lt_of_le hsize (Nat.le_of_lt_succ h.2)⟩

theorem list (h : WithinLimit (n + 1) (.list xs)) : ∀ x ∈ xs, WithinLimit n x := by
  intro x hx
  apply h.of_parts fun _ => .list hx
  have hsize := List.sizeOf_lt_of_mem hx
  rw [list.sizeOf_spec]
  omega

theorem tuple (h : WithinLimit (n + 1) (.tuple xs)) : ∀ x ∈ xs, WithinLimit n x := by
  intro x hx
  apply h.of_parts fun _ => .tuple hx
  have hsize := List.sizeOf_lt_of_mem hx
  rw [tuple.sizeOf_spec]
  omega

theorem object (h : WithinLimit (n + 1) (.object es)) :
    ∀ e ∈ es, WithinLimit n e.1 ∧ WithinLimit n e.2 := by
  intro e he
  have hsize := List.sizeOf_lt_of_mem he
  have hentry : sizeOf e = 1 + sizeOf e.1 + sizeOf e.2 := rfl
  constructor
  . apply h.of_parts fun _ => .key he
    rw [object.sizeOf_spec]
    omega
  . apply h.of_parts fun _ => .value he
    rw [object.sizeOf_spec]
    omega

theorem set (h : WithinLimit (n + 1) (.set xs)) : ∀ x ∈ xs, WithinLimit n x := by
  intro x hx
  apply h.of_parts fun _ => .item hx
  have hsize := List.sizeOf_lt_of_mem hx
  rw [set.sizeOf_spec]
  omega

theorem entries (h : WithinLimit (n + 1) (.object es)) :
    (∀ e ∈ es, WithinLimit n e.1 ∧ WithinLimit n e.2) ∧ es.Pairwise fun e f => ¬ SameEntry e f :=
  ⟨h.object, (h.1.keys es .self).imp fun hne hef => hne hef.1⟩

theorem items (h : WithinLimit (n + 1) (.set xs)) :
    (∀ x ∈ xs, WithinLimit n x) ∧ xs.Pairwise fun x y => ¬ sameItem x y :=
  ⟨h.set, h.1.items xs .self⟩

end WithinLimit

/-! ### Symmetry and transitivity -/

section

variable {n : Nat} (per : IsPartialEquivalence (WithinLimit n) fun a b => sameItem a b)

include per

theorem sameItem_iff_alike (ha : WithinLimit (n + 1) a) (hb : WithinLimit (n + 1) b) :
    sameItem a b ↔ Alike a b := by
  refine ⟨alike_of_sameItem, ?_⟩
  intro h
  cases h with
  | leaf h => exact sameItem_of_sameLeaf h
  | list h | tuple h =>
    rw [sameItem]
    exact sameItems_iff.2 h
  | object h =>
    apply sameItem_object h
    intro e he f hf f' hf' hkey hkey'
    have hkeys := per.comap (Prod.fst : Value × Value → Value)
    apply hkeys.eq_of_related (fun f hf => (hb.object f hf).1) (hb.1.keys _ .self) hf hf'
    exact hkeys.euclid (ha.object e he).1 (hb.object f hf).1 (hb.object f' hf').1 hkey hkey'
  | set h =>
    rw [sameItem, Bool.and_eq_true, beq_iff_eq]
    exact ⟨h.1, allAmong_iff.2 h.2⟩

theorem isPartialEquivalence_entry :
    IsPartialEquivalence (fun e => WithinLimit n e.1 ∧ WithinLimit n e.2) SameEntry :=
  per.prod per

theorem alike_symm (ha : WithinLimit (n + 1) a) (hb : WithinLimit (n + 1) b) (h : Alike a b) :
    Alike b a := by
  cases h with
  | leaf h => exact .leaf (isPartialEquivalence_sameLeaf.symm trivial trivial h)
  | list h => exact .list (per.forall₂.symm ha.list hb.list h)
  | tuple h => exact .tuple (per.forall₂.symm ha.tuple hb.tuple h)
  | object h =>
    exact .object ((isPartialEquivalence_entry per).matched.symm ha.entries hb.entries h)
  | set h => exact .set (per.matched.symm ha.items hb.items h)

theorem alike_trans (ha : WithinLimit (n + 1) a) (hb : WithinLimit (n + 1) b)
    (hc : WithinLimit (n + 1) c) (hab : Alike a b) (hbc : Alike b c) : Alike a c := by
  cases hab with
  | leaf h =>
    cases hbc with
    | leaf h' => exact .leaf (isPartialEquivalence_sameLeaf.trans trivial trivial trivial h h')
    | _ => exact absurd h (not_sameLeaf_right rfl)
  | list h =>
    cases hbc with
    | leaf h' => exact absurd h' (not_sameLeaf_left rfl)
    | list h' => exact .list (per.forall₂.trans ha.list hb.list hc.list h h')
  | tuple h =>
    cases hbc with
    | leaf h' => exact absurd h' (not_sameLeaf_left rfl)
    | tuple h' => exact .tuple (per.forall₂.trans ha.tuple hb.tuple hc.tuple h h')
  | object h =>
    cases hbc with
    | leaf h' => exact absurd h' (not_sameLeaf_left rfl)
    | object h' =>
      have hentries := (isPartialEquivalence_entry per).matched
      exact .object (hentries.trans ha.entries hb.entries hc.entries h h')
  | set h =>
    cases hbc with
    | leaf h' => exact absurd h' (not_sameLeaf_left rfl)
    | set h' => exact .set (per.matched.trans ha.items hb.items hc.items h h')

end

theorem isPartialEquivalence_withinLimit (n : Nat) :
    IsPartialEquivalence (WithinLimit n) fun a b => sameItem a b := by
  induction n with
  | zero => exact ⟨fun h => absurd h.2 (Nat.not_lt_zero _), fun h => absurd h.2 (Nat.not_lt_zero _)⟩
  | succ n ih =>
    constructor
    . intro a b ha hb hab
      rw [sameItem_iff_alike ih hb ha]
      exact alike_symm ih ha hb (alike_of_sameItem hab)
    . intro a b c ha hb hc hab hbc
      rw [sameItem_iff_alike ih ha hc]
      exact alike_trans ih ha hb hc (alike_of_sameItem hab) (alike_of_sameItem hbc)

theorem isPartialEquivalence_sameItem : IsPartialEquivalence IsWellFormed fun a b => sameItem a b := by
  constructor
  . intro a b ha hb hab
    have h := isPartialEquivalence_withinLimit (sizeOf a + sizeOf b + 1)
    exact h.symm ⟨ha, by omega⟩ ⟨hb, by omega⟩ hab
  . intro a b c ha hb hc hab hbc
    have h := isPartialEquivalence_withinLimit (sizeOf a + sizeOf b + sizeOf c + 1)
    exact h.trans ⟨ha, by omega⟩ ⟨hb, by omega⟩ ⟨hc, by omega⟩ hab hbc

/-! ### Values that equal themselves -/

theorem exists_leafKey?_of_not_container (hlist : ∀ xs, a ≠ .list xs) (htuple : ∀ xs, a ≠ .tuple xs)
    (hobject : ∀ es, a ≠ .object es) (hset : ∀ xs, a ≠ .set xs) : ∃ k, leafKey? a = some k := by
  unfold leafKey?
  split
  . exact ⟨_, rfl⟩
  . split
    case h_1 => exact absurd rfl (hlist _)
    case h_2 => exact absurd rfl (htuple _)
    case h_3 => exact absurd rfl (hobject _)
    case h_4 => exact absurd rfl (hset _)
    case h_7 => split <;> exact ⟨_, rfl⟩
    all_goals exact ⟨_, rfl⟩

theorem sameItem_self_withinLimit (n : Nat) : ∀ v, WithinLimit n v → sameItem v v := by
  induction n with
  | zero => exact fun v h => absurd h.2 (Nat.not_lt_zero _)
  | succ n ih =>
    intro v h
    rw [sameItem_iff_alike (isPartialEquivalence_withinLimit n) h h]
    have hleaf : (∃ k, leafKey? v = some k) → Alike v v := by
      rintro ⟨k, hk⟩
      exact .leaf (sameLeaf_iff.2 ⟨k, hk, hk⟩)
    cases v with
    | list xs => exact .list (List.forall₂_same.2 fun x hx => ih x (h.list x hx))
    | tuple xs => exact .tuple (List.forall₂_same.2 fun x hx => ih x (h.tuple x hx))
    | object es =>
      exact .object ⟨rfl, fun e he => ⟨e, he, ih e.1 (h.object e he).1, ih e.2 (h.object e he).2⟩⟩
    | set xs => exact .set ⟨rfl, fun x hx => ⟨x, hx, ih x (h.set x hx)⟩⟩
    | _ =>
      apply hleaf
      apply exists_leafKey?_of_not_container <;> rintro _ ⟨⟩

theorem sameItem_self (h : a.IsWellFormed) : sameItem a a :=
  sameItem_self_withinLimit (sizeOf a + 1) a ⟨h, Nat.lt_succ_self _⟩

/-! ### Values on their own -/

theorem leafKey?_of_isNan (h : a.isNan = true) : leafKey? a = some (.plain a) := by
  unfold isNan at h
  split at h
  . rfl
  . rfl
  . cases h

theorem eq_of_sameItem_of_isNan (ha : a.isNan = true) (h : sameItem a b) : b = a := by
  cases alike_of_sameItem h with
  | leaf h =>
    obtain ⟨k, hk, hb⟩ := sameLeaf_iff.1 h
    rw [leafKey?_of_isNan ha] at hk
    cases hk
    exact eq_of_leafKey? hb
  | _ => cases ha

theorem isPartialEquivalence_same : IsPartialEquivalence IsWellFormed fun a b => same a b := by
  constructor
  . intro a b ha hb hab
    rw [same, Bool.and_eq_true, Bool.not_eq_true'] at hab ⊢
    have hba := isPartialEquivalence_sameItem.symm ha hb hab.2
    refine ⟨?_, hba⟩
    by_contra hnan
    rw [Bool.not_eq_false] at hnan
    rw [eq_of_sameItem_of_isNan hnan hba, hnan] at hab
    cases hab.1
  . intro a b c ha hb hc hab hbc
    rw [same, Bool.and_eq_true] at hab hbc ⊢
    exact ⟨hab.1, isPartialEquivalence_sameItem.trans ha hb hc hab.2 hbc.2⟩

theorem same_self (h : a.IsWellFormed) (hnan : a.isNan = false) : same a a := by
  rw [same, hnan]
  exact sameItem_self h

theorem isPart_of_sameItem {v : Value} (hv : v.isNan = true) (h : IsPart v a) (hab : sameItem a b) :
    IsPart v b := by
  replace hab := alike_of_sameItem hab
  induction h generalizing b with
  | self =>
    cases hab with
    | leaf h =>
      rw [eq_of_sameItem_of_isNan hv (sameItem_of_sameLeaf h)]
      exact .self
    | _ => cases hv
  | list mem _ ih =>
    cases hab with
    | leaf h => exact absurd h (not_sameLeaf_left rfl)
    | list h =>
      obtain ⟨y, hy, hxy⟩ := (matched_of_forall₂ h).2 _ mem
      exact .list hy (ih (alike_of_sameItem hxy))
  | tuple mem _ ih =>
    cases hab with
    | leaf h => exact absurd h (not_sameLeaf_left rfl)
    | tuple h =>
      obtain ⟨y, hy, hxy⟩ := (matched_of_forall₂ h).2 _ mem
      exact .tuple hy (ih (alike_of_sameItem hxy))
  | key mem _ ih =>
    cases hab with
    | leaf h => exact absurd h (not_sameLeaf_left rfl)
    | object h =>
      obtain ⟨f, hf, hef⟩ := h.2 _ mem
      exact .key hf (ih (alike_of_sameItem hef.1))
  | value mem _ ih =>
    cases hab with
    | leaf h => exact absurd h (not_sameLeaf_left rfl)
    | object h =>
      obtain ⟨f, hf, hef⟩ := h.2 _ mem
      exact .value hf (ih (alike_of_sameItem hef.2))
  | item mem _ ih =>
    cases hab with
    | leaf h => exact absurd h (not_sameLeaf_left rfl)
    | set h =>
      obtain ⟨y, hy, hxy⟩ := h.2 _ mem
      exact .item hy (ih (alike_of_sameItem hxy))

theorem not_same_of_isNan {v : Value} (hv : v.isNan = true) (h : IsPart v a) (hb : ¬ IsPart v b) :
    ¬ same a b := by
  intro hab
  rw [same, Bool.and_eq_true] at hab
  exact hb (isPart_of_sameItem hv h hab.2)

end Value

end EventTracking
