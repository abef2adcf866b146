import EventTracking.Value

/-!
This module contains the entries of objects: what setting a text key does to them and to what is found
under a key, and what is true of a value because it is true of the parts.
-/

namespace EventTracking.Value

variable {key : String} {v : Value} {es : List (Value × Value)}

theorem isKey_iff {k : Value} : k.isKey key = true ↔ k = .str key := by
  cases k <;> simp [isKey]

theorem isNull_iff : v.isNull = true ↔ v = .null := by
  cases v <;> simp [isNull]

theorem mem_setEntry {e : Value × Value} (h : e ∈ setEntry key v es) : e = (.str key, v) ∨ e ∈ es := by
  induction es with
  | nil =>
    left
    simpa [setEntry] using h
  | cons f rest ih =>
    obtain ⟨k, w⟩ := f
    rw [setEntry] at h
    split at h
    . next hk =>
      rw [isKey_iff] at hk
      rcases List.mem_cons.1 h with rfl | h
      . exact Or.inl (by rw [hk])
      . exact Or.inr (List.mem_cons_of_mem _ h)
    . rcases List.mem_cons.1 h with rfl | h
      . exact Or.inr List.mem_cons_self
      . rcases ih h with h | h
        . exact Or.inl h
        . exact Or.inr (List.mem_cons_of_mem _ h)

theorem setEntry_of_not_mem (h : ∀ e ∈ es, e.1 ≠ .str key) :
    setEntry key v es = es ++ [(.str key, v)] := by
  induction es with
  | nil => rfl
  | cons f rest ih =>
    obtain ⟨k, w⟩ := f
    obtain ⟨hk, hrest⟩ := List.forall_mem_cons.1 h
    rw [setEntry, if_neg (by rw [isKey_iff]; exact hk), ih hrest, List.cons_append]

theorem field?_setEntry_self : (object (setEntry key v es)).field? key = some v := by
  induction es with
  | nil => simp [setEntry, field?, isKey]
  | cons f rest ih =>
    obtain ⟨k, w⟩ := f
    rw [setEntry]
    split
    . next hk => simp [field?, hk]
    . next hk => simpa [field?, hk] using ih

theorem field?_setEntry_of_ne {other : String} (h : other ≠ key) :
    (object (setEntry key v es)).field? other = (object es).field? other := by
  induction es with
  | nil => simp [setEntry, field?, isKey, h.symm]
  | cons f rest ih =>
    obtain ⟨k, w⟩ := f
    rw [setEntry]
    split
    . next hk =>
      have hother : k.isKey other = false := by
        rw [isKey_iff.1 hk]
        simpa [isKey] using h.symm
      simp [field?, hother]
    . next hk =>
      cases hother : k.isKey other with
      | true => simp [field?, hother]
      | false => simpa [field?, hother] using ih

/-! ### Predicates on values by their parts -/

structure Hereditary (P K : Value → Prop) : Prop where
  str : ∀ s, P (.str s)
  key : ∀ s, K (.str s)
  list_iff : ∀ xs, P (.list xs) ↔ ∀ x ∈ xs, P x
  tuple_iff : ∀ xs, P (.tuple xs) ↔ ∀ x ∈ xs, P x
  object_iff : ∀ es, P (.object es) ↔ ∀ e ∈ es, K e.1 ∧ P e.2

namespace Hereditary

variable {P K : Value → Prop} (hP : Hereditary P K)

include hP

theorem of_field? {w : Value} (hv : P v) (h : v.field? key = some w) : P w := by
  cases v with
  | object es =>
    rw [field?, Option.map_eq_some_iff] at h
    obtain ⟨e, he, rfl⟩ := h
    exact ((hP.object_iff es).1 hv e (List.mem_of_find?_eq_some he)).2
  | _ => cases h

theorem of_mem_items? {x : Value} {xs : List Value} (hv : P v) (h : v.items? = some xs) (hx : x ∈ xs) :
    P x := by
  cases v with
  | list ys =>
    cases h
    exact (hP.list_iff xs).1 hv x hx
  | tuple ys =>
    cases h
    exact (hP.tuple_iff xs).1 hv x hx
  | _ => cases h

theorem object_setEntry (hv : P v) (hes : P (.object es)) : P (.object (setEntry key v es)) := by
  rw [hP.object_iff] at hes ⊢
  intro e he
  rcases mem_setEntry he with rfl | he
  . exact ⟨hP.key key, hv⟩
  . exact hes e he

end Hereditary

end EventTracking.Value
