import EventTracking.Pairs

/-!
This module contains what is found under a key after several pairs have been set in turn, and in which order
the keys stand then.
-/

namespace EventTracking.Pairs

variable {key : String} {v : Value} {ps qs : Pairs}

theorem get?_eq_none_iff : ps.get? key = none ↔ key ∉ ps.keys := by
  simp only [get?, List.lookup_eq_none_iff, keys, List.mem_map, bne_iff_ne, ne_eq, not_exists, not_and]
  exact forall₂_congr fun p _ => not_congr eq_comm

theorem get?_setAll (key : String) (more ps : Pairs) :
    (setAll more ps).get? key
      =
    ((more.filter (·.1 == key)).getLast?.map (·.2)).or (ps.get? key) := by
  induction more generalizing ps with
  | nil => rfl
  | cons p more ih =>
    have hset : setAll (p :: more) ps = setAll more (ps.set p.1 p.2) := rfl
    rw [hset, ih]
    by_cases hkey : p.1 = key
    . rw [List.filter_cons_of_pos (by simpa using hkey), List.getLast?_cons, ← hkey, get?_set_self]
      cases (more.filter (·.1 == p.1)).getLast? <;> rfl
    . rw [List.filter_cons_of_neg (by simpa using hkey), get?_set_of_ne (Ne.symm hkey)]

theorem setAll_append (more more' ps : Pairs) : setAll (more ++ more') ps = setAll more' (setAll more ps) :=
  List.foldl_append

theorem set_of_not_mem (h : key ∉ ps.keys) (v : Value) : ps.set key v = ps ++ [(key, v)] := by
  induction ps with
  | nil => rfl
  | cons p ps ih =>
    rw [keys, List.map_cons, List.mem_cons, not_or] at h
    rw [set, if_neg (Ne.symm h.1), ih h.2, List.cons_append]

theorem setAll_eq_append {more : Pairs} (h : (ps ++ more).keys.Nodup) : setAll more ps = ps ++ more := by
  induction more generalizing ps with
  | nil => rw [List.append_nil, setAll, List.foldl_nil]
  | cons p more ih =>
    have hkey : p.1 ∉ ps.keys := by
      rw [keys, List.map_append, List.map_cons] at h
      exact fun hmem => (List.nodup_append.1 h).2.2 p.1 hmem p.1 List.mem_cons_self rfl
    rw [List.append_cons] at h ⊢
    rw [setAll, List.foldl_cons, set_of_not_mem hkey]
    exact ih h

theorem get?_setAll_of_not_mem {more : Pairs} (h : key ∉ more.keys) (ps : Pairs) :
    (setAll more ps).get? key = ps.get? key := by
  have hnone : more.filter (·.1 == key) = [] := by
    rw [List.filter_eq_nil_iff]
    rintro p hp heq
    exact h (List.mem_map.2 ⟨p, hp, by simpa using heq⟩)
  rw [get?_setAll, hnone]
  rfl

theorem get?_setNonNull_congr (h : ps.get? key = qs.get? key) (k : String) (v : Value) :
    (ps.setNonNull k v).get? key = (qs.setNonNull k v).get? key := by
  unfold setNonNull
  split
  . exact h
  . by_cases hk : key = k
    . rw [hk, get?_set_self, get?_set_self]
    . rw [get?_set_of_ne hk, get?_set_of_ne hk, h]

theorem get?_setAllNonNull_congr (h : ps.get? key = qs.get? key) (more : Pairs) :
    (setAllNonNull more ps).get? key = (setAllNonNull more qs).get? key := by
  induction more generalizing ps qs with
  | nil => exact h
  | cons p more ih => exact ih (get?_setNonNull_congr h p.1 p.2)

theorem get?_setNonNull_of_ne {k : String} (h : key ≠ k) (v : Value) (ps : Pairs) :
    (ps.setNonNull k v).get? key = ps.get? key := by
  unfold setNonNull
  split
  . rfl
  . exact get?_set_of_ne h v ps

theorem get?_setAllNonNull_of_not_mem {more : Pairs} (h : key ∉ more.keys) (ps : Pairs) :
    (setAllNonNull more ps).get? key = ps.get? key := by
  induction more generalizing ps with
  | nil => rfl
  | cons p more ih =>
    rw [keys, List.map_cons, List.mem_cons, not_or] at h
    exact (ih h.2 _).trans (get?_setNonNull_of_ne h.1 p.2 ps)

theorem get?_cons (key : String) (p : String × Value) (ps : Pairs) :
    get? key (p :: ps) = if key = p.1 then some p.2 else ps.get? key := by
  unfold get?
  rw [List.lookup_cons]
  by_cases hkey : key = p.1
  . rw [if_pos hkey, beq_iff_eq.2 hkey]
  . rw [if_neg hkey, beq_eq_false_iff_ne.2 hkey]

theorem mem_of_get? (h : ps.get? key = some v) : (key, v) ∈ ps := by
  obtain ⟨before, after, rfl, _⟩ := List.lookup_eq_some_iff.1 h
  exact List.mem_append_right before List.mem_cons_self

theorem get?_eq_some_iff (h : ps.keys.Nodup) : ps.get? key = some v ↔ (key, v) ∈ ps := by
  refine ⟨mem_of_get?, fun hmem => ?_⟩
  induction ps with
  | nil => cases hmem
  | cons p ps ih =>
    rw [keys, List.map_cons, List.nodup_cons] at h
    rw [get?_cons]
    rcases List.mem_cons.1 hmem with rfl | hmem
    . rw [if_pos rfl]
    . have hkey : key ≠ p.1 := fun heq => h.1 (heq ▸ List.mem_map_of_mem hmem)
      rw [if_neg hkey, ih h.2 hmem]

theorem get?_setAllNonNull {more : Pairs} (h : more.keys.Nodup) (ps : Pairs) :
    (setAllNonNull more ps).get? key
      =
    ((get? key more).filter fun v => !v.isNull).or (ps.get? key) := by
  induction more generalizing ps with
  | nil => rfl
  | cons p more ih =>
    obtain ⟨hp, hmore⟩ := List.nodup_cons.1 h
    have hset : setAllNonNull (p :: more) ps = setAllNonNull more (ps.setNonNull p.1 p.2) := rfl
    rw [hset, ih hmore, get?_cons]
    by_cases hkey : key = p.1
    . have hrest : get? key more = none := by
        rw [get?_eq_none_iff, hkey]
        exact hp
      rw [hrest, if_pos hkey, setNonNull, hkey]
      cases hnull : p.2.isNull with
      | true => simp [Option.filter, hnull]
      | false => simp [Option.filter, hnull, get?_set_self]
    . rw [if_neg hkey, get?_setNonNull_of_ne hkey]

theorem setAllNonNull_eq_setAll {more : Pairs} (h : ∀ p ∈ more, p.2.isNull = false) (ps : Pairs) :
    setAllNonNull more ps = setAll more ps := by
  induction more generalizing ps with
  | nil => rfl
  | cons p more ih =>
    obtain ⟨hp, hmore⟩ := List.forall_mem_cons.1 h
    have hset : ps.setNonNull p.1 p.2 = ps.set p.1 p.2 := by
      rw [setNonNull, hp, if_neg Bool.false_ne_true]
    exact (ih hmore _).trans (congrArg (setAll more) hset)

theorem get?_erase_self (key : String) (ps : Pairs) : (ps.erase key).get? key = none := by
  rw [get?_eq_none_iff]
  simp [erase, keys]

theorem get?_erase_of_ne {k : String} (h : key ≠ k) (ps : Pairs) :
    (ps.erase k).get? key = ps.get? key := by
  induction ps with
  | nil => rfl
  | cons p ps ih =>
    unfold erase get? at ih ⊢
    by_cases hp : p.1 = k
    . have hkey : (key == p.1) = false := by simpa [hp] using h
      rw [List.filter_cons_of_neg (by simpa using hp), ih, List.lookup_cons, hkey]
    . rw [List.filter_cons_of_pos (by simpa using hp), List.lookup_cons, List.lookup_cons, ih]

/-! ### Keys -/

theorem keys_set (key : String) (v : Value) (ps : Pairs) :
    (ps.set key v).keys = if key ∈ ps.keys then ps.keys else ps.keys ++ [key] := by
  induction ps with
  | nil => rfl
  | cons p ps ih =>
    obtain ⟨k, w⟩ := p
    unfold keys at ih ⊢
    by_cases hk : k = key
    . simp [set, hk]
    . rw [set, if_neg hk, List.map_cons, ih, List.map_cons]
      by_cases hmem : key ∈ ps.map (·.1)
      . rw [if_pos hmem, if_pos (List.mem_cons_of_mem _ hmem)]
      . rw [if_neg hmem, if_neg (by simpa [Ne.symm hk] using hmem), List.cons_append]

theorem keys_setAll (more ps : Pairs) :
    (setAll more ps).keys = ps.keys ++ (more.keys.filter (· ∉ ps.keys)).eraseDups := by
  induction more generalizing ps with
  | nil => simp [setAll, keys]
  | cons p more ih =>
    have hset : setAll (p :: more) ps = setAll more (ps.set p.1 p.2) := rfl
    have hkeys : keys (p :: more) = p.1 :: keys more := rfl
    rw [hset, ih, keys_set, hkeys]
    by_cases hp : p.1 ∈ ps.keys
    . rw [if_pos hp, List.filter_cons_of_neg (by simpa using hp)]
    . rw [if_neg hp, List.filter_cons_of_pos (by simpa using hp), List.eraseDups_cons, List.filter_filter,
        List.append_assoc, List.singleton_append]
      congr 4
      funext k
      by_cases hk : k = p.1 <;> simp [hk]

/-- What is true of no pairs and kept by every change that is made to pairs one at a time. -/
structure IsKept (P : Pairs → Prop) : Prop where
  nil : P []
  set : ∀ {ps} key {v}, v.isNull = false → P ps → P (ps.set key v)
  erase : ∀ {ps} key, P ps → P (ps.erase key)

variable {P : Pairs → Prop}

theorem IsKept.setNonNull (hP : IsKept P) (h : P ps) (key : String) (v : Value) : P (ps.setNonNull key v) := by
  unfold Pairs.setNonNull
  split
  . exact h
  . next hv =>
    rw [Bool.not_eq_true] at hv
    exact hP.set key hv h

theorem IsKept.setAllNonNull (hP : IsKept P) (more : Pairs) (h : P ps) : P (setAllNonNull more ps) := by
  induction more generalizing ps with
  | nil => exact h
  | cons p more ih => exact ih (hP.setNonNull h p.1 p.2)

theorem isKept_nodup : IsKept fun ps => ps.keys.Nodup where
  nil := List.nodup_nil
  set key v _ h := by
    rw [keys_set]
    split
    . exact h
    . next hkey =>
      rw [List.nodup_append]
      refine ⟨h, by simp, ?_⟩
      rintro k hk _ hmem rfl
      rw [List.mem_singleton] at hmem
      exact hkey (hmem ▸ hk)
  erase _ h := h.sublist (List.filter_sublist.map _)

theorem eq_or_mem_of_mem_set {p : String × Value} (h : p ∈ ps.set key v) : p = (key, v) ∨ p ∈ ps := by
  induction ps with
  | nil => exact .inl (List.mem_singleton.1 h)
  | cons q ps ih =>
    rw [set] at h
    split at h
    . exact (List.mem_cons.1 h).imp id (List.mem_cons_of_mem q)
    . rcases List.mem_cons.1 h with rfl | h
      . exact .inr List.mem_cons_self
      . exact (ih h).imp id (List.mem_cons_of_mem q)

theorem isKept_nonNull : IsKept fun ps => ∀ p ∈ ps, p.2.isNull = false where
  nil := by simp
  set key _ hv h p hp := by
    rcases eq_or_mem_of_mem_set hp with rfl | hp
    . exact hv
    . exact h p hp
  erase _ h p hp := h p (List.mem_filter.1 hp).1

end EventTracking.Pairs
