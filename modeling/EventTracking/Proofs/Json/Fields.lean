import EventTracking.Proofs.Json.Plain

/-!
This module contains the theorem that the fields of an object are read back from its text: under a text key
stands what the value under that key is read back as, whatever the numbers in the object are.
-/

namespace EventTracking

open Json

/-! ### Values that have a document -/

namespace Json

mutual

theorem isWritable_of_ofData (v : Value) (j : Json) (h : ofData v = .ok j) : j.isWritable = true := by
  unfold ofData at h
  cases v with
  | null | bool | float | nan | str =>
    simp only [ofValue, Except.ok.injEq] at h
    subst h
    rfl
  | int n =>
    rw [ofValue] at h
    obtain ⟨text, htext, rfl⟩ := exists_of_map_eq_ok h
    simpa only [isWritable, everyScalar, isWritableScalar] using isWritableInteger_of_integerText htext
  | list xs | tuple xs =>
    rw [ofValue] at h
    obtain ⟨js, hjs, rfl⟩ := exists_of_map_eq_ok h
    exact areWritable_of_ofItems xs js hjs
  | object es =>
    rw [ofValue] at h
    obtain ⟨ms, hms, rfl⟩ := exists_of_map_eq_ok h
    exact areWritable_of_ofEntries es ms hms
  | _ => simp [ofValue] at h

theorem areWritable_of_ofItems (xs : List Value) (js : List Json) (h : ofItems (fun _ => none) xs = .ok js) :
    everyItem isWritableScalar js = true := by
  match xs with
  | [] =>
    cases h
    rfl
  | x :: xs =>
    obtain ⟨j, js, hx, hjs, rfl⟩ := ofItems_cons_eq_ok_iff.1 h
    exact Bool.and_eq_true_iff.2 ⟨isWritable_of_ofData x j hx, areWritable_of_ofItems xs js hjs⟩

theorem areWritable_of_ofEntries (es : List (Value × Value)) (ms : List (String × Json))
    (h : ofEntries (fun _ => none) es = .ok ms) : everyMember isWritableScalar ms = true := by
  match es with
  | [] =>
    cases h
    rfl
  | (k, v) :: es =>
    obtain ⟨_, j, ms, _, hj, hms, rfl⟩ := ofEntries_cons_eq_ok_iff.1 h
    exact Bool.and_eq_true_iff.2 ⟨isWritable_of_ofData v j hj, areWritable_of_ofEntries es ms hms⟩

end

/-! ### Member names -/

/-- Whether only a text key can have a name: keys of other kinds have names that start otherwise. -/
def IsOwnName (key : String) : Prop :=
  ∃ c rest, key.toList = c :: rest ∧ c.isDigit = false ∧ c ∉ ['-', 'N', 'I', 'n', 't', 'f']

theorem IsOwnName.eq_str {k : Value} {key : String} (hkey : IsOwnName key) (h : keyText k = .ok key) :
    k = .str key := by
  obtain ⟨c, rest, hchars, hdigit, hletter⟩ := hkey
  have hnot : ∀ d cs, key.toList = d :: cs →
      d.isDigit = true ∨ d ∈ ['-', 'N', 'I', 'n', 't', 'f'] → False := by
    intro d cs hd
    cases hd.symm.trans hchars
    rintro (hd | hd)
    . rw [hdigit] at hd
      cases hd
    . exact hletter hd
  cases k with
  | str =>
    cases h
    rfl
  | null =>
    cases h
    exact (hnot 'n' _ rfl (by simp)).elim
  | bool b =>
    cases h
    cases b with
    | true => exact (hnot 't' _ rfl (by simp)).elim
    | false => exact (hnot 'f' _ rfl (by simp)).elim
  | int n =>
    rw [keyText] at h
    have htext : key = toString n := by
      rw [integerText_eq_ok (isWritableInteger_of_integerText h)] at h
      exact (Except.ok.inj h).symm
    cases n with
    | ofNat m =>
      obtain ⟨d, cs, hcs, hd⟩ := exists_toDigits_eq_cons m
      refine (hnot d cs ?_ (Or.inl hd)).elim
      rw [htext, Int.ofNat_eq_natCast, toList_toString_natCast, hcs]
    | negSucc m =>
      refine (hnot '-' (Nat.toDigits 10 (m + 1)) ?_ (by simp)).elim
      rw [htext, toList_toString_negSucc]
  | float x =>
    cases h
    obtain ⟨d, cs, hcs, hd⟩ := exists_render_eq_cons x
    refine (hnot d cs hcs ?_).elim
    rcases hd with hd | rfl | rfl | rfl
    . exact Or.inl hd
    . simp
    . simp
    . simp
  | nan =>
    cases h
    exact (hnot 'N' _ rfl (by simp)).elim
  | _ => cases h

end Json

/-! ### Fields -/

namespace Value

def reread? (v : Value) : Option Value := (ofData v).toOption.map fun j => j.reread.toValue

theorem reread?_eq_some {v : Value} {j : Json} (h : ofData v = .ok j) : v.reread? = some j.reread.toValue := by
  rw [reread?, h]
  rfl

theorem reread?_of_isPlain {v : Value} (hplain : v.isPlain = true) (h : v.IsSerializable) :
    v.reread? = some v.listed := by
  obtain ⟨j, hj⟩ := h
  obtain ⟨hexact, hvalue⟩ := ofData_plain v hplain j hj
  rw [reread?_eq_some hj, reread_of_isExact j hexact, hvalue]

def HasKeysOnce : Value → Prop
  | .object es => (Pairs.ofEntries es).keys.Nodup
  | _ => True

variable {key : String} {v : Value} {es : List (Value × Value)}

theorem keys_ofEntries_cons (k v : Value) (es : List (Value × Value)) :
    (Pairs.ofEntries ((k, v) :: es)).keys = k.text?.toList ++ (Pairs.ofEntries es).keys := by
  cases k <;> rfl

theorem field?_eq_none (h : key ∉ (Pairs.ofEntries es).keys) : (object es).field? key = none := by
  rw [field?, Option.map_eq_none_iff, List.find?_eq_none]
  rintro ⟨k, v⟩ he hk
  cases isKey_iff.1 hk
  have hmem : (key, v) ∈ Pairs.ofEntries es := List.mem_filterMap.2 ⟨_, he, rfl⟩
  exact h (List.mem_map_of_mem hmem)

theorem field?_foldl_reread (hkey : IsOwnName key) {ms : List (String × Json)}
    (h : ofEntries (fun _ => none) es = .ok ms) (hes : (Pairs.ofEntries es).keys.Nodup)
    (init : List (Value × Value)) :
    (object ((toEntries (rereadMembers ms)).foldl (fun es m => setEntry m.1 m.2 es) init)).field? key
      =
    (((object es).field? key).bind reread?).or ((object init).field? key) := by
  induction es generalizing ms init with
  | nil =>
    cases h
    rfl
  | cons e es ih =>
    obtain ⟨k, v⟩ := e
    obtain ⟨name, j, ms, hname, hj, hms, rfl⟩ := ofEntries_cons_eq_ok_iff.1 h
    rw [keys_ofEntries_cons] at hes
    rw [rereadMembers, toEntries, List.foldl_cons, ih hms (List.nodup_append.1 hes).2.1]
    by_cases hk : k = .str key
    . subst hk
      cases hname
      have hself : (object ((str key, v) :: es)).field? key = some v := by simp [field?, isKey]
      rw [hself, Option.bind_some, reread?_eq_some hj, field?_eq_none (List.nodup_cons.1 hes).1]
      exact field?_setEntry_self
    . have hother : (object ((k, v) :: es)).field? key = (object es).field? key := by
        simp [field?, mt isKey_iff.1 hk]
      have hne : key ≠ name := by
        rintro rfl
        exact hk (hkey.eq_str hname)
      rw [hother, field?_setEntry_of_ne hne]

theorem reread_of_ne_object {j : Json} (h : ofData v = .ok j) (hv : ∀ es, v ≠ .object es) :
    (∀ key, j.reread.toValue.field? key = none) ∧ j.reread.toValue.text? = v.text? := by
  unfold ofData at h
  cases v with
  | null | bool | float | nan | str =>
    simp only [ofValue, Except.ok.injEq] at h
    subst h
    simp [Json.reread, toValue, field?, text?]
  | int n =>
    rw [ofValue] at h
    obtain ⟨_, _, rfl⟩ := exists_of_map_eq_ok h
    simp [Json.reread, toValue, field?, text?]
  | list xs | tuple xs =>
    rw [ofValue] at h
    obtain ⟨_, _, rfl⟩ := exists_of_map_eq_ok h
    simp [Json.reread, toValue, field?, text?]
  | object es => exact absurd rfl (hv es)
  | _ => simp [ofValue] at h

theorem exists_reread_object {j : Json} (h : ofData (.object es) = .ok j) :
    ∃ ms, ofEntries (fun _ => none) es = .ok ms
      ∧ j.reread.toValue = object ((toEntries (rereadMembers ms)).foldl (fun es m => setEntry m.1 m.2 es) []) := by
  rw [ofData, ofValue] at h
  obtain ⟨ms, hms, rfl⟩ := exists_of_map_eq_ok h
  exact ⟨ms, hms, by rw [Json.reread, toValue]⟩

theorem bind_field?_reread? (hkey : IsOwnName key) (h : v.IsSerializable) (hv : v.HasKeysOnce) :
    (v.reread?.bind fun w => w.field? key) = (v.field? key).bind reread? := by
  obtain ⟨j, hj⟩ := h
  rw [reread?_eq_some hj, Option.bind_some]
  by_cases hobject : ∃ es, v = .object es
  . obtain ⟨es, rfl⟩ := hobject
    obtain ⟨ms, hms, hvalue⟩ := exists_reread_object hj
    rw [hvalue, field?_foldl_reread hkey hms hv]
    exact Option.or_none
  . have hne : ∀ es, v ≠ .object es := fun es hes => hobject ⟨es, hes⟩
    have hnone : v.field? key = none := by
      cases v with
      | object es => exact absurd rfl (hne es)
      | _ => rfl
    rw [(reread_of_ne_object hj hne).1 key, hnone]
    rfl

theorem bind_text?_reread? (h : v.IsSerializable) : v.reread?.bind text? = v.text? := by
  obtain ⟨j, hj⟩ := h
  rw [reread?_eq_some hj, Option.bind_some]
  by_cases hobject : ∃ es, v = .object es
  . obtain ⟨es, rfl⟩ := hobject
    obtain ⟨ms, _, hvalue⟩ := exists_reread_object hj
    rw [hvalue]
    rfl
  . exact (reread_of_ne_object hj fun es hes => hobject ⟨es, hes⟩).2

end Value

end EventTracking
