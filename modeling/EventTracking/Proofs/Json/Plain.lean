import EventTracking.Proofs.Json.Data

/-!
This module contains the theorem that data without floating point numbers is read back from its text as
it was, apart from tuples, which are read back as lists.
-/

namespace EventTracking

namespace Value

mutual

/-- Whether a value has no floating point numbers and only objects with text keys, each once. -/
def isPlain : Value → Bool
  | .float _ | .nan _ => false
  | .list xs => arePlain xs
  | .tuple xs => arePlain xs
  | .object es => decide (Pairs.ofEntries es).keys.Nodup && arePlainEntries es
  | _ => true

def arePlain : List Value → Bool
  | [] => true
  | x :: xs => x.isPlain && arePlain xs

def arePlainEntries : List (Value × Value) → Bool
  | [] => true
  | (k, v) :: rest => k.text?.isSome && v.isPlain && arePlainEntries rest

end

mutual

def listed : Value → Value
  | .list xs => .list (listedItems xs)
  | .tuple xs => .list (listedItems xs)
  | .object es => .object (listedEntries es)
  | v => v

def listedItems : List Value → List Value
  | [] => []
  | x :: xs => x.listed :: listedItems xs

def listedEntries : List (Value × Value) → List (Value × Value)
  | [] => []
  | (k, v) :: rest => (k, v.listed) :: listedEntries rest

end

theorem arePlain_iff {xs : List Value} : arePlain xs = true ↔ ∀ x ∈ xs, x.isPlain = true := by
  induction xs with
  | nil => simp [arePlain]
  | cons x xs ih => rw [arePlain, Bool.and_eq_true, ih, List.forall_mem_cons]

theorem listedItems_eq_map (xs : List Value) : listedItems xs = xs.map listed := by
  induction xs with
  | nil => rfl
  | cons x xs ih => rw [listedItems, ih, List.map_cons]

theorem foldl_setEntry {ms : List (String × Value)} {es : List (Value × Value)}
    (hms : (ms.map (·.1)).Nodup) (hes : ∀ m ∈ ms, ∀ e ∈ es, e.1 ≠ .str m.1) :
    ms.foldl (fun es m => setEntry m.1 m.2 es) es = es ++ ms.map fun m => (.str m.1, m.2) := by
  induction ms generalizing es with
  | nil => simp
  | cons m ms ih =>
    rw [List.map_cons, List.nodup_cons] at hms
    obtain ⟨hm, hrest⟩ := List.forall_mem_cons.1 hes
    rw [List.foldl_cons, setEntry_of_not_mem hm, ih hms.2]
    . simp
    . intro n hn e he
      rcases List.mem_append.1 he with he | he
      . exact hrest n hn e he
      . rw [List.mem_singleton.1 he]
        intro heq
        apply hms.1
        rw [str.inj heq]
        exact List.mem_map_of_mem hn

end Value

namespace Json

theorem isWritableInteger_of_integerText {n : Int} {text : String} (h : integerText n = .ok text) :
    Text.isWritableInteger n = true := by
  unfold integerText Text.integerText? at h
  generalize Text.isWritableInteger n = writable at h ⊢
  cases writable with
  | true => rfl
  | false => cases h

mutual

theorem ofData_plain (v : Value) (hv : v.isPlain = true) (j : Json) (h : ofData v = .ok j) :
    j.isExact = true ∧ j.toValue = v.listed := by
  unfold ofData at h
  cases v with
  | null | bool b | str s =>
    simp only [ofValue, Except.ok.injEq] at h
    subst h
    exact ⟨rfl, by simp [toValue, Value.listed]⟩
  | int n =>
    rw [ofValue] at h
    obtain ⟨text, htext, rfl⟩ := exists_of_map_eq_ok h
    have hn := isWritableInteger_of_integerText htext
    refine ⟨?_, by simp [toValue, Value.listed]⟩
    simpa only [isExact, everyScalar, isExactScalar] using hn
  | float | nan => simp [Value.isPlain] at hv
  | list xs | tuple xs =>
    rw [Value.isPlain] at hv
    rw [ofValue] at h
    obtain ⟨js, hjs, rfl⟩ := exists_of_map_eq_ok h
    obtain ⟨hexact, hvalues⟩ := ofItems_plain xs hv js hjs
    refine ⟨?_, by rw [toValue, Value.listed, hvalues]⟩
    simpa only [isExact, everyScalar] using hexact
  | object es =>
    rw [Value.isPlain, Bool.and_eq_true, decide_eq_true_iff] at hv
    rw [ofValue] at h
    obtain ⟨ms, hms, rfl⟩ := exists_of_map_eq_ok h
    obtain ⟨hexact, hentries, hkeys⟩ := ofEntries_plain es hv.2 ms hms
    refine ⟨by simpa only [isExact, everyScalar] using hexact, ?_⟩
    rw [toValue, Value.listed, Value.foldl_setEntry, List.nil_append, hentries]
    . rw [hkeys]
      exact hv.1
    . simp
  | _ => simp [ofValue] at h

theorem ofItems_plain (xs : List Value) (hxs : Value.arePlain xs = true) (js : List Json)
    (h : ofItems (fun _ => none) xs = .ok js) :
    everyItem isExactScalar js = true ∧ toValues js = Value.listedItems xs := by
  match xs with
  | [] =>
    cases h
    exact ⟨rfl, rfl⟩
  | x :: xs =>
    rw [Value.arePlain, Bool.and_eq_true] at hxs
    obtain ⟨j, js, hx, hjs, rfl⟩ := ofItems_cons_eq_ok_iff.1 h
    obtain ⟨hj, hvalue⟩ := ofData_plain x hxs.1 j hx
    obtain ⟨hrest, hvalues⟩ := ofItems_plain xs hxs.2 js hjs
    refine ⟨Bool.and_eq_true_iff.2 ⟨hj, hrest⟩, ?_⟩
    rw [toValues, Value.listedItems, hvalue, hvalues]

theorem ofEntries_plain (es : List (Value × Value)) (hes : Value.arePlainEntries es = true)
    (ms : List (String × Json)) (h : ofEntries (fun _ => none) es = .ok ms) :
    everyMember isExactScalar ms = true
      ∧ (toEntries ms).map (fun m => (Value.str m.1, m.2)) = Value.listedEntries es
      ∧ (toEntries ms).map (·.1) = (Pairs.ofEntries es).keys := by
  match es with
  | [] =>
    cases h
    exact ⟨rfl, rfl, rfl⟩
  | (k, v) :: es =>
    rw [Value.arePlainEntries, Bool.and_eq_true, Bool.and_eq_true] at hes
    obtain ⟨⟨hk, hv⟩, hes⟩ := hes
    cases k with
    | str name =>
      obtain ⟨_, j, ms, hname, hj, hms, rfl⟩ := ofEntries_cons_eq_ok_iff.1 h
      cases hname
      obtain ⟨hexact, hvalue⟩ := ofData_plain v hv j hj
      obtain ⟨hrest, hentries, hkeys⟩ := ofEntries_plain es hes ms hms
      refine ⟨Bool.and_eq_true_iff.2 ⟨hexact, hrest⟩, ?_, ?_⟩
      . rw [toEntries, Value.listedEntries, List.map_cons, hvalue, hentries]
      . rw [toEntries, List.map_cons, hkeys]
        rfl
    | _ => simp [Value.text?] at hk

end

/-! ### Documents of lists and tuples -/

mutual

theorem ofValue_listed (other : Value → Option String) (v : Value) :
    ofValue other v.listed = ofValue other v := by
  cases v with
  | list xs | tuple xs =>
    simp only [Value.listed, ofValue]
    rw [ofItems_listedItems]
  | object es =>
    simp only [Value.listed, ofValue]
    rw [ofEntries_listedEntries]
  | _ => simp only [Value.listed]

theorem ofItems_listedItems (other : Value → Option String) (xs : List Value) :
    ofItems other (Value.listedItems xs) = ofItems other xs := by
  match xs with
  | [] => rfl
  | x :: xs => rw [Value.listedItems, ofItems, ofItems, ofValue_listed, ofItems_listedItems]

theorem ofEntries_listedEntries (other : Value → Option String) (es : List (Value × Value)) :
    ofEntries other (Value.listedEntries es) = ofEntries other es := by
  match es with
  | [] => rfl
  | (k, v) :: es =>
    rw [Value.listedEntries, ofEntries, ofEntries, ofValue_listed, ofEntries_listedEntries]

end

end Json

/-! ### Objects of pairs -/

namespace Value

theorem ofEntries_ofPairs (ps : Pairs) : Pairs.ofEntries (ps.map fun (k, v) => (str k, v)) = ps := by
  rw [Pairs.ofEntries, List.filterMap_map]
  exact List.filterMap_some

theorem arePlainEntries_ofPairs (ps : Pairs) :
    arePlainEntries (ps.map fun (k, v) => (str k, v)) = ps.all fun p => p.2.isPlain := by
  induction ps with
  | nil => rfl
  | cons p ps ih => simp [arePlainEntries, text?, ih]

theorem isPlain_ofPairs {ps : Pairs} :
    (ofPairs ps).isPlain = true ↔ ps.keys.Nodup ∧ ∀ p ∈ ps, p.2.isPlain = true := by
  rw [ofPairs, isPlain, ofEntries_ofPairs, arePlainEntries_ofPairs, Bool.and_eq_true, decide_eq_true_iff,
    List.all_eq_true]

theorem listed_ofPairs (ps : Pairs) : (ofPairs ps).listed = ofPairs (ps.map fun p => (p.1, p.2.listed)) := by
  have hentries : listedEntries (ps.map fun (k, v) => (str k, v))
      = (ps.map fun p => (p.1, p.2.listed)).map fun (k, v) => (str k, v) := by
    induction ps with
    | nil => rfl
    | cons p ps ih => simp [listedEntries, ih]
  rw [ofPairs, listed, hentries, ofPairs]

theorem isSerializable_ofPairs {ps : Pairs} :
    (ofPairs ps).IsSerializable ↔ ∀ p ∈ ps, p.2.IsSerializable := by
  rw [ofPairs, isSerializable_object, AreSerializable, List.forall_mem_map]
  exact forall₂_congr fun p _ => and_iff_right ⟨p.1, rfl⟩

/-! ### Values that are read back as they are -/

structure IsFaithful (v : Value) : Prop where
  plain : v.isPlain = true
  serializable : v.IsSerializable
  listed : v.listed = v

theorem isFaithful_null : null.IsFaithful where
  plain := rfl
  serializable := ⟨.null, by simp [Json.ofData, Json.ofValue]⟩
  listed := by simp [listed]

theorem isFaithful_bool (b : Bool) : (bool b).IsFaithful where
  plain := rfl
  serializable := ⟨.bool b, by simp [Json.ofData, Json.ofValue]⟩
  listed := by simp [listed]

theorem isFaithful_int {n : Int} (h : Text.isWritableInteger n = true) : (int n).IsFaithful where
  plain := rfl
  serializable := ⟨.int n, by simp [Json.ofData, Json.ofValue, Json.integerText_eq_ok h, Except.map]⟩
  listed := by simp [listed]

theorem isFaithful_str (s : String) : (str s).IsFaithful where
  plain := rfl
  serializable := isSerializable_str s
  listed := by simp [listed]

theorem isFaithful_list {vs : List Value} (h : ∀ v ∈ vs, v.IsFaithful) : (list vs).IsFaithful where
  plain := by
    rw [isPlain, arePlain_iff]
    exact fun v hv => (h v hv).plain
  serializable := isSerializable_list.2 fun v hv => (h v hv).serializable
  listed := by
    have hlisted : ∀ v ∈ vs, v.listed = id v := fun v hv => (h v hv).listed
    rw [listed, listedItems_eq_map, List.map_congr_left hlisted, List.map_id]

theorem isFaithful_ofPairs {ps : Pairs} (hkeys : ps.keys.Nodup) (h : ∀ p ∈ ps, p.2.IsFaithful) :
    (ofPairs ps).IsFaithful where
  plain := isPlain_ofPairs.2 ⟨hkeys, fun p hp => (h p hp).plain⟩
  serializable := isSerializable_ofPairs.2 fun p hp => (h p hp).serializable
  listed := by
    have hlisted : ∀ p ∈ ps, (p.1, p.2.listed) = id p := by
      intro p hp
      rw [(h p hp).listed, id]
    rw [listed_ofPairs, List.map_congr_left hlisted, List.map_id]

end Value

end EventTracking
