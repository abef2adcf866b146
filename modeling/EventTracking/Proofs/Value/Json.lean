import EventTracking.Proofs.Json.Plain

/-!
This module contains the values that JSON has. Those without floating point numbers are read back from their
text as they are; only an integer of too many digits keeps a value from having a text.
-/

namespace EventTracking.Value

/-- What JSON has: no tuples, and objects with text keys, each once. -/
inductive IsJson : Value → Prop where
  | null : IsJson .null
  | bool (b : Bool) : IsJson (.bool b)
  | int (n : Int) : IsJson (.int n)
  | float (x : Binary64) : IsJson (.float x)
  | nan (object : Nat) : IsJson (.nan object)
  | str (s : String) : IsJson (.str s)
  | list {xs : List Value} (items : ∀ x ∈ xs, IsJson x) : IsJson (.list xs)
  | object {ps : Pairs} (keys : ps.keys.Nodup) (values : ∀ p ∈ ps, IsJson p.2) : IsJson (.ofPairs ps)

variable {v : Value}

theorem areWritable_iff {xs : List Value} : areWritable xs = true ↔ ∀ x ∈ xs, x.isWritable = true := by
  induction xs with
  | nil => simp [areWritable]
  | cons x xs ih => rw [areWritable, Bool.and_eq_true, ih, List.forall_mem_cons]

theorem isWritable_ofPairs {ps : Pairs} :
    (ofPairs ps).isWritable = true ↔ ∀ p ∈ ps, p.2.isWritable = true := by
  rw [ofPairs, isWritable]
  induction ps with
  | nil => simp [areWritableEntries]
  | cons p ps ih =>
    rw [List.map_cons, areWritableEntries, Bool.and_eq_true, Bool.and_eq_true, ih, List.forall_mem_cons]
    simp [isWritable]

theorem IsJson.isFaithful (h : v.IsJson) (hplain : v.isPlain = true) (hwritable : v.isWritable = true) :
    v.IsFaithful := by
  induction h with
  | null => exact isFaithful_null
  | bool b => exact isFaithful_bool b
  | int n =>
    apply isFaithful_int
    simpa [isWritable] using hwritable
  | float | nan => simp [isPlain] at hplain
  | str s => exact isFaithful_str s
  | list items ih =>
    rw [isPlain, arePlain_iff] at hplain
    rw [isWritable, areWritable_iff] at hwritable
    exact isFaithful_list fun x hx => ih x hx (hplain x hx) (hwritable x hx)
  | object keys values ih =>
    rw [isPlain_ofPairs] at hplain
    rw [isWritable_ofPairs] at hwritable
    exact isFaithful_ofPairs keys fun p hp => ih p hp (hplain.2 p hp) (hwritable p hp)

theorem IsJson.eq_longInteger (h : v.IsJson) {o : Json.Obstacle} (hv : Json.ofData v = .error o) :
    o = .longInteger := by
  induction h with
  | int n =>
    rw [Json.ofData, Json.ofValue] at hv
    have hn := Json.eq_error_of_map_eq_error hv
    unfold Json.integerText at hn
    split at hn
    . cases hn
    . exact (Except.error.inj hn).symm
  | list items ih =>
    rw [Json.ofData, Json.ofValue] at hv
    obtain ⟨x, hx, heq⟩ := Json.exists_of_ofItems_eq_error (Json.eq_error_of_map_eq_error hv)
    exact ih x hx heq
  | object keys values ih =>
    rw [ofPairs, Json.ofData, Json.ofValue] at hv
    obtain ⟨e, he, heq⟩ := Json.exists_of_ofEntries_eq_error (Json.eq_error_of_map_eq_error hv)
    obtain ⟨p, hp, rfl⟩ := List.mem_map.1 he
    rcases heq with hkey | hvalue
    . cases hkey
    . exact ih p hp hvalue
  | _ => simp [Json.ofData, Json.ofValue] at hv

theorem IsJson.isWritable (h : v.IsJson) (hv : v.IsSerializable) : v.isWritable = true := by
  induction h with
  | int n =>
    obtain ⟨j, hj⟩ := hv
    rw [Json.ofData, Json.ofValue] at hj
    obtain ⟨text, htext, _⟩ := Json.exists_of_map_eq_ok hj
    rw [Value.isWritable]
    exact Json.isWritableInteger_of_integerText htext
  | list items ih =>
    rw [isSerializable_list] at hv
    rw [Value.isWritable, areWritable_iff]
    exact fun x hx => ih x hx (hv x hx)
  | object keys values ih =>
    rw [isSerializable_ofPairs] at hv
    rw [isWritable_ofPairs]
    exact fun p hp => ih p hp (hv p hp)
  | _ => rfl

theorem IsJson.ofData_eq_error (h : v.IsJson) (hlong : v.isWritable = false) :
    Json.ofData v = .error .longInteger := by
  cases hv : Json.ofData v with
  | ok j =>
    have hwritable := h.isWritable ⟨j, hv⟩
    rw [hlong] at hwritable
    cases hwritable
  | error o => rw [h.eq_longInteger hv]

theorem ofPairs_injective : Function.Injective ofPairs := by
  intro ps qs h
  have hentries := congrArg Pairs.ofEntries (object.inj h)
  rwa [ofEntries_ofPairs, ofEntries_ofPairs] at hentries

structure IsFloatFree (v : Value) : Prop where
  json : v.IsJson
  plain : v.isPlain = true

theorem isFloatFree_null : null.IsFloatFree := ⟨.null, rfl⟩

theorem isFloatFree_str (s : String) : (str s).IsFloatFree := ⟨.str s, rfl⟩

theorem isFloatFree_ofPairs {ps : Pairs} (hkeys : ps.keys.Nodup) (h : ∀ p ∈ ps, p.2.IsFloatFree) :
    (ofPairs ps).IsFloatFree where
  json := .object hkeys fun p hp => (h p hp).json
  plain := isPlain_ofPairs.2 ⟨hkeys, fun p hp => (h p hp).plain⟩

theorem IsJson.of_field? {name : String} {w : Value} (h : v.IsJson) (hfield : v.field? name = some w) :
    w.IsJson := by
  cases h with
  | object keys values =>
    obtain ⟨e, he, rfl⟩ := Option.map_eq_some_iff.1 hfield
    obtain ⟨p, hp, rfl⟩ := List.mem_map.1 (List.mem_of_find?_eq_some he)
    exact values p hp
  | _ => cases hfield

end EventTracking.Value
