import EventTracking.Pairs
import EventTracking.Proofs.Json.RoundTrip
import EventTracking.Proofs.Value.Entries
import Mathlib.Algebra.Group.Nat.Defs
import Mathlib.Data.List.TakeWhile

/-!
This module contains the values that have a document, and what a document says of its value: which
values are read back as they were, and that all values that are read have a document again.
-/

namespace EventTracking

open Json

namespace Json

variable {other : Value → Option String}

theorem exists_of_map_eq_ok {α β : Type} {f : α → β} {made : Except Obstacle α} {y : β}
    (h : made.map f = .ok y) : ∃ x, made = .ok x ∧ f x = y := by
  cases made with
  | ok x => exact ⟨x, rfl, Except.ok.inj h⟩
  | error => cases h

theorem eq_error_of_map_eq_error {α β : Type} {f : α → β} {made : Except Obstacle α} {o : Obstacle}
    (h : made.map f = .error o) : made = .error o := by
  cases made with
  | ok => cases h
  | error => exact congrArg Except.error (Except.error.inj h)

theorem ofItems_cons_eq_ok_iff {x : Value} {xs : List Value} {js : List Json} :
    ofItems other (x :: xs) = .ok js
      ↔
    ∃ j rest, ofValue other x = .ok j ∧ ofItems other xs = .ok rest ∧ js = j :: rest := by
  rw [ofItems]
  cases ofValue other x with
  | error => simp [bind, Except.bind]
  | ok j => cases ofItems other xs <;> simp [bind, Except.bind, pure, Except.pure, eq_comm]

theorem ofEntries_cons_eq_ok_iff {k v : Value} {es : List (Value × Value)}
    {ms : List (String × Json)} :
    ofEntries other ((k, v) :: es) = .ok ms
      ↔
    ∃ name j rest, keyText k = .ok name ∧ ofValue other v = .ok j ∧ ofEntries other es = .ok rest
      ∧ ms = (name, j) :: rest := by
  rw [ofEntries]
  cases keyText k with
  | error => simp [bind, Except.bind]
  | ok name =>
    cases ofValue other v with
    | error => simp [bind, Except.bind]
    | ok j => cases ofEntries other es <;> simp [bind, Except.bind, pure, Except.pure, eq_comm]

theorem ofItems_eq_ok_iff {xs : List Value} :
    (∃ js, ofItems other xs = .ok js) ↔ ∀ x ∈ xs, ∃ j, ofValue other x = .ok j := by
  induction xs with
  | nil => simp [ofItems]
  | cons x xs ih =>
    rw [List.forall_mem_cons, ← ih]
    simp only [ofItems_cons_eq_ok_iff]
    constructor
    . rintro ⟨_, j, rest, hj, hrest, rfl⟩
      exact ⟨⟨j, hj⟩, ⟨rest, hrest⟩⟩
    . rintro ⟨⟨j, hj⟩, ⟨rest, hrest⟩⟩
      exact ⟨_, j, rest, hj, hrest, rfl⟩

theorem ofEntries_eq_ok_iff {es : List (Value × Value)} :
    (∃ ms, ofEntries other es = .ok ms)
      ↔
    ∀ e ∈ es, (∃ name, keyText e.1 = .ok name) ∧ ∃ j, ofValue other e.2 = .ok j := by
  induction es with
  | nil => simp [ofEntries]
  | cons e es ih =>
    obtain ⟨k, v⟩ := e
    rw [List.forall_mem_cons, ← ih]
    simp only [ofEntries_cons_eq_ok_iff]
    constructor
    . rintro ⟨_, name, j, rest, hname, hj, hrest, rfl⟩
      exact ⟨⟨⟨name, hname⟩, ⟨j, hj⟩⟩, ⟨rest, hrest⟩⟩
    . rintro ⟨⟨⟨name, hname⟩, ⟨j, hj⟩⟩, ⟨rest, hrest⟩⟩
      exact ⟨_, name, j, rest, hname, hj, hrest, rfl⟩

theorem exists_of_ofItems_eq_error {xs : List Value} {o : Obstacle} (h : ofItems other xs = .error o) :
    ∃ x ∈ xs, ofValue other x = .error o := by
  induction xs with
  | nil => cases h
  | cons x xs ih =>
    rw [ofItems] at h
    cases hx : ofValue other x with
    | error =>
      rw [hx] at h
      cases h
      exact ⟨x, List.mem_cons_self, hx⟩
    | ok =>
      cases hrest : ofItems other xs with
      | error =>
        rw [hx, hrest] at h
        cases h
        obtain ⟨y, hy, heq⟩ := ih hrest
        exact ⟨y, List.mem_cons_of_mem x hy, heq⟩
      | ok =>
        rw [hx, hrest] at h
        cases h

theorem exists_of_ofEntries_eq_error {es : List (Value × Value)} {o : Obstacle}
    (h : ofEntries other es = .error o) :
    ∃ e ∈ es, keyText e.1 = .error o ∨ ofValue other e.2 = .error o := by
  induction es with
  | nil => cases h
  | cons e es ih =>
    rw [ofEntries] at h
    cases hkey : keyText e.1 with
    | error =>
      rw [hkey] at h
      cases h
      exact ⟨e, List.mem_cons_self, .inl hkey⟩
    | ok =>
      cases hvalue : ofValue other e.2 with
      | error =>
        rw [hkey, hvalue] at h
        cases h
        exact ⟨e, List.mem_cons_self, .inr hvalue⟩
      | ok =>
        cases hrest : ofEntries other es with
        | error =>
          rw [hkey, hvalue, hrest] at h
          cases h
          obtain ⟨e', he', heq⟩ := ih hrest
          exact ⟨e', List.mem_cons_of_mem e he', heq⟩
        | ok =>
          rw [hkey, hvalue, hrest] at h
          cases h

theorem ofValue_list_eq_ok_iff {xs : List Value} :
    (∃ j, ofValue other (.list xs) = .ok j) ↔ ∀ x ∈ xs, ∃ j, ofValue other x = .ok j := by
  rw [← ofItems_eq_ok_iff, ofValue]
  cases ofItems other xs <;> simp [Except.map]

theorem ofValue_tuple_eq_ok_iff {xs : List Value} :
    (∃ j, ofValue other (.tuple xs) = .ok j) ↔ ∀ x ∈ xs, ∃ j, ofValue other x = .ok j := by
  rw [← ofItems_eq_ok_iff, ofValue]
  cases ofItems other xs <;> simp [Except.map]

theorem ofValue_object_eq_ok_iff {es : List (Value × Value)} :
    (∃ j, ofValue other (.object es) = .ok j)
      ↔
    ∀ e ∈ es, (∃ name, keyText e.1 = .ok name) ∧ ∃ j, ofValue other e.2 = .ok j := by
  rw [← ofEntries_eq_ok_iff, ofValue]
  cases ofEntries other es <;> simp [Except.map]

end Json

namespace Value

def IsSerializable (v : Value) : Prop := ∃ j, ofData v = .ok j

def AreSerializable (es : List (Value × Value)) : Prop :=
  ∀ e ∈ es, (∃ name, keyText e.1 = .ok name) ∧ e.2.IsSerializable

theorem isSerializable_list {xs : List Value} :
    (list xs).IsSerializable ↔ ∀ x ∈ xs, x.IsSerializable :=
  ofValue_list_eq_ok_iff

theorem isSerializable_tuple {xs : List Value} :
    (tuple xs).IsSerializable ↔ ∀ x ∈ xs, x.IsSerializable :=
  ofValue_tuple_eq_ok_iff

theorem isSerializable_object {es : List (Value × Value)} :
    (object es).IsSerializable ↔ AreSerializable es :=
  ofValue_object_eq_ok_iff

theorem isSerializable_str (s : String) : (str s).IsSerializable := ⟨.str s, by simp [ofData, ofValue]⟩

theorem hereditary_isSerializable : Hereditary IsSerializable fun k => ∃ name, keyText k = .ok name where
  str := isSerializable_str
  key s := ⟨s, rfl⟩
  list_iff _ := isSerializable_list
  tuple_iff _ := isSerializable_tuple
  object_iff _ := isSerializable_object

theorem areSerializable_setEntry {key : String} {v : Value} {es : List (Value × Value)}
    (hv : v.IsSerializable) (hes : AreSerializable es) : AreSerializable (setEntry key v es) :=
  isSerializable_object.1 (hereditary_isSerializable.object_setEntry hv (isSerializable_object.2 hes))

end Value

/-! ### Values of documents -/

namespace Json

theorem integerText_eq_ok {n : Int} (h : Text.isWritableInteger n = true) :
    integerText n = .ok (toString n) := by
  unfold integerText Text.integerText?
  -- The bound of the integers is not to be computed.
  generalize Text.isWritableInteger n = writable at h ⊢
  subst h
  rfl

theorem areSerializable_foldl_setEntry {ms : List (String × Value)} {es : List (Value × Value)}
    (hms : ∀ m ∈ ms, m.2.IsSerializable) (hes : Value.AreSerializable es) :
    Value.AreSerializable (ms.foldl (fun es m => Value.setEntry m.1 m.2 es) es) := by
  induction ms generalizing es with
  | nil => exact hes
  | cons m ms ih =>
    obtain ⟨hm, hrest⟩ := List.forall_mem_cons.1 hms
    exact ih hrest (Value.areSerializable_setEntry hm hes)

mutual

theorem isSerializable_toValue (j : Json) (h : j.isWritable = true) : j.toValue.IsSerializable := by
  cases j with
  | null => exact ⟨.null, by simp [toValue, ofData, ofValue]⟩
  | bool b => exact ⟨.bool b, by simp [toValue, ofData, ofValue]⟩
  | int n =>
    simp only [isWritable, everyScalar, isWritableScalar] at h
    refine ⟨.int n, ?_⟩
    rw [toValue, ofData, ofValue, integerText_eq_ok h]
    rfl
  | float x => exact ⟨.float x, by simp [toValue, ofData, ofValue]⟩
  | str s =>
    rw [toValue]
    exact Value.isSerializable_str s
  | arr xs =>
    simp only [isWritable, everyScalar] at h
    rw [toValue, Value.isSerializable_list]
    exact isSerializable_toValues xs h
  | obj ms =>
    simp only [isWritable, everyScalar] at h
    rw [toValue, Value.isSerializable_object]
    apply areSerializable_foldl_setEntry (isSerializable_toEntries ms h)
    simp [Value.AreSerializable]

theorem isSerializable_toValues (xs : List Json) (h : everyItem isWritableScalar xs = true) :
    ∀ v ∈ toValues xs, v.IsSerializable := by
  match xs with
  | [] => simp [toValues]
  | x :: xs =>
    rw [everyItem, Bool.and_eq_true] at h
    rw [toValues, List.forall_mem_cons]
    exact ⟨isSerializable_toValue x h.1, isSerializable_toValues xs h.2⟩

theorem isSerializable_toEntries (ms : List (String × Json))
    (h : everyMember isWritableScalar ms = true) : ∀ m ∈ toEntries ms, m.2.IsSerializable := by
  match ms with
  | [] => simp [toEntries]
  | (k, v) :: ms =>
    rw [everyMember, Bool.and_eq_true] at h
    rw [toEntries, List.forall_mem_cons]
    exact ⟨isSerializable_toValue v h.1, isSerializable_toEntries ms h.2⟩

end

/-! ### Documents that are read -/

theorem digitValue_lt {c : Char} (h : c.isDigit = true) : digitValue c < 10 := by
  simp only [Char.isDigit, ge_iff_le, Bool.and_eq_true, decide_eq_true_eq] at h
  obtain ⟨_, h⟩ := h
  rw [UInt32.le_iff_toNat_le] at h
  have : c.val.toNat = c.toNat := rfl
  have : '9'.val.toNat = 57 := rfl
  unfold digitValue
  omega

theorem foldl_digits_lt {ds : List Nat} (h : ∀ d ∈ ds, d < 10) (n : Nat) :
    ds.foldl (fun n d => n * 10 + d) n < (n + 1) * 10 ^ ds.length := by
  induction ds generalizing n with
  | nil => simp
  | cons d ds ih =>
    obtain ⟨hd, hds⟩ := List.forall_mem_cons.1 h
    have hfold := ih hds (n * 10 + d)
    have hbound : (n * 10 + d + 1) * 10 ^ ds.length ≤ (n + 1) * 10 * 10 ^ ds.length :=
      Nat.mul_le_mul_right _ (by omega)
    rw [List.foldl_cons, List.length_cons, Nat.pow_succ', ← Nat.mul_assoc]
    exact Nat.lt_of_lt_of_le hfold hbound

theorem isDigit_of_mem_takeWhole {cs : List Char} {c : Char} (h : c ∈ (takeWhole cs).1) :
    c.isDigit = true := by
  unfold takeWhole at h
  split at h
  . simp only [List.mem_singleton] at h
    rw [h]
    rfl
  . rw [List.span_eq_takeWhile_dropWhile] at h
    exact List.mem_takeWhile_imp h

theorem isWritableInteger_ofDigits {cs : List Char} (hdigits : ∀ c ∈ cs, c.isDigit = true)
    (hlen : cs.length ≤ Text.maxDigits) (negative : Bool) :
    Text.isWritableInteger
      (if negative then -(Text.ofDigits 10 (cs.map digitValue) : Int)
        else Text.ofDigits 10 (cs.map digitValue)) = true := by
  have hlt : Text.ofDigits 10 (cs.map digitValue) < 10 ^ cs.length := by
    have hvalues : ∀ d ∈ cs.map digitValue, d < 10 :=
      List.forall_mem_map.2 fun c hc => digitValue_lt (hdigits c hc)
    simpa [Text.ofDigits] using foldl_digits_lt hvalues 0
  have habs : (if negative then -(Text.ofDigits 10 (cs.map digitValue) : Int)
      else Text.ofDigits 10 (cs.map digitValue)).natAbs = Text.ofDigits 10 (cs.map digitValue) := by
    cases negative <;> simp
  unfold Text.isWritableInteger Text.tooLongInteger
  -- The power is not to be computed.
  generalize Text.maxDigits = k at *
  rw [habs, decide_eq_true_iff, Nat.pow_eq]
  exact Nat.lt_of_lt_of_le hlt (Nat.pow_le_pow_right (by decide) hlen)

theorem readNumber?_isWritable {negative : Bool} {cs rest : List Char} {j : Json}
    (h : readNumber? negative cs = some (j, rest)) : j.isWritable = true := by
  have hdigits : ∀ c ∈ (takeWhole cs).1, c.isDigit = true := fun _ => isDigit_of_mem_takeWhole
  simp only [readNumber?] at h
  split at h
  . cases h
  . split at h
    . split at h
      . cases h
      . next hlen =>
        have hn := isWritableInteger_ofDigits hdigits (Nat.le_of_not_lt hlen) negative
        simp only [Option.some.injEq, Prod.mk.injEq] at h
        rw [← h.1, isWritable, everyScalar, isWritableScalar]
        . exact hn
        . simp
        . simp
    . cases h
      rfl

theorem readWord?_isWritable {cs rest : List Char} {j : Json}
    (h : readWord? cs = some (j, rest)) : j.isWritable = true := by
  simp only [readWord?, Option.orElse_eq_orElse, Option.orElse_eq_or, Option.or_eq_some_iff,
    Option.map_eq_some_iff, Prod.mk.injEq] at h
  rcases h with ⟨_, _, rfl, _⟩ | ⟨_, ⟨_, _, rfl, _⟩ | ⟨_, ⟨_, _, rfl, _⟩ | ⟨_, ⟨_, _, rfl, _⟩ |
    ⟨_, ⟨_, _, rfl, _⟩ | ⟨_, _, _, rfl, _⟩⟩⟩⟩⟩ <;> rfl

theorem readUnquoted?_isWritable {negative : Bool} {digits cs rest : List Char} {j : Json}
    (h : (readNumber? negative digits <|> readWord? cs) = some (j, rest)) : j.isWritable = true := by
  rw [Option.orElse_eq_orElse, Option.orElse_eq_or, Option.or_eq_some_iff] at h
  rcases h with h | ⟨_, h⟩
  . exact readNumber?_isWritable h
  . exact readWord?_isWritable h

structure ReadsWritable (fuel : Nat) : Prop where
  value : ∀ {cs j rest}, readValue? fuel cs = some (j, rest) → j.isWritable = true
  items : ∀ {cs xs rest}, readItems? fuel cs = some (xs, rest) → everyItem isWritableScalar xs = true
  member : ∀ {cs m rest}, readMember? fuel cs = some (m, rest) → m.2.isWritable = true
  members : ∀ {cs ms rest},
    readMembers? fuel cs = some (ms, rest) → everyMember isWritableScalar ms = true

theorem ReadsWritable.value_succ {fuel : Nat} (ih : ReadsWritable fuel) {cs rest : List Char} {j : Json}
    (h : readValue? (fuel + 1) cs = some (j, rest)) : j.isWritable = true := by
  unfold readValue? at h
  split at h
  . obtain ⟨_, _, heq⟩ := Option.map_eq_some_iff.1 h
    cases heq
    rfl
  . split at h
    . cases h
      rfl
    . simp only [Option.bind_eq_bind, Option.bind_eq_some_iff, Option.pure_def] at h
      obtain ⟨⟨x, _⟩, hx, ⟨xs, _⟩, hxs, heq⟩ := h
      cases heq
      exact Bool.and_eq_true_iff.2 ⟨ih.value hx, ih.items hxs⟩
  . split at h
    . cases h
      rfl
    . simp only [Option.bind_eq_bind, Option.bind_eq_some_iff, Option.pure_def] at h
      obtain ⟨⟨m, _⟩, hm, ⟨ms, _⟩, hms, heq⟩ := h
      cases heq
      exact Bool.and_eq_true_iff.2 ⟨ih.member hm, ih.members hms⟩
  . exact readUnquoted?_isWritable h
  . exact readUnquoted?_isWritable h

theorem ReadsWritable.items_succ {fuel : Nat} (ih : ReadsWritable fuel) {cs rest : List Char}
    {xs : List Json} (h : readItems? (fuel + 1) cs = some (xs, rest)) :
    everyItem isWritableScalar xs = true := by
  unfold readItems? at h
  split at h
  . cases h
    rfl
  . simp only [Option.bind_eq_bind, Option.bind_eq_some_iff, Option.pure_def] at h
    obtain ⟨⟨x, _⟩, hx, ⟨xs, _⟩, hxs, heq⟩ := h
    cases heq
    exact Bool.and_eq_true_iff.2 ⟨ih.value hx, ih.items hxs⟩
  . cases h

theorem ReadsWritable.member_succ {fuel : Nat} (ih : ReadsWritable fuel) {cs rest : List Char}
    {m : String × Json} (h : readMember? (fuel + 1) cs = some (m, rest)) :
    m.2.isWritable = true := by
  unfold readMember? at h
  split at h
  . simp only [Option.bind_eq_bind, Option.bind_eq_some_iff] at h
    obtain ⟨⟨k, _⟩, _, h⟩ := h
    split at h
    . simp only [Option.bind_eq_some_iff, Option.pure_def] at h
      obtain ⟨⟨v, _⟩, hv, heq⟩ := h
      cases heq
      exact ih.value hv
    . cases h
  . cases h

theorem ReadsWritable.members_succ {fuel : Nat} (ih : ReadsWritable fuel) {cs rest : List Char}
    {ms : List (String × Json)} (h : readMembers? (fuel + 1) cs = some (ms, rest)) :
    everyMember isWritableScalar ms = true := by
  unfold readMembers? at h
  split at h
  . cases h
    rfl
  . simp only [Option.bind_eq_bind, Option.bind_eq_some_iff, Option.pure_def] at h
    obtain ⟨⟨m, _⟩, hm, ⟨ms, _⟩, hms, heq⟩ := h
    cases heq
    exact Bool.and_eq_true_iff.2 ⟨ih.member hm, ih.members hms⟩
  . cases h

theorem readsWritable (fuel : Nat) : ReadsWritable fuel := by
  -- The readers call one another with less fuel, so the induction is for all of them together.
  induction fuel with
  | zero => constructor <;> simp [readValue?, readItems?, readMember?, readMembers?]
  | succ fuel ih => exact ⟨ih.value_succ, ih.items_succ, ih.member_succ, ih.members_succ⟩

theorem isSerializable_of_parse? {s : String} {j : Json} (h : parse? s = some j) :
    j.toValue.IsSerializable := by
  simp only [parse?] at h
  split at h
  . next hread =>
    split at h
    . cases h
      exact isSerializable_toValue j ((readsWritable _).value hread)
    . cases h
  . cases h

end Json

end EventTracking
