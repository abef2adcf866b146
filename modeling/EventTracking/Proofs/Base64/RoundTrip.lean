import EventTracking.Base64

/-!
This module contains the theorem that reading the base64 form of a text gives the text back.
-/

namespace EventTracking.Base64

/-! ### Digits -/

theorem digitValue?_digitChar {n : Nat} (h : n < 64) : digitValue? (digitChar n) = some n := by
  revert n
  decide

theorem toDigits_lt (bs : List UInt8) : ∀ d ∈ toDigits bs, d < 64 := by
  induction bs using toDigits.induct with
  | case1 => simp [toDigits]
  | case2 a =>
    have := a.toNat_lt
    simp only [toDigits, List.mem_cons, List.not_mem_nil, or_false, forall_eq_or_imp, forall_eq]
    omega
  | case3 a b =>
    have := a.toNat_lt
    have := b.toNat_lt
    simp only [toDigits, List.mem_cons, List.not_mem_nil, or_false, forall_eq_or_imp, forall_eq]
    omega
  | case4 a b c rest ih =>
    have := a.toNat_lt
    have := b.toNat_lt
    have := c.toNat_lt
    simp only [toDigits, List.forall_mem_cons]
    refine ⟨?_, ?_, ?_, ?_, ih⟩ <;> omega

theorem length_toDigits_mod (bs : List UInt8) : (toDigits bs).length % 4 ≠ 1 := by
  induction bs using toDigits.induct with
  | case1 => simp [toDigits]
  | case2 => simp [toDigits]
  | case3 => simp [toDigits]
  | case4 a b c rest ih =>
    simp only [toDigits, List.length_cons]
    omega

theorem ofNat_eq {a : UInt8} {n : Nat} (h : n = a.toNat) : UInt8.ofNat n = a := by
  rw [h, UInt8.ofNat_toNat]

theorem ofDigits_toDigits (bs : List UInt8) : ofDigits (toDigits bs) = bs := by
  induction bs using toDigits.induct with
  | case1 => rfl
  | case2 a =>
    simp only [toDigits, ofDigits]
    rw [ofNat_eq (a := a) (by omega)]
  | case3 a b =>
    have := b.toNat_lt
    simp only [toDigits, ofDigits]
    rw [ofNat_eq (a := a) (by omega), ofNat_eq (a := b) (by omega)]
  | case4 a b c rest ih =>
    have := b.toNat_lt
    have := c.toNat_lt
    simp only [toDigits, ofDigits]
    rw [ih, ofNat_eq (a := a) (by omega), ofNat_eq (a := b) (by omega), ofNat_eq (a := c) (by omega)]

/-! ### Reading digits and padding -/

theorem scan_append {cs : List Char} {ds : List Nat} (h : cs.map digitValue? = ds.map some)
    (group : Nat) (hgroup : group < 4) (tail : List Char) :
    scan group 0 (cs ++ tail)
      =
    (ds ++ (scan ((group + ds.length) % 4) 0 tail).1, (scan ((group + ds.length) % 4) 0 tail).2) := by
  -- `group` counts the digits of the group that has been begun; the digits before `tail` move it on.
  induction cs generalizing ds group with
  | nil =>
    cases ds with
    | nil => simp [Nat.mod_eq_of_lt hgroup]
    | cons => simp at h
  | cons c cs ih =>
    cases ds with
    | nil => simp at h
    | cons d ds =>
      simp only [List.map_cons, List.cons.injEq] at h
      have hc : (c == '=') = false := by
        rw [beq_eq_false_iff_ne]
        rintro rfl
        have : digitValue? '=' = none := by decide
        simp [this] at h
      have hlen : ((group + 1) % 4 + ds.length) % 4 = (group + (ds.length + 1)) % 4 := by omega
      rw [List.cons_append, scan, hc, h.1]
      simp only [Bool.false_eq_true, if_false]
      rw [ih h.2 _ (Nat.mod_lt _ (by omega)), hlen]
      simp

theorem bytes_pad {cs : List Char} {ds : List Nat} (h : cs.map digitValue? = ds.map some)
    (hlen : ds.length % 4 ≠ 1) : bytes (pad cs) = .ok (ofDigits ds) := by
  have hcs : cs.length = ds.length := by
    simpa using congrArg List.length h
  have hscan := scan_append h 0 (by omega) (List.replicate ((4 - cs.length % 4) % 4) '=')
  rw [Nat.zero_add] at hscan
  unfold bytes pad
  rw [hscan, hcs]
  have hcases : ds.length % 4 = 0 ∨ ds.length % 4 = 2 ∨ ds.length % 4 = 3 := by omega
  rcases hcases with h0 | h2 | h3
  . simp [h0, scan]
  . simp [h2, scan, List.replicate]
  . simp [h3, scan]

/-! ### Texts -/

theorem fromUTF8?_toUTF8 (s : String) : String.fromUTF8? ⟨s.toUTF8.data.toList.toArray⟩ = some s := by
  have hbytes : (⟨s.toUTF8.data.toList.toArray⟩ : ByteArray) = s.toByteArray := by
    simp
  rw [hbytes, String.fromUTF8?, dif_pos s.isValidUTF8]
  rfl

theorem map_digitValue?_encode (s : String) :
    (encode s).toList.map digitValue? = (toDigits s.toUTF8.data.toList).map some := by
  unfold encode
  rw [String.toList_ofList, List.map_map]
  apply List.map_congr_left
  intro d hd
  exact digitValue?_digitChar (toDigits_lt _ d hd)

theorem toNat_lt_of_digitValue? {c : Char} {n : Nat} (h : digitValue? c = some n) : c.toNat < 128 := by
  simp only [digitValue?, Bool.and_eq_true, Bool.or_eq_true, decide_eq_true_iff, beq_iff_eq] at h
  split at h
  . omega
  split at h
  . omega
  split at h
  . omega
  split at h
  . next hc => rcases hc with rfl | rfl <;> decide
  split at h
  . next hc => rcases hc with rfl | rfl <;> decide
  . cases h

theorem pad_ascii {cs : List Char} {ds : List Nat} (h : cs.map digitValue? = ds.map some) :
    ∀ c ∈ pad cs, c.toNat < 128 := by
  intro c hc
  rcases List.mem_append.1 hc with hc | hc
  . have hmem : digitValue? c ∈ ds.map some := by
      rw [← h]
      exact List.mem_map_of_mem hc
    obtain ⟨d, _, hd⟩ := List.mem_map.1 hmem
    exact toNat_lt_of_digitValue? hd.symm
  . rw [List.eq_of_mem_replicate hc]
    decide

theorem decode_of_digits {s t : String} {cs : List Char}
    (h : cs.map digitValue? = (toDigits s.toUTF8.data.toList).map some) (ht : pad t.toList = pad cs) :
    decode t = .ok s := by
  have hascii : t.toList.all (·.toNat < 128) = true := by
    rw [List.all_eq_true]
    intro c hc
    have hpad : c ∈ pad t.toList := List.mem_append_left _ hc
    rw [ht] at hpad
    exact decide_eq_true (pad_ascii h c hpad)
  unfold decode
  rw [if_pos hascii, ht, bytes_pad h (length_toDigits_mod _), ofDigits_toDigits]
  simp only [fromUTF8?_toUTF8]

theorem decode_encode (s : String) : decode (encode s) = .ok s :=
  decode_of_digits (map_digitValue?_encode s) rfl

end EventTracking.Base64
