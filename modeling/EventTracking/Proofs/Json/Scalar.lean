import EventTracking.Json.Reader
import EventTracking.Json.Writer
import Mathlib.Data.List.TakeDrop

/-!
This module contains the reading of written strings and integers: each is read back up to its end,
whatever follows.
-/

namespace EventTracking.Json

/-! ### Escapes of code units -/

theorem digitOfBase?_hexDigit {n : Nat} (h : n < 16) : Text.digitOfBase? 16 (Text.hexDigit n) = some n := by
  revert n
  decide

theorem unit?_hexDigit {a b c d : Nat} (ha : a < 16) (hb : b < 16) (hc : c < 16) (hd : d < 16) :
    unit? (Text.hexDigit a) (Text.hexDigit b) (Text.hexDigit c) (Text.hexDigit d)
      =
    some (((a * 16 + b) * 16 + c) * 16 + d) := by
  simp [unit?, digitOfBase?_hexDigit, ha, hb, hc, hd, Text.ofDigits]

def withUnits (units : List Nat) (read : Option (List Nat × List Char)) : Option (List Nat × List Char) :=
  read.map fun (more, tail) => (units ++ more, tail)

theorem withUnits_withUnits (us vs : List Nat) (read : Option (List Nat × List Char)) :
    withUnits us (withUnits vs read) = withUnits (us ++ vs) read := by
  cases read <;> simp [withUnits]

theorem readUnits?_unitEscape {n : Nat} (h : n < 0x10000) (tail : List Char) :
    readUnits? (unitEscape n ++ tail) = withUnits [n] (readUnits? tail) := by
  have hunit := unit?_hexDigit (a := n / 16 / 16 / 16 % 16) (b := n / 16 / 16 % 16) (c := n / 16 % 16)
    (d := n % 16) (by omega) (by omega) (by omega) (by omega)
  have hn : ((n / 16 / 16 / 16 % 16 * 16 + n / 16 / 16 % 16) * 16 + n / 16 % 16) * 16 + n % 16 = n := by
    omega
  rw [hn] at hunit
  simp only [unitEscape, Text.hexChars, List.nil_append, List.cons_append, readUnits?, hunit]
  cases readUnits? tail <;> rfl

/-! ### Characters -/

def charUnits (asciiOnly : Bool) (c : Char) : List Nat :=
  if asciiOnly && 0x10000 ≤ c.toNat then
    [0xD800 + (c.toNat - 0x10000) / 0x400, 0xDC00 + (c.toNat - 0x10000) % 0x400]
  else
    [c.toNat]

theorem toNat_lt (c : Char) : c.toNat < 0x110000 := by
  have := c.valid
  simp only [UInt32.isValidChar, Nat.isValidChar] at this
  unfold Char.toNat
  omega

theorem readUnits?_charEscape {asciiOnly : Bool} {c : Char}
    (h : asciiOnly = true ∨ c.toNat < 0x10000) (tail : List Char) :
    readUnits? (charEscape c ++ tail) = withUnits (charUnits asciiOnly c) (readUnits? tail) := by
  unfold charEscape charUnits
  by_cases hc : c.toNat < 0x10000
  . rw [if_pos hc, if_neg (by simp [hc])]
    exact readUnits?_unitEscape hc tail
  . have := toNat_lt c
    have hwide : asciiOnly = true := by
      rcases h with h | h
      . exact h
      . exact absurd h hc
    rw [if_neg hc, if_pos (by simp [hwide]; omega), List.append_assoc]
    rw [readUnits?_unitEscape (by omega), readUnits?_unitEscape (by omega), withUnits_withUnits]
    rfl

theorem readUnits?_plain {c : Char} (hquote : c ≠ '"') (hslash : c ≠ '\\') (hc : ¬ c.toNat < 0x20)
    (tail : List Char) : readUnits? (c :: tail) = withUnits [c.toNat] (readUnits? tail) := by
  rw [readUnits?]
  . have hslash : (c == '\\') = false := by simpa using hslash
    rw [hslash]
    simp only [hc, decide_false, Bool.or_self, Bool.false_eq_true, if_false]
    cases readUnits? tail <;> rfl
  . exact hquote
  . intro _ _ _ _ _ h _
    exact hslash h
  . intro _ _ h _
    exact hslash h

theorem readUnits?_simpleEscape {e c : Char} (h : simpleEscape? e = some c) (tail : List Char) :
    readUnits? ('\\' :: e :: tail) = withUnits [c.toNat] (readUnits? tail) := by
  rw [readUnits?, h]
  . simp only [Option.bind_eq_bind, Option.bind_some]
    cases readUnits? tail <;> rfl
  . rintro a b c d rest rfl
    have : simpleEscape? 'u' = none := rfl
    simp [this] at h

theorem charUnits_of_lt (asciiOnly : Bool) {c : Char} (h : c.toNat < 0x10000) :
    charUnits asciiOnly c = [c.toNat] := by
  rw [charUnits, if_neg (by simp [h])]

theorem readUnits?_stringChar (asciiOnly : Bool) (c : Char) (tail : List Char) :
    readUnits? (stringChar asciiOnly c ++ tail) = withUnits (charUnits asciiOnly c) (readUnits? tail) := by
  -- Each named escape stands for its own character.
  have hnamed : ∀ e, simpleEscape? e = some c → c.toNat < 0x10000 →
      readUnits? (['\\', e] ++ tail) = withUnits (charUnits asciiOnly c) (readUnits? tail) := by
    intro e he hc
    rw [charUnits_of_lt asciiOnly hc]
    exact readUnits?_simpleEscape he tail
  have hof : ∀ n, c.toNat = n → c = Char.ofNat n := by
    rintro n rfl
    rw [Char.ofNat_toNat]
  unfold stringChar
  simp only [beq_iff_eq, Bool.or_eq_true, Bool.and_eq_true, decide_eq_true_eq]
  split
  . next h => exact hnamed '"' (by rw [h]; rfl) (by rw [h]; decide)
  split
  . next h => exact hnamed '\\' (by rw [h]; rfl) (by rw [h]; decide)
  split
  . next h => exact hnamed 'n' (by rw [h]; rfl) (by rw [h]; decide)
  split
  . next h => exact hnamed 'r' (by rw [h]; rfl) (by rw [h]; decide)
  split
  . next h => exact hnamed 't' (by rw [h]; rfl) (by rw [h]; decide)
  split
  . next h => exact hnamed 'f' (by rw [hof _ h]; rfl) (by omega)
  split
  . next h => exact hnamed 'b' (by rw [hof _ h]; rfl) (by omega)
  split
  . next h =>
    apply readUnits?_charEscape
    rcases h with h | h
    . right
      omega
    . exact Or.inl h.1
  . next hquote hslash _ _ _ _ _ h =>
    have hunits : charUnits asciiOnly c = [c.toNat] := by
      rw [charUnits, if_neg]
      simp only [Bool.and_eq_true, decide_eq_true_eq]
      rintro ⟨hascii, hwide⟩
      exact h (Or.inr ⟨hascii, by omega⟩)
    rw [hunits, List.singleton_append]
    exact readUnits?_plain hquote hslash (fun hlow => h (Or.inl hlow)) tail

/-! ### Strings -/

theorem readUnits?_stringChars (asciiOnly : Bool) (cs : List Char) (tail : List Char) :
    readUnits? (cs.flatMap (stringChar asciiOnly) ++ '"' :: tail)
      =
    some (cs.flatMap (charUnits asciiOnly), tail) := by
  induction cs with
  | nil => simp [readUnits?]
  | cons c cs ih =>
    rw [List.flatMap_cons, List.append_assoc, readUnits?_stringChar, ih]
    rfl

theorem not_isHighSurrogate (c : Char) : isHighSurrogate c.toNat = false := by
  have := c.valid
  simp only [UInt32.isValidChar, Nat.isValidChar] at this
  simp only [isHighSurrogate, Char.toNat, Bool.and_eq_false_iff, decide_eq_false_iff_not]
  omega

theorem not_isLowSurrogate (c : Char) : isLowSurrogate c.toNat = false := by
  have := c.valid
  simp only [UInt32.isValidChar, Nat.isValidChar] at this
  simp only [isLowSurrogate, Char.toNat, Bool.and_eq_false_iff, decide_eq_false_iff_not]
  omega

theorem joinPairs_toNat (c : Char) (units : List Nat) :
    joinPairs (c.toNat :: units) = c :: joinPairs units := by
  have hunit : ofUnit c.toNat = c := by
    simp [ofUnit, not_isHighSurrogate, not_isLowSurrogate]
  cases units with
  | nil => simp [joinPairs, hunit]
  | cons n rest => simp [joinPairs, hunit, not_isHighSurrogate]

theorem joinPairs_pair {c : Char} (h : 0x10000 ≤ c.toNat) (units : List Nat) :
    joinPairs ([0xD800 + (c.toNat - 0x10000) / 0x400, 0xDC00 + (c.toNat - 0x10000) % 0x400] ++ units)
      =
    c :: joinPairs units := by
  have := toNat_lt c
  generalize hhigh : 0xD800 + (c.toNat - 0x10000) / 0x400 = high
  generalize hlow : 0xDC00 + (c.toNat - 0x10000) % 0x400 = low
  have hpair : (isHighSurrogate high && isLowSurrogate low) = true := by
    simp only [isHighSurrogate, isLowSurrogate, Bool.and_eq_true, decide_eq_true_eq]
    omega
  have hc : ofPair high low = c := by
    have : 0x10000 + (high - 0xD800) * 0x400 + (low - 0xDC00) = c.toNat := by omega
    rw [ofPair, this, Char.ofNat_toNat]
  rw [List.cons_append, List.cons_append, List.nil_append, joinPairs, if_pos hpair, hc]

theorem joinPairs_charUnits (asciiOnly : Bool) (cs : List Char) :
    joinPairs (cs.flatMap (charUnits asciiOnly)) = cs := by
  induction cs with
  | nil => rfl
  | cons c cs ih =>
    rw [List.flatMap_cons, charUnits]
    split
    . next h =>
      simp only [Bool.and_eq_true, decide_eq_true_eq] at h
      rw [joinPairs_pair h.2, ih]
    . rw [List.singleton_append, joinPairs_toNat, ih]

theorem readString?_stringChars (asciiOnly : Bool) (s : String) (tail : List Char) :
    readString? (s.toList.flatMap (stringChar asciiOnly) ++ '"' :: tail) = some (s, tail) := by
  rw [readString?, readUnits?_stringChars]
  simp only [Option.map_some, joinPairs_charUnits, String.ofList_toList]

/-! ### Integers -/

/-- Whether a text cannot go on the number that stands before it. -/
def EndsNumber (cs : List Char) : Prop :=
  ∀ c ∈ cs.head?, c.isDigit = false ∧ c ≠ '.' ∧ c ≠ 'e' ∧ c ≠ 'E'

theorem EndsNumber.cons {c : Char} (hdigit : c.isDigit = false) (hpoint : c ≠ '.') (hsmall : c ≠ 'e')
    (hlarge : c ≠ 'E') (cs : List Char) : EndsNumber (c :: cs) := by
  intro d hd
  cases hd
  exact ⟨hdigit, hpoint, hsmall, hlarge⟩

theorem span_isDigit {ds tail : List Char} (hds : ∀ c ∈ ds, c.isDigit = true)
    (h : ∀ c ∈ tail.head?, c.isDigit = false) :
    (ds ++ tail).span Char.isDigit = (ds, tail) := by
  have htail : tail.takeWhile Char.isDigit = [] ∧ tail.dropWhile Char.isDigit = tail := by
    cases tail with
    | nil => exact ⟨rfl, rfl⟩
    | cons c cs =>
      have := h c rfl
      simp [this]
  rw [List.span_eq_takeWhile_dropWhile, List.takeWhile_append_of_pos hds, List.dropWhile_append_of_pos hds,
    htail.1, htail.2, List.append_nil]

theorem takeFraction_of_endsNumber {cs : List Char} (h : EndsNumber cs) : takeFraction cs = ([], cs) := by
  unfold takeFraction
  split
  . exact absurd rfl (h '.' rfl).2.1
  . rfl

theorem takeExponent_of_endsNumber {cs : List Char} (h : EndsNumber cs) : takeExponent cs = (none, cs) := by
  unfold takeExponent
  split
  . next c rest =>
    have := h c rfl
    simp [this.2.2.1, this.2.2.2]
  . rfl

theorem head?_toDigits {n : Nat} (h : 0 < n) : (Nat.toDigits 10 n).head? ≠ some '0' := by
  -- Appending a digit leaves the first one as it is, so the induction is on the digits.
  induction n using Nat.base_induction 10 (by decide) with
  | single m hm =>
    rw [Nat.toDigits_of_lt_base hm]
    revert m
    decide
  | digit m k hk hm ih =>
    rw [← Nat.toDigits_append_toDigits (by decide) hm hk, List.head?_append]
    cases hd : (Nat.toDigits 10 m).head? with
    | none => exact absurd (List.head?_eq_none_iff.1 hd) Nat.toDigits_ne_nil
    | some c => simpa [hd] using ih hm

theorem ofDigits_toDigits (n : Nat) : Text.ofDigits 10 ((Nat.toDigits 10 n).map digitValue) = n := by
  have h := Nat.ofDigitChars_ten_toDigits (n := n)
  rw [Nat.ofDigitChars_eq_foldl] at h
  rw [Text.ofDigits, List.foldl_map]
  simpa only [digitValue, Nat.mul_comm, Char.reduceToNat] using h

theorem length_toDigits_le {n : Nat} (h : n < Text.tooLongInteger) :
    (Nat.toDigits 10 n).length ≤ Text.maxDigits := by
  unfold Text.tooLongInteger at h
  -- The power is not to be computed.
  generalize hk : Text.maxDigits = k at *
  have hpos : 0 < k := by
    rw [← hk]
    decide
  exact (Nat.length_toDigits_le_iff (by decide) hpos).2 h

theorem takeWhole_toDigits (n : Nat) {tail : List Char} (htail : EndsNumber tail) :
    takeWhole (Nat.toDigits 10 n ++ tail) = (Nat.toDigits 10 n, tail) := by
  unfold takeWhole
  cases Nat.eq_zero_or_pos n with
  | inl hzero =>
    rw [hzero, Nat.toDigits_zero]
    rfl
  | inr hpos =>
    split
    . next rest heq =>
      have hhead := head?_toDigits hpos
      cases hd : Nat.toDigits 10 n with
      | nil => exact absurd hd Nat.toDigits_ne_nil
      | cons c cs =>
        rw [hd, List.cons_append] at heq
        cases heq
        simp [hd] at hhead
    . exact span_isDigit (fun c hc => Nat.isDigit_of_mem_toDigits (by decide) (by decide) hc)
        fun c hc => (htail c hc).1

theorem readNumber?_toDigits {n : Nat} (h : n < Text.tooLongInteger) (negative : Bool)
    {tail : List Char} (htail : EndsNumber tail) :
    readNumber? negative (Nat.toDigits 10 n ++ tail)
      =
    some (.int (if negative then -(n : Int) else n), tail) := by
  have hne : (Nat.toDigits 10 n).isEmpty = false := by
    simp [Nat.toDigits_ne_nil]
  have hlen : ¬ Text.maxDigits < (Nat.toDigits 10 n).length := by
    have := length_toDigits_le h
    omega
  unfold readNumber?
  simp only [takeWhole_toDigits n htail, takeFraction_of_endsNumber htail,
    takeExponent_of_endsNumber htail, ofDigits_toDigits, hne, hlen]
  simp

end EventTracking.Json
