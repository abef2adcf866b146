import EventTracking.Number.Decimal
import Mathlib.Data.List.TakeDrop
import Mathlib.Data.List.TakeWhile

/-!
This module contains the reading of plain digits as an integer, and the theorem that digits without a leading
zero are the digits of the number that they denote.
-/

namespace EventTracking.Text

variable {c : Char} {cs : List Char}

/-! ### Plain digits -/

theorem toNat_of_isDigit (h : c.isDigit = true) : 48 ≤ c.toNat ∧ c.toNat ≤ 57 :=
  Char.isDigit_iff_toNat.1 h

theorem decimalDigit?_of_isDigit (h : c.isDigit = true) : decimalDigit? c = some (c.toNat - 48) := by
  obtain ⟨_, hle⟩ := toNat_of_isDigit h
  rw [decimalDigit?, if_pos (by omega), if_pos h]

theorem not_isNumberBlank_of_isDigit (h : c.isDigit = true) : isNumberBlank c = false := by
  obtain ⟨hge, hle⟩ := toNat_of_isDigit h
  simp only [isNumberBlank, isBlank, Bool.and_eq_false_iff, Bool.or_eq_false_iff, decide_eq_false_iff_not,
    beq_eq_false_iff_ne]
  omega

theorem strip_eq_self {p : Char → Bool} (h : ∀ c ∈ cs, p c = false) : strip p cs = cs := by
  have hdrop : ∀ ds : List Char, (∀ c ∈ ds, p c = false) → ds.dropWhile p = ds := by
    intro ds hds
    rw [List.dropWhile_eq_self_iff]
    intro hl
    simp [hds _ (List.getElem_mem hl)]
  rw [strip, dropTail, hdrop cs h, hdrop cs.reverse fun c hc => h c (List.mem_reverse.1 hc),
    List.reverse_reverse]

theorem takeSign_of_isDigit (h : c.isDigit = true) (cs : List Char) :
    takeSign (c :: cs) = (false, c :: cs) := by
  unfold takeSign
  split
  . next heq =>
    cases heq
    cases h
  . next heq =>
    cases heq
    cases h
  . rfl

theorem span_of_isDigit (h : ∀ c ∈ cs, c.isDigit = true) :
    cs.span (fun c => c == '_' || (decimalDigit? c).isSome) = (cs, []) := by
  have hall : ∀ c ∈ cs, (c == '_' || (decimalDigit? c).isSome) = true := by
    intro c hc
    rw [decimalDigit?_of_isDigit (h c hc), Option.isSome_some, Bool.or_true]
  rw [List.span_eq_takeWhile_dropWhile, List.takeWhile_eq_self_iff.2 hall, List.dropWhile_eq_nil_iff.2 hall]

theorem separatedDigits?_of_isDigit (hne : cs ≠ []) (h : ∀ c ∈ cs, c.isDigit = true) :
    separatedDigits? decimalDigit? cs = some (cs.map fun c => c.toNat - 48) := by
  induction cs with
  | nil => exact absurd rfl hne
  | cons c cs ih =>
    obtain ⟨hc, hcs⟩ := List.forall_mem_cons.1 h
    cases cs with
    | nil =>
      rw [separatedDigits?, decimalDigit?_of_isDigit hc]
      rfl
    | cons d ds =>
      have hseparator : ∀ rest, d :: ds ≠ '_' :: rest := by
        rintro rest ⟨⟩
        cases hcs '_' List.mem_cons_self
      rw [separatedDigits?, decimalDigit?_of_isDigit hc, ih (List.cons_ne_nil d ds) hcs]
      . rfl
      . exact List.cons_ne_nil d ds
      . exact hseparator

theorem ofDigits_eq_ofDigitChars (cs : List Char) :
    ofDigits 10 (cs.map fun c => c.toNat - 48) = Nat.ofDigitChars 10 cs 0 := by
  rw [Nat.ofDigitChars_eq_foldl, ofDigits, List.foldl_map]
  simp only [Nat.mul_comm, Char.reduceToNat]

theorem readInteger_of_isDigit {s : String} (hne : s ≠ "") (h : ∀ c ∈ s.toList, c.isDigit = true) :
    readInteger s
      =
    if maxDigits < s.length then .error (.tooLong s.length)
    else .ok (Nat.ofDigitChars 10 s.toList 0 : Nat) := by
  have hne : s.toList ≠ [] := fun hs => hne (String.toList_eq_nil_iff.1 hs)
  have hblank : unpadded s = s.toList := strip_eq_self fun c hc => not_isNumberBlank_of_isDigit (h c hc)
  have hsign : takeSign s.toList = (false, s.toList) := by
    cases hs : s.toList with
    | nil => exact absurd hs hne
    | cons c cs =>
      rw [hs] at h
      exact takeSign_of_isDigit (h c List.mem_cons_self) cs
  rw [readInteger, hblank, hsign]
  dsimp only
  rw [span_of_isDigit h]
  dsimp only
  rw [separatedDigits?_of_isDigit hne h]
  dsimp only
  rw [List.length_map, String.length_toList, ofDigits_eq_ofDigitChars]
  rfl

/-! ### Digits of numbers -/

theorem toDigits_of_isDigit (h : c.isDigit = true) : Nat.toDigits 10 (c.toNat - 48) = [c] := by
  obtain ⟨hge, hle⟩ := toNat_of_isDigit h
  have hchar : (c.toNat - 48).digitChar = c := by
    rw [← Char.toNat_inj, Nat.toNat_digitChar_of_lt_ten (by omega)]
    omega
  rw [Nat.toDigits_of_lt_base (by omega), hchar]

theorem toDigits_ofDigitChars (h : ∀ c ∈ cs, c.isDigit = true) {n : Nat} (hn : 0 < n) :
    Nat.toDigits 10 (Nat.ofDigitChars 10 cs n) = Nat.toDigits 10 n ++ cs := by
  induction cs generalizing n with
  | nil => rw [Nat.ofDigitChars_nil, List.append_nil]
  | cons c cs ih =>
    obtain ⟨hc, hcs⟩ := List.forall_mem_cons.1 h
    have hdigit : c.toNat - '0'.toNat < 10 := by
      have := toNat_of_isDigit hc
      simp only [Char.reduceToNat]
      omega
    calc
      Nat.toDigits 10 (Nat.ofDigitChars 10 (c :: cs) n)
      _ = Nat.toDigits 10 (10 * n + (c.toNat - '0'.toNat)) ++ cs := by
        rw [Nat.ofDigitChars_cons, ih hcs (by omega)]
      _ = Nat.toDigits 10 n ++ [c] ++ cs := by
        rw [← Nat.toDigits_append_toDigits (by decide) hn hdigit]
        exact congrArg (_ ++ · ++ cs) (toDigits_of_isDigit hc)
      _ = Nat.toDigits 10 n ++ c :: cs := by rw [List.append_assoc, List.singleton_append]

theorem toDigits_ofDigitChars_of_ne_zero (hc : c.isDigit = true) (hne : c ≠ '0')
    (hcs : ∀ d ∈ cs, d.isDigit = true) : Nat.toDigits 10 (Nat.ofDigitChars 10 (c :: cs) 0) = c :: cs := by
  have hpos : 0 < c.toNat - '0'.toNat := by
    have hge := (toNat_of_isDigit hc).1
    have hzero : c.toNat ≠ '0'.toNat := fun h => hne (Char.toNat_inj.1 h)
    simp only [Char.reduceToNat] at hzero ⊢
    omega
  rw [Nat.ofDigitChars_cons, Nat.mul_zero, Nat.zero_add, toDigits_ofDigitChars hcs hpos]
  exact congrArg (· ++ cs) (toDigits_of_isDigit hc)

end EventTracking.Text
