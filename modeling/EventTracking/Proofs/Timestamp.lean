import EventTracking.Timestamp
import Mathlib.Data.Rat.Floor
import Mathlib.Algebra.Order.Field.Basic

/-!
This module contains the times that timestamps show: each is an integer, and a number that is none is cut off
toward zero.
-/

namespace EventTracking

def towardZero (q : ℚ) : Int := if 0 ≤ q then ⌊q⌋ else ⌈q⌉

theorem towardZero_of_nonneg {q : ℚ} (h : 0 ≤ q) : towardZero q = ⌊q⌋ := if_pos h

theorem towardZero_neg_of_nonneg {q : ℚ} (h : 0 ≤ q) : towardZero (-q) = -⌊q⌋ := by
  unfold towardZero
  split
  . next hneg =>
    have hzero : q = 0 := le_antisymm (neg_nonneg.1 hneg) h
    rw [hzero, neg_zero, Int.floor_zero, neg_zero]
  . exact Int.ceil_neg

namespace Binary64

theorem floor_magnitude (m : Nat) (e : Int) :
    ⌊(m : ℚ) * 2 ^ e⌋ = (if 0 ≤ e then m * Nat.pow 2 e.toNat else m / Nat.pow 2 (-e).toNat : Nat) := by
  split
  . next he =>
    have hpower : (2 : ℚ) ^ e = (Nat.pow 2 e.toNat : Nat) := by
      conv_lhs => rw [← Int.toNat_of_nonneg he, zpow_natCast]
      exact (Nat.cast_pow 2 e.toNat).symm
    rw [hpower, ← Nat.cast_mul, Int.floor_natCast]
  . next he =>
    have hpower : (2 : ℚ) ^ e = ((Nat.pow 2 (-e).toNat : Nat) : ℚ)⁻¹ := by
      have hexponent : e = -((-e).toNat : Int) := by omega
      conv_lhs => rw [hexponent, zpow_neg, zpow_natCast]
      exact congrArg Inv.inv (Nat.cast_pow 2 (-e).toNat).symm
    rw [hpower, ← div_eq_mul_inv]
    exact Rat.floor_intCast_div_natCast m _

theorem truncate?_eq (x : Binary64) : x.truncate? = x.toDyadic?.map fun d => towardZero d.toRat := by
  cases x with
  | nan => rfl
  | infinity => rfl
  | finite negative m e =>
    have hmagnitude : 0 ≤ (m : ℚ) * 2 ^ e := mul_nonneg m.cast_nonneg (zpow_nonneg zero_le_two e)
    cases negative with
    | false =>
      have hvalue : (Dyadic.ofIntWithPrec m (-e)).toRat = (m : ℚ) * 2 ^ e := by
        rw [Dyadic.toRat_ofIntWithPrec_eq_mul_two_pow, neg_neg]
        rfl
      simp only [truncate?, toDyadic?, Option.map_some, Bool.false_eq_true, if_false]
      rw [hvalue, towardZero_of_nonneg hmagnitude, floor_magnitude]
    | true =>
      have hvalue : (Dyadic.ofIntWithPrec (-(m : Int)) (-e)).toRat = -((m : ℚ) * 2 ^ e) := by
        rw [Dyadic.toRat_ofIntWithPrec_eq_mul_two_pow, neg_neg, Int.cast_neg, neg_mul]
        rfl
      simp only [truncate?, toDyadic?, Option.map_some, if_true]
      rw [hvalue, towardZero_neg_of_nonneg hmagnitude, floor_magnitude]

end Binary64

namespace Value

inductive Truncates : Value → Int → Prop where
  | truth (b : Bool) : Truncates (.bool b) (if b then 1 else 0)
  | whole (n : Int) : Truncates (.int n) n
  | fraction {x : Binary64} {d : Dyadic} (exact : x.toDyadic? = some d) :
      Truncates (.float x) (towardZero d.toRat)
  | text {t : String} {n : Int} (read : Text.readInteger t = .ok n) : Truncates (.str t) n

theorem toInteger_float (x : Binary64) :
    (∃ n, toInteger (.float x) = .ok n) → ∃ d, x.toDyadic? = some d := by
  rintro ⟨n, h⟩
  cases x with
  | nan | infinity => cases h
  | finite => exact ⟨_, rfl⟩

theorem toInteger_of_toDyadic? {x : Binary64} {d : Dyadic} (h : x.toDyadic? = some d) :
    toInteger (.float x) = .ok (towardZero d.toRat) := by
  have htruncate : x.truncate? = some (towardZero d.toRat) := by
    rw [Binary64.truncate?_eq, h]
    rfl
  cases x with
  | nan | infinity => cases h
  | finite =>
    rw [toInteger, htruncate]
    rfl
    all_goals simp

theorem truncates_iff {v : Value} {n : Int} : v.Truncates n ↔ v.toInteger = .ok n := by
  constructor
  . intro h
    cases h with
    | truth | whole => rfl
    | fraction exact => exact toInteger_of_toDyadic? exact
    | text read => rw [toInteger, read]
  . intro h
    cases v with
    | bool b =>
      cases h
      exact .truth b
    | int m =>
      cases h
      exact .whole n
    | float x =>
      obtain ⟨d, hd⟩ := toInteger_float x ⟨n, h⟩
      cases (toInteger_of_toDyadic? hd).symm.trans h
      exact .fraction hd
    | str t =>
      rw [toInteger] at h
      cases hread : Text.readInteger t with
      | ok m =>
        rw [hread] at h
        cases h
        exact .text hread
      | error e =>
        rw [hread] at h
        cases e <;> cases h
    | _ => cases h

theorem integerText_of_writable {n : Int} (h : Text.isWritableInteger n = true) :
    integerText n = .ok (toString n) := by
  unfold integerText Text.integerText?
  -- Whether the integer is short enough is not to be computed.
  generalize Text.isWritableInteger n = writable at h ⊢
  subst h
  rfl

end Value

namespace Timestamp

def presentValue : Seconds → Value
  | .whole n => .int (n * 1000)
  | .fraction x => .float (x.mul (.ofInt 1000))

def value (now : Seconds) : Timestamp → Value
  | .now => presentValue now
  | .trusted v => v
  | .device v => v

structure Shows (now : Seconds) (timestamp : Timestamp) (n : Int) : Prop where
  truncates : (timestamp.value now).Truncates n
  writable : Text.isWritableInteger n = true

theorem milliseconds_eq (now : Seconds) (timestamp : Timestamp) :
    timestamp.milliseconds now = (timestamp.value now).toInteger := by
  cases timestamp with
  | now =>
    cases now with
    | whole n => rfl
    | fraction x =>
      show Seconds.milliseconds (.fraction x) = Value.toInteger (.float (x.mul (.ofInt 1000)))
      unfold Seconds.milliseconds
      dsimp only
      cases x.mul (.ofInt 1000) <;> rfl
  | trusted | device => rfl

theorem Shows.time {now : Seconds} {timestamp : Timestamp} {n : Int} (h : timestamp.Shows now n) :
    (timestamp.milliseconds now).bind Value.integerText = .ok (toString n) := by
  rw [milliseconds_eq, Value.truncates_iff.1 h.truncates, Except.bind, Value.integerText_of_writable h.writable]

end Timestamp

end EventTracking
