import EventTracking.Proofs.Base64.RoundTrip
import Mathlib.Algebra.Group.Nat.Defs
import Mathlib.Data.Set.Operations

/-!
This module contains the base64 spellings of a text, put together from the bits of its bytes, and the theorem
that writing gives the one in the URL-safe alphabet without padding while reading takes each of them.
-/

namespace EventTracking.Base64

/-! ### Bits -/

def bitsOf (b : UInt8) : List Bool := [7, 6, 5, 4, 3, 2, 1, 0].map b.toNat.testBit

def valueOf : List Bool → Nat
  | [] => 0
  | bit :: bits => bit.toNat * 2 ^ bits.length + valueOf bits

def sextets : List Bool → List (List Bool)
  | [] => []
  | a :: b :: c :: d :: e :: f :: rest => [a, b, c, d, e, f] :: sextets rest
  | bits => [bits ++ List.replicate (6 - bits.length) false]

theorem valueOf_append (xs ys : List Bool) : valueOf (xs ++ ys) = valueOf xs * 2 ^ ys.length + valueOf ys := by
  induction xs with
  | nil => simp [valueOf]
  | cons x xs ih =>
    rw [List.cons_append, valueOf, valueOf, ih, List.length_append, Nat.pow_add, Nat.add_mul, Nat.mul_assoc,
      Nat.add_assoc]

theorem valueOf_take (b : UInt8) {k : Nat} (h : k ≤ 8) :
    valueOf ((bitsOf b).take k) = b.toNat / 2 ^ (8 - k) := by
  have hall : ∀ n < 256, ∀ k ≤ 8,
      valueOf (([7, 6, 5, 4, 3, 2, 1, 0].map n.testBit).take k) = n / 2 ^ (8 - k) := by
    decide +kernel
  exact hall _ b.toNat_lt k h

theorem valueOf_drop (b : UInt8) {k : Nat} (h : k ≤ 8) :
    valueOf ((bitsOf b).drop k) = b.toNat % 2 ^ (8 - k) := by
  have hall : ∀ n < 256, ∀ k ≤ 8,
      valueOf (([7, 6, 5, 4, 3, 2, 1, 0].map n.testBit).drop k) = n % 2 ^ (8 - k) := by
    decide +kernel
  exact hall _ b.toNat_lt k h

theorem toDigits_eq (bs : List UInt8) : toDigits bs = (sextets (bs.flatMap bitsOf)).map valueOf := by
  induction bs using toDigits.induct with
  | case1 => rfl
  | case2 a =>
    have hgroups : sextets ([a].flatMap bitsOf)
        = [(bitsOf a).take 6, (bitsOf a).drop 6 ++ [false, false, false, false]] := rfl
    rw [hgroups, List.map_cons, List.map_singleton, valueOf_take a (by decide), valueOf_append,
      valueOf_drop a (by decide)]
    rfl
  | case3 a b =>
    have hgroups : sextets ([a, b].flatMap bitsOf)
        = [(bitsOf a).take 6, (bitsOf a).drop 6 ++ (bitsOf b).take 4,
            (bitsOf b).drop 4 ++ [false, false]] := rfl
    rw [hgroups, List.map_cons, List.map_cons, List.map_singleton, valueOf_take a (by decide), valueOf_append,
      valueOf_drop a (by decide), valueOf_take b (by decide), valueOf_append, valueOf_drop b (by decide)]
    rfl
  | case4 a b c rest ih =>
    have hgroups : sextets ((a :: b :: c :: rest).flatMap bitsOf)
        = (bitsOf a).take 6 :: ((bitsOf a).drop 6 ++ (bitsOf b).take 4)
            :: ((bitsOf b).drop 4 ++ (bitsOf c).take 2) :: (bitsOf c).drop 2
            :: sextets (rest.flatMap bitsOf) := rfl
    rw [hgroups, List.map_cons, List.map_cons, List.map_cons, List.map_cons, ← ih,
      valueOf_take a (by decide), valueOf_append, valueOf_drop a (by decide), valueOf_take b (by decide),
      valueOf_append, valueOf_drop b (by decide), valueOf_take c (by decide), valueOf_drop c (by decide)]
    rfl

/-! ### Spellings -/

inductive Alphabet where
  | standard
  | urlSafe
  deriving DecidableEq, Repr

namespace Alphabet

def lastChars : Alphabet → List Char
  | .standard => ['+', '/']
  | .urlSafe => ['-', '_']

def chars (a : Alphabet) : List Char :=
  "ABCDEFGHIJKLMNOPQRSTUVWXYZabcdefghijklmnopqrstuvwxyz0123456789".toList ++ a.lastChars

def char (a : Alphabet) (n : Nat) : Char := a.chars.getD n '='

theorem digitValue?_char (a : Alphabet) {n : Nat} (h : n < 64) : digitValue? (a.char n) = some n := by
  revert n
  cases a <;> decide +kernel

theorem char_urlSafe {n : Nat} (h : n < 64) : urlSafe.char n = digitChar n := by
  revert n
  decide +kernel

end Alphabet

def padding (chars : List Char) : List Char :=
  match chars.length % 4 with
  | 2 => ['=', '=']
  | 3 => ['=']
  | _ => []

structure Spelling where
  alphabet : Alphabet
  padded : Bool
  deriving DecidableEq, Repr

namespace Spelling

def chars (a : Alphabet) (s : String) : List Char :=
  (sextets (s.toUTF8.data.toList.flatMap bitsOf)).map fun bits => a.char (valueOf bits)

def spell (spelling : Spelling) (s : String) : String :=
  let cs := chars spelling.alphabet s
  String.ofList (cs ++ if spelling.padded then padding cs else [])

theorem chars_eq (a : Alphabet) (s : String) : chars a s = (toDigits s.toUTF8.data.toList).map a.char := by
  rw [chars, toDigits_eq, List.map_map]
  rfl

theorem map_digitValue?_chars (a : Alphabet) (s : String) :
    (chars a s).map digitValue? = (toDigits s.toUTF8.data.toList).map some := by
  rw [chars_eq, List.map_map]
  apply List.map_congr_left
  intro d hd
  exact a.digitValue?_char (toDigits_lt _ d hd)

theorem pad_padding {cs : List Char} (h : cs.length % 4 ≠ 1) : pad (cs ++ padding cs) = pad cs := by
  have hcases : cs.length % 4 = 0 ∨ cs.length % 4 = 2 ∨ cs.length % 4 = 3 := by omega
  rcases hcases with h0 | h2 | h3
  . simp [pad, padding, h0]
  . have hfull : (cs.length + 2) % 4 = 0 := by omega
    simp [pad, padding, h2, hfull, List.replicate]
  . have hfull : (cs.length + 1) % 4 = 0 := by omega
    simp [pad, padding, h3, hfull]

theorem length_chars_mod (a : Alphabet) (s : String) : (chars a s).length % 4 ≠ 1 := by
  rw [chars_eq, List.length_map]
  exact length_toDigits_mod _

theorem decode_spell (spelling : Spelling) (s : String) : decode (spelling.spell s) = .ok s := by
  apply decode_of_digits (map_digitValue?_chars spelling.alphabet s)
  rw [spell, String.toList_ofList]
  cases spelling.padded with
  | true => exact pad_padding (length_chars_mod _ s)
  | false => simp

theorem encode_eq_spell (s : String) : encode s = spell ⟨.urlSafe, false⟩ s := by
  have hchars : chars .urlSafe s = (toDigits s.toUTF8.data.toList).map digitChar := by
    rw [chars_eq]
    apply List.map_congr_left
    intro d hd
    exact Alphabet.char_urlSafe (toDigits_lt _ d hd)
  simp [spell, encode, hchars]

end Spelling

/-! ### Texts -/

def IsUrlSafe (c : Char) : Prop := c.isAlphanum = true ∨ c = '-' ∨ c = '_'

theorem isUrlSafe_digitChar {n : Nat} (h : n < 64) : IsUrlSafe (digitChar n) := by
  have hall : ∀ n < 64,
      (digitChar n).isAlphanum = true ∨ digitChar n = '-' ∨ digitChar n = '_' := by
    decide
  exact hall n h

theorem isUrlSafe_encode (s : String) : ∀ c ∈ (encode s).toList, IsUrlSafe c := by
  rw [encode, String.toList_ofList, List.forall_mem_map]
  exact fun d hd => isUrlSafe_digitChar (toDigits_lt _ d hd)

theorem length_encode_mod (s : String) : (encode s).length % 4 ≠ 1 := by
  rw [encode, String.length_ofList, List.length_map]
  exact length_toDigits_mod _

/--
A text is written in the URL-safe alphabet without padding, never with a lone last character, and read back from
each of its spellings. Different texts are written differently, and what has been written is written again after
it has been read.
-/
theorem encode_lossless :
    (∀ s, (∀ c ∈ (encode s).toList, IsUrlSafe c)
        ∧ (encode s).length % 4 ≠ 1
        ∧ encode s = Spelling.spell ⟨.urlSafe, false⟩ s
        ∧ ∀ spelling : Spelling, decode (spelling.spell s) = .ok s)
      ∧ Function.Injective encode
      ∧ ∀ t ∈ Set.range encode, (decode t).map encode = .ok t := by
  refine ⟨?_, ?_, ?_⟩
  . intro s
    exact ⟨isUrlSafe_encode s, length_encode_mod s, Spelling.encode_eq_spell s, fun sp => sp.decode_spell s⟩
  . intro s t h
    have hdecode := congrArg decode h
    rw [decode_encode, decode_encode] at hdecode
    exact Except.ok.inj hdecode
  . rintro _ ⟨s, rfl⟩
    rw [decode_encode]
    rfl

end EventTracking.Base64
