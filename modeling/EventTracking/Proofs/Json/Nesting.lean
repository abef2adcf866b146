import EventTracking.Json.Nesting
import EventTracking.Proofs.Json.RoundTrip

/-!
This module contains which texts are nested too deeply to be read: none that is short, and lists within lists
from the first number of brackets on that is above the limit.
-/

namespace EventTracking.Json

namespace Scan

theorem length_closing_step (scan : Scan) (c : Char) :
    (scan.step c).closing.length ≤ scan.closing.length + 1 := by
  unfold step
  split
  . exact Nat.le_succ _
  . split
    . exact Nat.le_succ _
    . split
      case h_2 | h_3 => exact Nat.le_refl _
      case h_4 | h_5 =>
        rw [List.length_tail]
        omega
      all_goals exact Nat.le_succ _

theorem overflow?_of_length_le {limit : Nat} {scan : Scan} {rest : List Char} (before : Nat)
    (h : scan.closing.length + rest.length ≤ limit) : scan.overflow? limit before rest = none := by
  induction rest generalizing scan before with
  | nil => rfl
  | cons c rest ih =>
    have hstep := length_closing_step scan c
    rw [List.length_cons] at h
    rw [overflow?, if_neg (by omega)]
    exact ih _ (by omega)

theorem overflow?_brackets {limit opened more : Nat} (hopen : opened ≤ limit) (hmore : limit < opened + more)
    (rest : List Char) :
    overflow? limit ⟨List.replicate opened ']', false, false⟩ opened (List.replicate more '[' ++ rest)
      =
    some (limit + 1, List.replicate (limit + 1) ']') := by
  induction more generalizing opened with
  | zero => omega
  | succ more ih =>
    have hstep : step ⟨List.replicate opened ']', false, false⟩ '['
        = ⟨List.replicate (opened + 1) ']', false, false⟩ := rfl
    rw [List.replicate_succ, List.cons_append, overflow?, hstep]
    dsimp only
    rw [List.length_replicate]
    split
    . next hover =>
      have heq : opened = limit := by omega
      rw [heq]
    . next hunder => exact ih (by omega) (by omega)

end Scan

theorem overflow?_of_length_le {s : String} (h : s.length ≤ maxNesting) : overflow? s = none := by
  have hscan : Scan.start.overflow? maxNesting 0 s.toList = none := by
    apply Scan.overflow?_of_length_le
    rwa [Scan.start, List.length_nil, Nat.zero_add, String.length_toList]
  rw [overflow?, hscan]

def nested : Nat → Json
  | 0 => .arr []
  | n + 1 => .arr [nested n]

theorem isExact_nested (n : Nat) : (nested n).isExact = true := by
  induction n with
  | zero => rfl
  | succ n ih => simpa [nested, isExact, everyScalar, everyItem] using ih

theorem chars_nested (n depth : Nat) :
    chars .compact depth (nested n) = List.replicate (n + 1) '[' ++ List.replicate (n + 1) ']' := by
  induction n generalizing depth with
  | zero => rfl
  | succ n ih =>
    have hlist : chars .compact depth (nested (n + 1))
        = '[' :: (chars .compact (depth + 1) (nested n) ++ [']']) := by
      simp [nested, chars, itemChars, Style.gap, Style.compact]
    rw [hlist, ih, List.replicate_succ (n := n + 1) (a := '['), List.replicate_succ' (n := n + 1) (a := ']'),
      List.cons_append, List.append_assoc]

def nestedText (n : Nat) : String := String.ofList (List.replicate n '[' ++ List.replicate n ']')

theorem overflow?_nestedText {n : Nat} (h : maxNesting < n) : overflow? (nestedText n) = some .array := by
  have hscan : Scan.start.overflow? maxNesting 0 (List.replicate n '[' ++ List.replicate n ']')
      = some (maxNesting + 1, List.replicate (maxNesting + 1) ']') :=
    Scan.overflow?_brackets (Nat.zero_le maxNesting) (by omega) (List.replicate n ']')
  have htake : (List.replicate n '[' ++ List.replicate n ']').take (maxNesting + 1)
      = List.replicate (maxNesting + 1) '[' := by
    rw [List.take_append_of_le_length (by rw [List.length_replicate]; omega), List.take_replicate,
      Nat.min_eq_left (by omega)]
  -- With the brackets closed this is a text within the limit, so nothing malformed has been met before.
  have hparse := parse?_render .compact (isExact_nested maxNesting)
  rw [render, chars_nested] at hparse
  rw [overflow?, nestedText, String.toList_ofList, hscan]
  dsimp only
  rw [htake, hparse]
  rfl

end EventTracking.Json
