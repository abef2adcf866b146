import EventTracking.Proofs.Json.Scalar
import Mathlib.Data.List.DropRight

/-!
This module contains the reading of written floating point numbers: each is read as one up to its end,
whatever follows.
-/

namespace EventTracking

/-! ### Digits of a number -/

namespace Binary64

theorem head?_dropZeros {digits : Nat} (h : digits ≠ 0) :
    ∃ c rest, (dropZeros digits).1 = c :: rest ∧ c ≠ '0' := by
  have hhead := Json.head?_toDigits (Nat.pos_of_ne_zero h)
  have hprefix : (dropZeros digits).1 <+: Nat.toDigits 10 digits := List.rdropWhile_prefix _ _
  cases hds : Nat.toDigits 10 digits with
  | nil => exact absurd hds Nat.toDigits_ne_nil
  | cons c rest =>
    rw [hds] at hhead hprefix
    have hc : c ≠ '0' := fun hc => hhead (congrArg some hc)
    cases hkept : (dropZeros digits).1 with
    | nil =>
      have hzeros : ∀ d ∈ Nat.toDigits 10 digits, (d == '0') = true := List.rdropWhile_eq_nil_iff.1 hkept
      rw [hds] at hzeros
      exact absurd (beq_iff_eq.1 (hzeros c List.mem_cons_self)) hc
    | cons d kept =>
      rw [hkept] at hprefix
      obtain ⟨rfl, _⟩ := List.cons_prefix_cons.1 hprefix
      exact ⟨d, kept, rfl, hc⟩

theorem isDigit_of_mem_dropZeros (digits : Nat) : ∀ c ∈ (dropZeros digits).1, c.isDigit = true := by
  intro c hc
  have hmem := (List.rdropWhile_prefix _ (Text.decimalChars digits)).mem hc
  exact Nat.isDigit_of_mem_toDigits (by decide) (by decide) hmem

theorem onGrid?_ne_zero {x : Binary64} (hx : x ≠ zero false) {num den c : Nat} {p : Int}
    (h : onGrid? x num den p = some c) : c ≠ 0 := by
  have hreads : ∀ (reads : Nat → Bool) (first second : Nat),
      (if reads first then some first else if reads second then some second else none) = some c →
        reads c = true := by
    intro reads first second hpick
    split at hpick
    . next hfirst => exact Option.some.inj hpick ▸ hfirst
    . split at hpick
      . next hsecond => exact Option.some.inj hpick ▸ hsecond
      . cases hpick
  rintro rfl
  have hzero := hreads (fun c => ofDecimal false c p == x) _ _ h
  exact hx (beq_iff_eq.1 hzero).symm

theorem shortestDigits_ne_zero {x : Binary64} (hx : x ≠ zero false) (num den : Nat) :
    (shortestDigits x num den).1 ≠ 0 ∨ shortestDigits x num den = (0, 0) := by
  unfold shortestDigits
  dsimp only
  split
  . next hit hfind =>
    obtain ⟨p, _, hp⟩ := List.exists_of_findSome?_eq_some hfind
    obtain ⟨c, hc, rfl⟩ := Option.map_eq_some_iff.1 hp
    exact Or.inl (onGrid?_ne_zero hx hc)
  . exact Or.inr rfl

end Binary64

/-! ### The form of a number -/

namespace Json

variable {whole frac exponent tail : List Char}

def AreDigits (cs : List Char) : Prop := ∀ c ∈ cs, c.isDigit = true

def IsWhole (cs : List Char) : Prop :=
  cs = ['0'] ∨ AreDigits cs ∧ ∃ c rest, cs = c :: rest ∧ c ≠ '0'

def fractionChars (frac : List Char) : List Char := if frac.isEmpty then [] else '.' :: frac

inductive IsExponent : List Char → Prop where
  | none : IsExponent []
  | signed {sign : Char} {ds : List Char} (hsign : sign = '-' ∨ sign = '+') (hds : AreDigits ds)
      (hne : ds ≠ []) : IsExponent ('e' :: sign :: ds)

inductive IsFloating : List Char → Prop where
  | intro {whole frac exponent : List Char} (hwhole : IsWhole whole) (hfrac : AreDigits frac)
      (hexponent : IsExponent exponent) (hpart : frac ≠ [] ∨ exponent ≠ []) :
      IsFloating (whole ++ (fractionChars frac ++ exponent))

theorem areDigits_zeros (n : Nat) : AreDigits (List.replicate n '0') := by
  intro c hc
  rw [List.eq_of_mem_replicate hc]
  rfl

theorem isFloating_withPoint {ds : List Char} (hds : AreDigits ds)
    (hfirst : ∃ c rest, ds = c :: rest ∧ c ≠ '0') (k : Int) : IsFloating (Binary64.withPoint ds k) := by
  obtain ⟨c, rest, rfl, hc⟩ := hfirst
  unfold Binary64.withPoint
  split
  . have hfrac : AreDigits (List.replicate (-k).toNat '0' ++ c :: rest) :=
      List.forall_mem_append.2 ⟨areDigits_zeros _, hds⟩
    have hall := IsFloating.intro (Or.inl rfl) hfrac .none (Or.inl (by simp))
    simpa [fractionChars] using hall
  . next hk =>
    obtain ⟨n, hn⟩ : ∃ n, k.toNat = n + 1 := ⟨k.toNat - 1, by omega⟩
    dsimp only
    rw [hn]
    generalize hdropped : (c :: rest).drop (n + 1) = dropped
    generalize hfraction : (if dropped.isEmpty then ['0'] else dropped) = frac
    have hfrac : AreDigits frac ∧ frac ≠ [] := by
      rw [← hfraction, ← hdropped]
      split
      . exact ⟨areDigits_zeros 1, by simp⟩
      . next hne => exact ⟨fun d hd => hds d (List.mem_of_mem_drop hd), by simpa using hne⟩
    have hwhole : IsWhole (c :: rest.take n ++ List.replicate (n + 1 - (c :: rest.take n).length) '0') := by
      refine Or.inr ⟨List.forall_mem_append.2 ⟨?_, areDigits_zeros _⟩, c, _, rfl, hc⟩
      exact fun d hd => hds d (List.mem_of_mem_take (i := n + 1) hd)
    have hall := IsFloating.intro hwhole hfrac.1 .none (Or.inl hfrac.2)
    simpa [fractionChars, hfrac.2] using hall

theorem isExponent_exponentChars (width : Nat) (e : Int) : IsExponent ('e' :: Binary64.exponentChars width e) := by
  have hdigits : AreDigits (Text.decimalChars e.natAbs) :=
    fun c hc => Nat.isDigit_of_mem_toDigits (by decide) (by decide) hc
  refine .signed ?_ (List.forall_mem_append.2 ⟨areDigits_zeros _, hdigits⟩) ?_
  . split <;> simp
  . simp [Text.decimalChars, Nat.toDigits_ne_nil]

theorem isFloating_withExponent {ds : List Char} (hds : AreDigits ds)
    (hfirst : ∃ c rest, ds = c :: rest ∧ c ≠ '0') (width : Nat) (e : Int) :
    IsFloating
      (ds.take 1 ++ (if (ds.drop 1).isEmpty then [] else '.' :: ds.drop 1)
        ++ 'e' :: Binary64.exponentChars width e) := by
  obtain ⟨c, rest, rfl, hc⟩ := hfirst
  obtain ⟨hdigit, hrest⟩ := List.forall_mem_cons.1 hds
  have hwhole : IsWhole [c] := Or.inr ⟨List.forall_mem_singleton.2 hdigit, c, [], rfl, hc⟩
  rw [List.append_assoc]
  exact .intro hwhole hrest (isExponent_exponentChars width e) (Or.inr (by simp))

theorem isFloating_unsigned {m : Nat} {e : Int} (h : Binary64.IsCanonical m e) :
    IsFloating (Binary64.unsigned floatLayout m e h) := by
  have hzero : IsFloating ['0', '.', '0'] :=
    .intro (Or.inl rfl) (areDigits_zeros 1) .none (Or.inl (by simp))
  unfold Binary64.unsigned
  split
  . exact hzero
  . next hm =>
    have hx : Binary64.finite false m e h ≠ Binary64.zero false := by
      intro heq
      injection heq with _ hmantissa
      exact hm hmantissa
    dsimp only
    generalize Binary64.ratio m e = r
    rcases Binary64.shortestDigits_ne_zero hx r.1 r.2 with hdigits | hnone
    . have hds := Binary64.isDigit_of_mem_dropZeros (Binary64.shortestDigits (.finite false m e h) r.1 r.2).1
      have hfirst := Binary64.head?_dropZeros hdigits
      split
      . exact isFloating_withPoint hds hfirst _
      . exact isFloating_withExponent hds hfirst _ _
    . rw [hnone]
      exact hzero

theorem IsFloating.exists_digit {cs : List Char} (h : IsFloating cs) :
    ∃ c rest, cs = c :: rest ∧ c.isDigit = true := by
  cases h with
  | intro hwhole =>
    rcases hwhole with rfl | ⟨hdigits, c, rest, rfl, _⟩
    . exact ⟨'0', _, rfl, rfl⟩
    . exact ⟨c, _, rfl, hdigits c List.mem_cons_self⟩

/-! ### Reading a number -/

theorem takeWhole_append (h : IsWhole whole) (htail : ∀ c ∈ tail.head?, c.isDigit = false) :
    takeWhole (whole ++ tail) = (whole, tail) := by
  rcases h with rfl | ⟨hdigits, c, rest, rfl, hc⟩
  . rfl
  . unfold takeWhole
    split
    . next heq =>
      cases heq
      exact absurd rfl hc
    . exact span_isDigit hdigits htail

theorem takeFraction_append (h : AreDigits frac) (htail : ∀ c ∈ tail.head?, c.isDigit = false ∧ c ≠ '.') :
    takeFraction (fractionChars frac ++ tail) = (frac, tail) := by
  cases frac with
  | nil =>
    rw [fractionChars, List.isEmpty_nil, if_pos rfl, List.nil_append]
    unfold takeFraction
    split
    . exact absurd rfl (htail '.' rfl).2
    . rfl
  | cons c frac =>
    have hspan := span_isDigit h fun c hc => (htail c hc).1
    have hchars : fractionChars (c :: frac) ++ tail = '.' :: (c :: frac ++ tail) := rfl
    rw [hchars, takeFraction, hspan]
    rfl

theorem exists_takeExponent_append (h : IsExponent exponent) :
    ∃ n, (exponent ≠ [] → n ≠ none)
      ∧ ∀ tail, EndsNumber tail → takeExponent (exponent ++ tail) = (n, tail) := by
  cases h with
  | none => exact ⟨none, absurd rfl, fun tail htail => takeExponent_of_endsNumber htail⟩
  | @signed sign ds hsign hds hne =>
    have htake : ∀ negative, (∀ cs, Text.takeSign (sign :: cs) = (negative, cs)) →
        ∀ tail, EndsNumber tail → takeExponent ('e' :: sign :: ds ++ tail)
          = (some (if negative then -(Text.ofDigits 10 (ds.map digitValue) : Int)
              else Text.ofDigits 10 (ds.map digitValue)), tail) := by
      intro negative hnegative tail htail
      have hspan := span_isDigit hds fun c hc => (htail c hc).1
      have hempty : ds.isEmpty = false := by simpa using hne
      rw [List.cons_append, List.cons_append, takeExponent, hnegative]
      dsimp only
      rw [hspan, hempty]
      rfl
    rcases hsign with rfl | rfl
    . exact ⟨_, fun _ => Option.some_ne_none _, htake true fun _ => rfl⟩
    . exact ⟨_, fun _ => Option.some_ne_none _, htake false fun _ => rfl⟩

theorem IsExponent.head? (h : IsExponent exponent) (htail : EndsNumber tail) :
    ∀ c ∈ (exponent ++ tail).head?, c.isDigit = false ∧ c ≠ '.' := by
  cases h with
  | none => exact fun c hc => ⟨(htail c hc).1, (htail c hc).2.1⟩
  | signed =>
    rintro c ⟨⟩
    decide

theorem head?_fractionChars (frac : List Char) {cs : List Char} (h : ∀ c ∈ cs.head?, c.isDigit = false) :
    ∀ c ∈ (fractionChars frac ++ cs).head?, c.isDigit = false := by
  cases frac with
  | nil => exact h
  | cons =>
    rintro c ⟨⟩
    rfl

theorem IsFloating.exists_readNumber? {cs : List Char} (h : IsFloating cs) (negative : Bool) :
    ∃ x, ∀ tail, EndsNumber tail → readNumber? negative (cs ++ tail) = some (.float x, tail) := by
  cases h with
  | @intro whole frac exponent hwhole hfrac hexponent hpart =>
    obtain ⟨n, hn, hread⟩ := exists_takeExponent_append hexponent
    have hne : whole.isEmpty = false := by
      rcases hwhole with rfl | ⟨_, c, rest, rfl, _⟩ <;> rfl
    have hinteger : (frac.isEmpty && n.isNone) = false := by
      rcases hpart with hpart | hpart
      . simp [hpart]
      . simp [Option.ne_none_iff_isSome.1 (hn hpart)]
    refine ⟨.ofDecimal negative (Text.ofDigits 10 ((whole ++ frac).map digitValue)) (n.getD 0 - frac.length),
      fun tail htail => ?_⟩
    have hhead := hexponent.head? htail
    rw [List.append_assoc, List.append_assoc, readNumber?,
      takeWhole_append hwhole (head?_fractionChars frac fun c hc => (hhead c hc).1)]
    dsimp only
    rw [hne, takeFraction_append hfrac hhead]
    dsimp only
    rw [hread tail htail, hinteger]
    rfl

end Json

end EventTracking
