import EventTracking.Number.Decimal

/-!
This module contains the decimal notation of a 64-bit binary floating point number: the fewest digits
that read back as the number and, of those, the ones nearest to it.
-/

namespace EventTracking.Binary64

def powerOfTen (p : Int) : Nat × Nat :=
  if 0 ≤ p then (Nat.pow 10 p.toNat, 1) else (1, Nat.pow 10 (-p).toNat)

def ratio (m : Nat) (e : Int) : Nat × Nat :=
  if 0 ≤ e then (m * Nat.pow 2 e.toNat, 1) else (m, Nat.pow 2 (-e).toNat)

/--
The point on the grid of multiples of `10 ^ p` that reads back as `x`: of the two neighbours of
`num / den` the nearer one that does, the even one if both are equally near.
-/
def onGrid? (x : Binary64) (num den : Nat) (p : Int) : Option Nat :=
  let (a, b) := powerOfTen p
  let n := num * b
  let d := den * a
  let low := n / d
  let reads (c : Nat) : Bool := ofDecimal false c p == x
  let nearLow := 2 * (n % d) < d || (2 * (n % d) == d && low % 2 == 0)
  let first := if nearLow then low else low + 1
  let second := if nearLow then low + 1 else low
  if reads first then some first else if reads second then some second else none

def decimalExponent (num den : Nat) : Int :=
  let below (k : Int) : Bool :=
    let (a, b) := powerOfTen k
    den * a ≤ num * b
  let guess : Int := ((Text.decimalChars num).length : Int) - (Text.decimalChars den).length
  if below guess then guess else guess - 1

/--
The fewest digits that read back as the positive finite number `x = num / den`, and the exponent of
the last of them. Seventeen digits always do.
-/
def shortestDigits (x : Binary64) (num den : Nat) : Nat × Int :=
  let top := decimalExponent num den
  let grids := (List.range 17).map fun (k : Nat) => top - k
  match grids.findSome? fun p => (onGrid? x num den p).map (·, p) with
  | some hit => hit
  | none => (0, 0)

structure Layout where
  /-- Positional notation is used from this exponent of the first digit on … -/
  leastPositional : Int
  /-- … and below this one. -/
  positionalBelow : Int
  exponentDigits : Nat
  nan : String
  infinity : String

def dropZeros (digits : Nat) : List Char × Nat :=
  let cs := Text.decimalChars digits
  let kept := Text.dropTail (· == '0') cs
  (kept, cs.length - kept.length)

def withPoint (ds : List Char) (k : Int) : List Char :=
  if k ≤ 0 then
    '0' :: '.' :: (List.replicate (-k).toNat '0' ++ ds)
  else
    let whole := ds.take k.toNat
    let frac := ds.drop k.toNat
    whole ++ List.replicate (k.toNat - whole.length) '0' ++ '.' :: (if frac.isEmpty then ['0'] else frac)

def exponentChars (width : Nat) (e : Int) : List Char :=
  let ds := Text.decimalChars e.natAbs
  (if e < 0 then '-' else '+') :: (List.replicate (width - ds.length) '0' ++ ds)

def unsigned (l : Layout) (m : Nat) (e : Int) (h : IsCanonical m e) : List Char :=
  if m = 0 then ['0', '.', '0']
  else
    let (num, den) := ratio m e
    let (digits, p) := shortestDigits (.finite false m e h) num den
    let (ds, zeros) := dropZeros digits
    let lead := p + zeros + ds.length - 1
    if l.leastPositional ≤ lead && lead < l.positionalBelow then
      withPoint ds (lead + 1)
    else
      let frac := ds.drop 1
      ds.take 1 ++ (if frac.isEmpty then [] else '.' :: frac)
        ++ 'e' :: exponentChars l.exponentDigits lead

def render (l : Layout) : Binary64 → String
  | .nan => l.nan
  | .infinity s => (if s then "-" else "") ++ l.infinity
  | .finite s m e h => (if s then "-" else "") ++ String.ofList (unsigned l m e h)

end EventTracking.Binary64
