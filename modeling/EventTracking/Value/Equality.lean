import EventTracking.Value

/-!
This module contains the equality of values by which registrations are compared. Numbers and truth
values are equal if they denote the same number exactly, the order of an object's entries does not
matter, a list differs from a tuple, and a callable equals only itself. A NaN does not even equal itself,
unless both stand within values, where the very same object counts as equal.
-/

namespace EventTracking.Value

def exactValue? : Value → Option Dyadic
  | .bool b => some (.ofIntWithPrec (if b then 1 else 0) 0)
  | .int n => some (.ofIntWithPrec n 0)
  | .float x => x.toDyadic?
  | _ => none

def sameLeaf (a b : Value) : Bool :=
  match a.exactValue?, b.exactValue? with
  | some x, some y => x == y
  | none, none =>
    match a, b with
    | .null, .null => true
    | .float (.infinity s), .float (.infinity t) => s == t
    | .float .nan, .float .nan => true
    | .nan m, .nan n => m == n
    | .str s, .str t => s == t
    | .bytes s, .bytes t => s == t
    | .date s, .date t => s == t
    | .moment s, .moment t => s.same t
    | .callable f, .callable g => f == g
    | .ruleSet r, .ruleSet s => r == s
    | .primitive _ m, .primitive _ n => m == n
    | .provider _ m, .provider _ n => m == n
    | .foreign k m, .foreign l n => k == l && m == n
    | _, _ => false
  | _, _ => false

mutual

/-- Equality of what stands within values: there a NaN is equal to the very same object. -/
def sameItem : Value → Value → Bool
  | .list xs, .list ys => sameItems xs ys
  | .tuple xs, .tuple ys => sameItems xs ys
  | .object es, .object fs => es.length == fs.length && sameEntries es fs
  | .set xs, .set ys => xs.length == ys.length && allAmong xs ys
  | a, b => sameLeaf a b

def sameItems : List Value → List Value → Bool
  | [], [] => true
  | x :: xs, y :: ys => sameItem x y && sameItems xs ys
  | _, _ => false

def allAmong : List Value → List Value → Bool
  | [], _ => true
  | x :: xs, ys => ys.any (fun y => sameItem x y) && allAmong xs ys

def sameEntries : List (Value × Value) → List (Value × Value) → Bool
  | [], _ => true
  | (k, v) :: rest, fs =>
    (match fs.find? (fun f => sameItem k f.1) with
      | some f => sameItem v f.2
      | none => false)
      && sameEntries rest fs

end

def isNan : Value → Bool
  | .float .nan | .nan _ => true
  | _ => false

/-- Equality of values on their own: there a NaN does not even equal itself. -/
def same (a b : Value) : Bool := !a.isNan && sameItem a b

def insertEntry {α : Type} (key : Value) (a : α) : List (Value × α) → List (Value × α)
  | [] => [(key, a)]
  | (k, b) :: rest => if sameItem k key then (k, a) :: rest else (k, b) :: insertEntry key a rest

end EventTracking.Value

namespace EventTracking

namespace Primitive

def same : Primitive → Primitive → Bool
  | .fixed a, .fixed b => Value.same a b
  | .generator f, .generator g => f == g
  | _, _ => false

def sameAll : List Primitive → List Primitive → Bool
  | [], [] => true
  | a :: as, b :: bs => same a b && sameAll as bs
  | _, _ => false

end Primitive

namespace Provider

def same : Provider → Provider → Bool
  | .filter f ps, .filter g qs => f == g && Primitive.sameAll ps qs
  | .ruled r ps, .ruled s qs => r == s && Primitive.sameAll ps qs
  | _, _ => false

end Provider

end EventTracking
