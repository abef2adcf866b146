import EventTracking.Fault
import EventTracking.Value.Equality

/-!
This module contains the constructors of containers as callables: without an argument they give an empty
container, and with one they fill it with what a loop over the argument visits.
-/

namespace EventTracking

namespace Value

mutual

def unhashable? : Value → Option Value
  | .list xs => some (.list xs)
  | .object es => some (.object es)
  | .set xs => some (.set xs)
  | .ruleSet r => some (.ruleSet r)
  | .tuple xs => firstUnhashable? xs
  | _ => none

def firstUnhashable? : List Value → Option Value
  | [] => none
  | x :: xs => unhashable? x <|> firstUnhashable? xs

end

/--
What is wrong with a value of which a member of objects is asked. The constructor of objects has such a
member, but no object that it could be taken of.
-/
def lacking (member : String) : Value → Fault
  | .callable (.constructor .object) => .unbound member
  | v => .noMember v.kind member

end Value

namespace Container

def name : Container → String
  | .object => "dict"
  | .list => "list"

def fill (entries : List (Value × Value)) : List (Nat × Value) →
    Except Fault (List (Value × Value))
  | [] => .ok entries
  | (i, x) :: rest =>
    match x.elements? with
    | none => .error (.entryWithoutParts i)
    | some [k, v] =>
      match k.unhashable? with
      | none => fill (Value.insertEntry k v entries) rest
      | some part => .error (.unhashable part.kind)
    | some parts => .error (.entryNotPair i parts.length)

def construct (c : Container) : List Value → Except Fault Value
  | [] =>
    match c with
    | .object => .ok (.object [])
    | .list => .ok (.list [])
  | [v] =>
    match c, v, v.elements? with
    | .object, .object es, _ => .ok (.object es)
    | .object, .callable (.constructor .object), _ => .error (.unbound "keys")
    | _, _, none => .error (.notIterable v.kind)
    | .object, _, some xs => (fill [] (xs.zipIdx.map fun (x, i) => (i, x))).map .object
    | .list, _, some xs => .ok (.list xs)
  | args => .error (.tooManyParts c.name args.length)

end Container

namespace Routine

def fits (r : Routine) (given : Nat) : Except Fault Unit :=
  match r.signature.bind given with
  | .ok () => .ok ()
  | .error e => .error (.arity r.name e)

end Routine

namespace Callable

/-- How many of the arguments on offer are passed on; all of them if it shows no signature. -/
def accepted : Callable → (offered : Nat) → Nat
  | .routine r, offered => (r.shown.map fun s => s.accepted offered).getD offered
  | .constructor .object, offered => offered
  | .constructor .list, offered => min 1 offered

def name? : Callable → Option String
  | .routine r => if r.isNamed then some r.name else none
  | .constructor c => some c.name

/--
What is to be run when a callable is called with a subject and further arguments that are no values of
their own: the routine, or nothing more if a constructor has done its work.
-/
def enter (f : Callable) (args : List Value) : Except Fault (Option Routine) :=
  match f with
  | .routine r => (r.fits args.length).map fun _ => some r
  | .constructor c => (c.construct args).map fun _ => none

end Callable

end EventTracking
