import EventTracking.Calendar
import EventTracking.Number.Binary64
import EventTracking.Schema.RuleSet
import EventTracking.Signature

/-!
This module contains the values that events, entities and registrations are made of: documents with
ordered objects, callables, and context primitives and providers that have been classified already.
-/

namespace EventTracking

/-- A callable that a user registers. Its name is its identity. -/
structure Routine where
  name : String
  signature : Signature
  /-- The signature that the callable shows, if it shows one; usually the one that calls have to fit. -/
  shown : Option Signature
  isNamed : Bool
  deriving DecidableEq, Repr

inductive Container where
  | object
  | list
  deriving DecidableEq, Repr

inductive Callable where
  | routine (r : Routine)
  | constructor (c : Container)
  deriving DecidableEq, Repr

mutual

/-- Values of which only the identity counts carry the number of their object. -/
inductive Value where
  | null
  | bool (b : Bool)
  | int (n : Int)
  | float (x : Binary64)
  /-- A NaN other than the one that JSON texts are read as, with the number of its object. -/
  | nan (object : Nat)
  | str (s : String)
  | list (items : List Value)
  | tuple (items : List Value)
  /-- Entries in the order in which their keys were first set. -/
  | object (entries : List (Value × Value))
  | set (items : List Value)
  | bytes (data : List UInt8)
  | date (d : Date)
  | moment (t : Moment)
  | callable (f : Callable)
  | ruleSet (r : Schema.RuleSet)
  | primitive (p : Primitive) (object : Nat)
  | provider (p : Provider) (object : Nat)
  | foreign (kind : String) (object : Nat)

inductive Primitive where
  | fixed (entity : Value)
  | generator (f : Callable)

inductive Provider where
  | filter (predicate : Callable) (primitives : List Primitive)
  | ruled (rules : Schema.RuleSet) (primitives : List Primitive)

end

instance : Inhabited Value := ⟨.null⟩

instance : Inhabited Primitive := ⟨.fixed .null⟩

instance : Inhabited Provider := ⟨.ruled .empty []⟩

namespace Value

def kind : Value → String
  | .null => "NoneType"
  | .bool _ => "bool"
  | .int _ => "int"
  | .float _ | .nan _ => "float"
  | .str _ => "str"
  | .list _ => "list"
  | .tuple _ => "tuple"
  | .object _ => "dict"
  | .set _ => "set"
  | .bytes _ => "bytes"
  | .date _ => "date"
  | .moment _ => "datetime"
  | .callable (.routine r) => if r.isNamed then "function" else r.name
  | .callable (.constructor _) => "type"
  | .ruleSet _ => "RuleSet"
  | .primitive (.fixed _) _ => "StaticContext"
  | .primitive (.generator _) _ => "ContextGenerator"
  | .provider (.filter ..) _ => "FilterProvider"
  | .provider (.ruled ..) _ => "RuleSetProvider"
  | .foreign kind _ => kind

/-- Whether a value counts as true where only that matters: an empty or zero one does not. -/
def truthy : Value → Bool
  | .null => false
  | .bool b => b
  | .int n => n != 0
  | .float x => !x.isZero
  | .str s => !s.isEmpty
  | .list xs => !xs.isEmpty
  | .tuple xs => !xs.isEmpty
  | .object es => !es.isEmpty
  | .set xs => !xs.isEmpty
  | .bytes d => !d.isEmpty
  | _ => true

def isNull : Value → Bool
  | .null => true
  | _ => false

def text? : Value → Option String
  | .str s => some s
  | _ => none

def callable? : Value → Option Callable
  | .callable f => some f
  | _ => none

def items? : Value → Option (List Value)
  | .list xs => some xs
  | .tuple xs => some xs
  | _ => none

/-- The kind of what stands in a value for a part that contains the value itself. -/
def cycleKind : String := "cycle"

def isKey (key : String) : Value → Bool
  | .str s => s == key
  | _ => false

def field? (key : String) : Value → Option Value
  | .object es => (es.find? fun e => e.1.isKey key).map (·.2)
  | _ => none

def ofPairs (pairs : List (String × Value)) : Value :=
  .object (pairs.map fun (k, v) => (.str k, v))

def setEntry (key : String) (value : Value) : List (Value × Value) → List (Value × Value)
  | [] => [(.str key, value)]
  | (k, v) :: rest =>
    if k.isKey key then (k, value) :: rest else (k, v) :: setEntry key value rest

def ofTexts (texts : List String) : Value := .list (texts.map .str)

/--
What a loop over the value visits: the items of a list, tuple or set, the keys of an object, the
characters of a text, the bytes of binary data and the sides of a rule set. Nothing for what cannot be
looped over.
-/
def elements? : Value → Option (List Value)
  | .list xs => some xs
  | .tuple xs => some xs
  | .object es => some (es.map (·.1))
  | .set xs => some xs
  | .str s => some (s.toList.map fun c => .str (String.singleton c))
  | .bytes d => some (d.map fun b => .int b.toNat)
  | .ruleSet r =>
    some [.tuple [.str "accept", ofTexts r.accept], .tuple [.str "reject", ofTexts r.reject]]
  | _ => none

end Value

end EventTracking
