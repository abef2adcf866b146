import EventTracking.Context.Event
import EventTracking.Schema.Valuation

/-!
This module contains the classification of registrations: which values are entities, primitives and
conditional providers. A value is classified once, when it is registered.
-/

namespace EventTracking

namespace Value

def isNonEmptyObject : Value → Bool
  | .object es => !es.isEmpty
  | _ => false

def isObject : Value → Bool
  | .object _ => true
  | _ => false

/-- Whether a value is an object with a text as its schema and a non-empty object as its data. -/
def isSelfDescribing (v : Value) : Bool :=
  ((v.field? "sc").bind text?).isSome && ((v.field? "dt").map isNonEmptyObject).getD false

def isCallback (v : Value) : Bool := (v.callable?.map Callable.isCallback).getD false

def pair? (v : Value) : Option (Value × Value) :=
  match v.items? with
  | some [a, b] => some (a, b)
  | _ => none

end Value

namespace Primitive

def ofValue? : Value → Option Primitive
  | .primitive p _ => some p
  | v =>
    if v.isSelfDescribing then some (.fixed v)
    else
      match v with
      | .callable f => if f.isCallback then some (.generator f) else none
      | _ => none

def allOfValue? (v : Value) : Option (List Primitive) :=
  ((v.items?).getD [v]).mapM ofValue?

def toValue : Primitive → Value
  | .fixed entity => entity
  | .generator f => .callable f

def recognizes : Value → Bool
  | .primitive .. => true
  | v => v.isCallback || v.isSelfDescribing

def recognizesAll (v : Value) : Bool :=
  match v.items? with
  | some xs => xs.all recognizes
  | none => recognizes v

end Primitive

namespace Provider

def ofCriterion? (criterion : Value) (primitives : List Primitive) : Option Provider :=
  match criterion.callable? with
  | some f => if f.isCallback then some (.filter f primitives) else none
  | none => (Schema.RuleSet.ofValue? criterion).map (.ruled · primitives)

def ofValue? : Value → Option Provider
  | .provider p _ => some p
  | v =>
    match v.pair? with
    | none => none
    | some (criterion, primitives) =>
      (Primitive.allOfValue? primitives).bind (ofCriterion? criterion)

def toValue : Provider → Value
  | .filter f ps => .tuple [.callable f, .list (ps.map Primitive.toValue)]
  | .ruled r ps => .tuple [r.toValue, .list (ps.map Primitive.toValue)]

def recognizesFilter : Value → Bool
  | .provider (.filter ..) _ => true
  | v =>
    match v.pair? with
    | some (criterion, primitives) => criterion.isCallback && Primitive.recognizesAll primitives
    | none => false

def recognizesRuled : Value → Bool
  | .provider (.ruled ..) _ => true
  | v =>
    match v.pair? with
    | some (criterion, primitives) =>
      (Schema.RuleSet.ofValue? criterion).isSome && Primitive.recognizesAll primitives
    | none => false

def recognizes (v : Value) : Bool := recognizesFilter v || recognizesRuled v

end Provider

end EventTracking
