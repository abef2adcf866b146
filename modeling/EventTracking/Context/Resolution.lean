import EventTracking.Context.Classification

/-!
This module contains the resolution of context entities: what primitives and conditional providers
contribute to an event. A callable that fails contributes nothing, and its failure is reported.
-/

namespace EventTracking

namespace Resolution

variable {σ : Type}

def logger : String := "trackercore.contexts.primitives"

def anonymous : String := "context generator"

/-- The entities in what a generator returned: nothing, an entity, or a list of which others are dropped. -/
def entitiesOf (output : Value) : List Value :=
  if output.isSelfDescribing then [output]
  else ((output.items?).getD []).filter Value.isSelfDescribing

def dropNote? (output : Value) (source : String) : Option String :=
  if output.isNull || output.isSelfDescribing then none
  else
    match output.items? with
    | some xs =>
      let dropped := xs.length - (xs.filter Value.isSelfDescribing).length
      if dropped = 0 then none
      else some ("Dropped " ++ toString dropped ++ " malformed entities from " ++ source)
    | none => some "Ignoring non-entity output from %s: %r"

def expand (output : Value) (source : String) : Act (Session σ) (List Value) := do
  match dropNote? output source with
  | some note => Session.debug logger note
  | none => pure ()
  return entitiesOf output

def generate (behaviour : Behaviour σ) (f : Callable) (args : List Argument) :
    Act (Session σ) (List Value) := do
  match ← (f.invoke behaviour args).isolate with
  | .ok output => expand output (f.name?.getD anonymous)
  | .error fault =>
    Session.sayError "Exception thrown in context generator" fault []
    return []

end Resolution

namespace Primitive

variable {σ : Type}

def resolve (behaviour : Behaviour σ) (args : List Argument) : Primitive → Act (Session σ) (List Value)
  | .fixed entity => return [entity]
  | .generator f => Resolution.generate behaviour f args

def resolveAll (behaviour : Behaviour σ) (args : List Argument) :
    List Primitive → Act (Session σ) (List Value)
  | [] => return []
  | p :: ps => do
    let first ← p.resolve behaviour args
    let rest ← resolveAll behaviour args ps
    return first ++ rest

end Primitive

namespace Provider

variable {σ : Type}

/-- Whether a filter returns the truth value true itself for an event. -/
def passes (behaviour : Behaviour σ) (f : Callable) (e : ContextEvent) : Act (Session σ) Bool := do
  match ← (f.invoke behaviour [.event e]).isolate with
  | .ok (.bool b) => return b
  | .ok _ => return false
  | .error fault =>
    Session.sayError "Exception thrown in context filter" fault []
    return false

def appliesTo (behaviour : Behaviour σ) (e : ContextEvent) : Provider → Act (Session σ) Bool
  | .filter f _ => passes behaviour f e
  | .ruled r _ => return r.admits e.schema

def primitives : Provider → List Primitive
  | .filter _ ps => ps
  | .ruled _ ps => ps

def resolve (behaviour : Behaviour σ) (e : ContextEvent) (p : Provider) :
    Act (Session σ) (List Value) := do
  if ← p.appliesTo behaviour e then
    Primitive.resolveAll behaviour [.event e] p.primitives
  else
    return []

def resolveAll (behaviour : Behaviour σ) (e : ContextEvent) :
    List Provider → Act (Session σ) (List Value)
  | [] => return []
  | p :: ps => do
    let first ← p.resolve behaviour e
    let rest ← resolveAll behaviour e ps
    return first ++ rest

end Provider

namespace Resolution

variable {σ : Type}

def resolveItem (behaviour : Behaviour σ) (args : List Argument) (item : Value) :
    Act (Session σ) (List Value) := do
  match item with
  | .callable f => generate behaviour f args
  | .primitive p _ => p.resolve behaviour args
  | v =>
    if v.isSelfDescribing then return [v]
    else do
      Session.debug logger "Dropping malformed context: %r"
      return []

def resolveItems (behaviour : Behaviour σ) (args : List Argument) :
    List Value → Act (Session σ) (List Value)
  | [] => return []
  | x :: xs => do
    let first ← resolveItem behaviour args x
    let rest ← resolveItems behaviour args xs
    return first ++ rest

def resolveDirectly (behaviour : Behaviour σ) (contexts : Value) (args : List Argument) :
    Act (Session σ) (List Value) := do
  if !contexts.truthy then return []
  else
    match contexts.elements? with
    | some xs => resolveItems behaviour args xs
    | none => throw (.notIterable contexts.kind)

end Resolution

end EventTracking
