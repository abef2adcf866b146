import EventTracking.Context.Resolution

/-!
This module contains the registry of global contexts: the primitives that contribute to every event and
the conditional providers, each in the order of registration.
-/

namespace EventTracking

structure Registry where
  primitives : List Primitive
  providers : List Provider

namespace Registry

variable {σ : Type}

def logger : String := "trackercore.contexts.registry"

def traceLogger : String := "trackercore.contexts.otel"

def empty : Registry := ⟨[], []⟩

instance : Inhabited Registry := ⟨empty⟩

def size (r : Registry) : Nat := r.primitives.length + r.providers.length

inductive Entry where
  | provider (p : Provider)
  | primitive (p : Primitive)

def Entry.ofValue? (v : Value) : Option Entry :=
  match Provider.ofValue? v with
  | some p => some (.provider p)
  | none => (Primitive.ofValue? v).map .primitive

def addEntry (r : Registry) : Entry → Registry
  | .provider p => { r with providers := r.providers ++ [p] }
  | .primitive p => { r with primitives := r.primitives ++ [p] }

def insert (r : Registry) (v : Value) : Registry :=
  match Entry.ofValue? v with
  | some e => r.addEntry e
  | none => r

def removeFirst {α : Type} (p : α → Bool) : List α → List α
  | [] => []
  | x :: xs => if p x then xs else x :: removeFirst p xs

def removeEntry (r : Registry) : Entry → Registry
  | .provider p => { r with providers := removeFirst (fun q => q.same p) r.providers }
  | .primitive p => { r with primitives := removeFirst (fun q => q.same p) r.primitives }

def holds (r : Registry) : Entry → Bool
  | .provider p => r.providers.any fun q => q.same p
  | .primitive p => r.primitives.any fun q => q.same p

def erase (r : Registry) (v : Value) : Registry :=
  match Entry.ofValue? v with
  | some e => r.removeEntry e
  | none => r

def insertAll (r : Registry) (vs : List Value) : Registry := vs.foldl insert r

def eraseAll (r : Registry) (vs : List Value) : Registry := vs.foldl erase r

def insertNote? (v : Value) : Option String :=
  match Entry.ofValue? v with
  | some _ => none
  | none => some "Discarding invalid global context: %r"

def eraseNote? (r : Registry) (v : Value) : Option String :=
  match Entry.ofValue? v with
  | some (.provider p) =>
    if r.holds (.provider p) then none else some "No matching conditional provider to remove: %r"
  | some (.primitive p) =>
    if r.holds (.primitive p) then none else some "No matching context primitive to remove: %r"
  | none => none

def note (text? : Option String) : Act (Session σ) Unit :=
  match text? with
  | some text => Session.debug logger text
  | none => pure ()

def add (contexts : Value) (r : Registry) : Act (Session σ) Registry := do
  match contexts.elements? with
  | none => throw (.notIterable contexts.kind)
  | some vs =>
    for v in vs do
      note (insertNote? v)
    return r.insertAll vs

/-- Removes the earliest equal registration for each value that a loop over the value visits. -/
def remove (contexts : Value) (r : Registry) : Act (Session σ) Registry := do
  match contexts.elements? with
  | none => throw (.notIterable contexts.kind)
  | some vs => removeEach vs r
where
  removeEach : List Value → Registry → Act (Session σ) Registry
    | [], r => return r
    | v :: vs, r => do
      note (r.eraseNote? v)
      removeEach vs (r.erase v)

def primitiveValues (r : Registry) : List Value := r.primitives.map Primitive.toValue

def providerValues (r : Registry) : List Value := r.providers.map Provider.toValue

def orDash (s : String) : String := if s.isEmpty then "-" else s

def traceResolved (r : Registry) (e : ContextEvent) (unconditional total : Nat) :
    Act (Session σ) Unit := do
  Session.debug traceLogger <|
    "Resolved global contexts: type=" ++ orDash e.type ++ " schema=" ++ orDash e.schema
      ++ " entities=" ++ toString total
  Session.trace "contexts.resolved"
    [("contexts.event_type", .str e.type), ("contexts.event_schema", .str e.schema),
      ("contexts.primitives", .int r.primitives.length),
      ("contexts.conditionals", .int r.providers.length),
      ("contexts.unconditional_entities", .int unconditional),
      ("contexts.conditional_entities", .int ((total : Int) - unconditional)),
      ("contexts.total_entities", .int total)]

/-- The entities that apply to an event: those of the primitives, then those of the providers. -/
def resolve (behaviour : Behaviour σ) (e : ContextEvent) (r : Registry) :
    Act (Session σ) (List Value) := do
  let unconditional ← Primitive.resolveAll behaviour [.event e] r.primitives
  let conditional ← Provider.resolveAll behaviour e r.providers
  let entities := unconditional ++ conditional
  r.traceResolved e unconditional.length entities.length
  return entities

end Registry

end EventTracking
