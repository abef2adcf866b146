import EventTracking.Container
import EventTracking.Payload.Builder

/-!
This module contains the view of an event that generators and filters are given: its pairs, its type
and the schema of the self-describing event inside it.
-/

namespace EventTracking

structure ContextEvent where
  pairs : Pairs
  type : String
  schema : String

namespace ContextEvent

def eventKey : String := "ue_px"

def innerSchema? (document : Value) : Option String :=
  (document.field? "dt").bind fun inner => (inner.field? "sc").bind Value.text?

/-- The schema of the first waiting event document that wraps a self-describing object. -/
def schemaOf (deferred : List Deferred) : String :=
  ((deferred.filter (·.keyIfEncoded == eventKey)).findSome? fun d => innerSchema? d.json).getD ""

def ofBuilder (b : Builder) : ContextEvent :=
  let pairs := b.payload
  ⟨pairs, ((pairs.get? "e").bind Value.text?).getD "", schemaOf b.deferred⟩

end ContextEvent

inductive Argument where
  | value (v : Value)
  | event (e : ContextEvent)

namespace Argument

def toValue : Argument → Value
  | .value v => v
  | .event _ => .foreign "ContextEvent" 0

end Argument

abbrev Behaviour (σ : Type) := Routine → List Argument → Act (Session σ) Value

namespace Callable

variable {σ : Type}

def call (behaviour : Behaviour σ) (f : Callable) (args : List Argument) :
    Act (Session σ) Value := do
  match f with
  | .routine r =>
    Act.ofExcept (r.fits args.length)
    behaviour r args
  | .constructor c => Act.ofExcept (c.construct (args.map Argument.toValue))

/-- Calls a callable with as many of the arguments as it takes by position. -/
def invoke (behaviour : Behaviour σ) (f : Callable) (args : List Argument) :
    Act (Session σ) Value :=
  f.call behaviour (args.take (f.accepted args.length))

/--
Whether a callable can be called with at most one positional argument, as far as it shows a signature.
A constructor is no callback.
-/
def isCallback : Callable → Bool
  | .routine r => r.shown.all Signature.fitsOneArgument
  | .constructor _ => false

end Callable

end EventTracking
