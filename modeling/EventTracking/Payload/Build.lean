import EventTracking.Container
import EventTracking.Payload.Processing

/-!
This module contains the building of a payload and the steps of work on a builder.
-/

namespace EventTracking

abbrev ProcessorBehaviour (σ : Type) :=
  Routine → List Deferred → List Value → Act (Builder × Session σ) Value

namespace Builder

variable {σ : Type}

def logger : String := "trackercore.payload"

def traceLogger : String := "trackercore.otel"

def processStandard (encode : Bool) (b : Builder) : Act (Builder × Session σ) Unit := do
  let start : Processing.Progress := ⟨b.pairs, none, 0⟩
  let (outcome, progress) := Processing.process encode b.deferred b.entities start
  Act.setSubject { b with pairs := progress.pairs }
  for _ in List.range progress.unreadable do
    Act.besideSubject <|
      Session.log logger .warning "Discarding unreadable context already on the payload: %s"
  Act.ofExcept outcome

def runProcessor (process : ProcessorBehaviour σ) (p : Processor) :
    Act (Builder × Session σ) Unit := do
  let b ← Act.subject
  match p with
  | .standard encode => processStandard encode b
  | .custom f =>
    let entries := b.deferred.map Deferred.json
    let args := [Value.foreign "PayloadBuilder" 0, .list entries, .list b.entities]
    match ← Act.ofExcept (f.enter args) with
    | some r => discard (process r b.deferred b.entities)
    | none => pure ()

def traceBuilt (b : Builder) (payload : Pairs) : Act (Session σ) Unit := do
  let waiting := b.deferred.length
  let entities := b.entities.length
  let processed := b.processor.isSome
  if (waiting != 0 || entities != 0) && !processed then
    Session.log traceLogger .warning <|
      "Payload built without a JSON processor: " ++ toString waiting ++ " deferred JSON and "
        ++ toString entities ++ " context entities were not serialised"
  Session.trace "payload.built"
    [("payload.keys", .int payload.length), ("payload.deferred_json", .int waiting),
      ("payload.context_entities", .int entities), ("payload.processed", .bool processed)]

/-- Builds the payload. The first build that succeeds fixes it; later ones return it again. -/
def build (process : ProcessorBehaviour σ) : Act (Builder × Session σ) Pairs := do
  let b ← Act.subject
  match b.built with
  | some payload => return payload
  | none =>
    match b.processor with
    | some p => runProcessor process p
    | none => pure ()
    let b ← Act.subject
    let payload := b.pairs
    Act.setSubject { b with built := some payload }
    Act.besideSubject (traceBuilt b payload)
    return payload

def deferNoted (keyIfEncoded keyIfPlain : String) (json : Value) :
    Act (Builder × Session σ) Unit := do
  let before ← Act.subject
  Act.updateSubject (defer keyIfEncoded keyIfPlain json)
  let after ← Act.subject
  if after.deferred.length = before.deferred.length then
    Act.besideSubject <|
      Session.debug logger ("Ignoring empty JSON for " ++ keyIfEncoded ++ "/" ++ keyIfPlain)

inductive Operation where
  | add (key : String) (value : Value)
  | addAll (more : Pairs)
  | defer (keyIfEncoded keyIfPlain : String) (json : Value)
  | attach (entity : Value)
  | install (p : Processor)
  | write (key : String) (value : Value)
  | getPayload
  | getDeferred
  | getEntities
  | isBuilt
  | build

inductive Answer where
  | nothing
  | pairs (ps : Pairs)
  | deferred (ds : List Deferred)
  | entities (vs : List Value)
  | truth (b : Bool)

namespace Operation

def run (process : ProcessorBehaviour σ) : Operation → Act (Builder × Session σ) Answer
  | .add key value => do
    Act.updateSubject (Builder.add key value)
    return .nothing
  | .addAll more => do
    Act.updateSubject (Builder.addAll more)
    return .nothing
  | .defer e p json => do
    deferNoted e p json
    return .nothing
  | .attach entity => do
    Act.updateSubject (Builder.attach entity)
    return .nothing
  | .install p => do
    Act.updateSubject (Builder.install p)
    return .nothing
  | .write key value => do
    Act.setSubject ((← Act.subject).write key value)
    return .nothing
  | .getPayload => return .pairs (← Act.subject).payload
  | .getDeferred => return .deferred (← Act.subject).deferred
  | .getEntities => return .entities (← Act.subject).entities
  | .isBuilt => return .truth (← Act.subject).isBuilt
  | .build => return .pairs (← Builder.build process)

end Operation

end Builder

end EventTracking
