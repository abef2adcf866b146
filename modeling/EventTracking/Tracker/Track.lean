import EventTracking.Payload.Build
import EventTracking.Timestamp
import EventTracking.Tracker.Basic

/-!
This module contains tracking: how a tracker completes a builder and which callables of the user run on
the way. Entities are attached in a fixed order: those of the registry, those of the plugins, then those
given with the call.
-/

namespace EventTracking

structure Users (σ : Type) where
  behave : Behaviour σ
  process : ProcessorBehaviour σ
  onBuilder : Routine → Act (Builder × Session σ) Value
  onPayload : Routine → Act (Pairs × Session σ) Value
  onTracker : Routine → Act (Tracker × Session σ) Value
  onFacade : Routine → Act (Session σ) Value

namespace Users

variable {σ : Type}

def callOnBuilder (users : Users σ) (f : Callable) : Act (Builder × Session σ) Unit := do
  match ← Act.ofExcept (f.enter [.foreign "PayloadBuilder" 0]) with
  | some r => discard (users.onBuilder r)
  | none => pure ()

def callOnPayload (users : Users σ) (f : Callable) : Act (Pairs × Session σ) Unit := do
  match ← Act.ofExcept (f.enter [.ofPairs (← Act.subject)]) with
  | some r => discard (users.onPayload r)
  | none => pure ()

def callOnTracker (users : Users σ) (f : Callable) : Act (Tracker × Session σ) Unit := do
  match ← Act.ofExcept (f.enter [.foreign "TrackerCore" 0]) with
  | some r => discard (users.onTracker r)
  | none => pure ()

def callOnFacade (users : Users σ) (f : Callable) : Act (Session σ) Unit := do
  match ← Act.ofExcept (f.enter [.foreign "TrackerLogger" 0]) with
  | some r => discard (users.onFacade r)
  | none => pure ()

end Users

namespace Tracker

variable {σ : Type}

/-- Runs one hook of each plugin that has it. A hook that fails is reported and the next one runs. -/
def runHooks {T : Type} (name : String) (hook : Plugin → Option Callable)
    (call : Callable → Act (T × Session σ) Unit) : List Plugin → Act (T × Session σ) Unit
  | [] => pure ()
  | p :: ps => do
    match hook p with
    | none => pure ()
    | some f =>
      match ← (call f).isolate with
      | .ok () => pure ()
      | .error fault =>
        Act.besideSubject (Session.sayError ("Plugin " ++ name ++ " error") fault [.str p.name])
    runHooks name hook call ps

def runCallback (users : Users σ) (callback : Value) : Act (Builder × Session σ) Unit :=
  match callback with
  | .null => pure ()
  | .callable f => users.callOnBuilder f
  | v => throw (.notCallable v.kind)

def pairText (key : String) (payload : Pairs) : String :=
  ((payload.get? key).map Value.text).getD ""

def traceTracked (t : Tracker) (payload : Pairs) (entities : Nat) : Act (Session σ) Unit := do
  let id := pairText "eid" payload
  let type := pairText "e" payload
  Session.debug Builder.traceLogger <|
    "Tracked event: eid=" ++ id ++ " type=" ++ type ++ " contexts=" ++ toString entities
  Session.trace "event.tracked"
    [("event.id", .str id), ("event.type", .str type), ("event.context_entities", .int entities),
      ("event.base64", t.base64)]

def attachAll (entities : List Value) (b : Builder) : Except Fault Builder :=
  entities.foldlM (fun b e => b.attach e) b

def prepare (t : Tracker) (timestamp : Timestamp) : Act (Builder × Session σ) Unit := do
  Act.updateSubject (Builder.install (.standard t.base64.truthy))
  let id ← Act.besideSubject Session.nextIdentifier
  Act.updateSubject (Builder.add "eid" (.str id))
  Act.updateSubject (Builder.addAll t.pairs)
  let now := (← get).2.now
  let time ← Act.ofExcept ((timestamp.milliseconds now).bind Value.integerText)
  Act.updateSubject (Builder.add timestamp.key (.str time))

/-- The entities of an event: global, from plugins, and given with the call. -/
def gather (users : Users σ) (t : Tracker) (contexts : Value) :
    Act (Builder × Session σ) (List Value) := do
  let event := ContextEvent.ofBuilder (← Act.subject)
  let registered ← Act.besideSubject (t.registry.resolve users.behave event)
  let contributed ← Act.besideSubject (Plugin.entities users.behave t.plugins contexts)
  return registered ++ contributed

/-- Builds the payload and returns it as the hooks that run after the build have left it. -/
def finish (users : Users σ) (t : Tracker) (entities : Nat) : Act (Builder × Session σ) Pairs := do
  let payload ← Builder.build users.process
  let (outcome, payload) ← Act.besideSubject <| Act.onSubject payload <|
    runHooks "after_track" Plugin.afterTrack users.callOnPayload t.plugins
  Act.ofExcept outcome
  Act.besideSubject (t.traceTracked payload entities)
  return payload

def track (users : Users σ) (t : Tracker) (contexts : Value) (timestamp : Timestamp) :
    Act (Builder × Session σ) Pairs := do
  t.prepare timestamp
  let entities ← t.gather users contexts
  Act.updateSubject (attachAll entities)
  runHooks "before_track" Plugin.beforeTrack users.callOnBuilder t.plugins
  runCallback users t.callback
  t.finish users entities.length

/-- Adds a plugin and runs the hooks that introduce it. A failure of either hook is not held back. -/
def addPlugin (users : Users σ) (p : Plugin) : Act (Tracker × Session σ) Unit := do
  modify fun (t, s) => ({ t with plugins := t.plugins ++ [p] }, s)
  match p.logger with
  | some f => Act.besideSubject (users.callOnFacade f)
  | none => pure ()
  match p.activate with
  | some f => users.callOnTracker f
  | none => pure ()
  Act.besideSubject (Session.debug logger ("Activated plugin " ++ p.name))

def addPlugins (users : Users σ) : List Plugin → Act (Tracker × Session σ) Unit
  | [] => pure ()
  | p :: ps => do
    addPlugin users p
    addPlugins users ps

def create (users : Users σ) (settings : Settings) (callback : Value) (plugins : List Plugin) :
    Act (Session σ) Tracker := do
  let blank : Tracker := ⟨some settings, .bool settings.base64, [], [], .empty, callback⟩
  let (outcome, t) ← Act.onSubject blank do
    adopt settings
    addPlugins users plugins
  Act.ofExcept outcome
  return t

end Tracker

end EventTracking
