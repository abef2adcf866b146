import EventTracking.Context.Resolution

/-!
This module contains plugins, each a choice of hooks, and the entities that plugins contribute to every
event.
-/

namespace EventTracking

structure Plugin where
  ownName : Option String
  kindName : String
  activate : Option Callable
  beforeTrack : Option Callable
  afterTrack : Option Callable
  contexts : Option Callable
  logger : Option Callable

namespace Plugin

variable {σ : Type}

def name (p : Plugin) : String := p.ownName.getD p.kindName

def notesLogger : String := "trackercore.contexts.plugins"

def traceLogger : String := "trackercore.contexts.otel"

def reportFailure (p : Plugin) (fault : Fault) : Act (Session σ) Unit := do
  Session.sayError "Error adding plugin contexts" fault []
  Session.log traceLogger .warning <|
    "Plugin " ++ p.name ++ " contexts() hook failed: " ++ fault.message
  Session.trace "contexts.plugin_failed"
    [("contexts.plugin", .str p.name), ("contexts.error_type", .str fault.kind),
      ("contexts.error", .str fault.message)]

def dropNote? (p : Plugin) (output : Value) : Option String :=
  if !output.truthy || output.isSelfDescribing then none
  else
    match output.items? with
    | some xs =>
      let dropped := xs.length - (xs.filter Value.isSelfDescribing).length
      if dropped = 0 then none
      else some ("Dropped " ++ toString dropped ++ " malformed entities from " ++ p.name)
    | none => some ("Ignoring contexts() output of " ++ p.name ++ ": " ++ output.kind)

/--
The entities in what a context hook returned: none if that counts as false, and else those of a list, of which
others are dropped. An entity on its own is taken as a list of it.
-/
def entitiesOf (output : Value) : List Value :=
  if !output.truthy then []
  else
    let contributed := if output.isSelfDescribing then .list [output] else output
    ((contributed.items?).getD []).filter Value.isSelfDescribing

def contribution (behaviour : Behaviour σ) (p : Plugin) : Act (Session σ) (List Value) := do
  match p.contexts with
  | none => return []
  | some f =>
    match ← (f.call behaviour []).isolate with
    | .ok output =>
      match p.dropNote? output with
      | some note => Session.debug notesLogger note
      | none => pure ()
      return entitiesOf output
    | .error fault =>
      p.reportFailure fault
      return []

def contributions (behaviour : Behaviour σ) : List Plugin → Act (Session σ) (List Value)
  | [] => return []
  | p :: ps => do
    let first ← p.contribution behaviour
    let rest ← contributions behaviour ps
    return first ++ rest

/-- What the plugins contribute, followed by what a loop over the additional contexts visits. -/
def entities (behaviour : Behaviour σ) (plugins : List Plugin) (additional : Value) :
    Act (Session σ) (List Value) := do
  let contributed ← contributions behaviour plugins
  if !additional.truthy then return contributed
  else
    match additional.elements? with
    | some vs => return contributed ++ vs
    | none => throw (.notIterable additional.kind)

end Plugin

end EventTracking
