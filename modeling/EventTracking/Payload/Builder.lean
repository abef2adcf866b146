import EventTracking.Pairs
import EventTracking.Schema.RuleSet
import EventTracking.Session

/-!
This module contains the payload builder: pairs that are set at once, and JSON objects and context
entities that wait until the payload is built. Once built, a payload no longer changes.
-/

namespace EventTracking

structure Deferred where
  keyIfEncoded : String
  keyIfPlain : String
  entries : List (Value × Value)

namespace Deferred

def json (d : Deferred) : Value := .object d.entries

end Deferred

inductive Processor where
  | standard (encode : Bool)
  | custom (f : Callable)

structure Builder where
  pairs : Pairs
  deferred : List Deferred
  entities : List Value
  processor : Option Processor
  built : Option Pairs

namespace Builder

def empty : Builder := ⟨[], [], [], none, none⟩

instance : Inhabited Builder := ⟨empty⟩

def isBuilt (b : Builder) : Bool := b.built.isSome

def change (operation : String) (f : Builder → Builder) (b : Builder) : Except Fault Builder :=
  if b.isBuilt then .error (.sealed operation) else .ok (f b)

/-- Sets a pair; a null value is ignored. -/
def add (key : String) (value : Value) : Builder → Except Fault Builder :=
  change "add" fun b => { b with pairs := b.pairs.setNonNull key value }

/-- Sets several pairs. Without any it does nothing, even to a built payload. -/
def addAll (more : Pairs) (b : Builder) : Except Fault Builder :=
  more.foldlM (fun b p => b.add p.1 p.2) b

def defer (keyIfEncoded keyIfPlain : String) (json : Value) : Builder → Except Fault Builder :=
  change "add_json" fun b =>
    match json with
    | .object (e :: es) =>
      { b with deferred := b.deferred ++ [⟨keyIfEncoded, keyIfPlain, e :: es⟩] }
    | _ => b

def attach (entity : Value) : Builder → Except Fault Builder :=
  change "add_context_entity" fun b => { b with entities := b.entities ++ [entity] }

/-- Installs what processes the waiting content; the last one installed counts. -/
def install (p : Processor) : Builder → Except Fault Builder :=
  change "with_json_processor" fun b => { b with processor := some p }

def payload (b : Builder) : Pairs := b.built.getD b.pairs

/-- Writes into the pairs themselves, null or not; without effect on a built payload. -/
def write (key : String) (value : Value) (b : Builder) : Builder :=
  if b.isBuilt then b else { b with pairs := b.pairs.set key value }

end Builder

end EventTracking
