import EventTracking.Log

/-!
This module contains the surroundings of a run: what has been logged and traced, the facade, the clock,
the supply of event identifiers and the state that the user's callables keep. A computation may fail,
and the state it has reached by then remains.
-/

namespace EventTracking

structure SpanEvent where
  name : String
  attributes : List (String × Value)

inductive Seconds where
  | whole (n : Int)
  | fraction (x : Binary64)

namespace Seconds

/-- In milliseconds, rounded as a floating point product and then toward zero. -/
def milliseconds : Seconds → Except Fault Int
  | .whole n => .ok (n * 1000)
  | .fraction x =>
    match x.mul (.ofInt 1000) with
    | .nan => .error .integerOfNan
    | .infinity _ => .error .integerOfInfinity
    | y => .ok (y.truncate?.getD 0)

end Seconds

structure Session (σ : Type) where
  users : σ
  facade : Facade
  records : List Record
  spans : List SpanEvent
  recording : Bool
  now : Seconds
  stamp : String
  identifier : Nat → String
  issued : Nat

abbrev Act (S α : Type) := ExceptT Fault (StateM S) α

namespace Act

variable {S T α : Type}

/-- The outcome of a computation, faults included. Requests to stop are not held back. -/
def isolate (act : Act S α) : Act S (Except Fault α) := fun s =>
  match act s with
  | (.ok a, s) => (.ok (.ok a), s)
  | (.error f, s) => if f.interrupts then (.error f, s) else (.ok (.error f), s)

/--
Runs a computation on a subject beside the state. The subject as the computation left it is returned
with the outcome.
-/
def onSubject (subject : T) (act : Act (T × S) α) : Act S (Except Fault α × T) := fun s =>
  match act (subject, s) with
  | (outcome, subject, s) => (.ok (outcome, subject), s)

def besideSubject (act : Act S α) : Act (T × S) α := fun (subject, s) =>
  match act s with
  | (outcome, s) => (outcome, subject, s)

def subject : Act (T × S) T := do return (← get).1

def setSubject (t : T) : Act (T × S) Unit := modify fun (_, s) => (t, s)

def updateSubject (operation : T → Except Fault T) : Act (T × S) Unit := do
  match operation (← subject) with
  | .ok t => setSubject t
  | .error f => throw f

def ofExcept (e : Except Fault α) : Act S α :=
  match e with
  | .ok a => pure a
  | .error f => throw f

end Act

namespace Session

variable {σ : Type}

def initial (users : σ) (now : Seconds) (stamp : String) (identifier : Nat → String) : Session σ where
  users := users
  facade := .initial
  records := []
  spans := []
  recording := true
  now := now
  stamp := stamp
  identifier := identifier
  issued := 0

def log (logger : String) (severity : Severity) (text : String) : Act (Session σ) Unit :=
  modify fun s => { s with records := s.records ++ [⟨logger, severity, text⟩] }

def debug (logger text : String) : Act (Session σ) Unit := log logger .debug text

def trace (name : String) (attributes : List (String × Value)) : Act (Session σ) Unit :=
  modify fun s => if s.recording then { s with spans := s.spans ++ [⟨name, attributes⟩] } else s

def say (level : Level) (message : String) (error : Option ErrorNote) (params : List Value) :
    Act (Session σ) Unit := do
  let s ← get
  match s.facade.record? s.stamp level message error params with
  | .ok none => return ()
  | .ok (some r) => set { s with records := s.records ++ [r] }
  | .error f => throw f

def sayError (message : String) (fault : Fault) (params : List Value) : Act (Session σ) Unit :=
  say .error message (some (.ofFault fault)) params

def nextIdentifier : Act (Session σ) String := do
  let s ← get
  set { s with issued := s.issued + 1 }
  return s.identifier s.issued

end Session

end EventTracking
