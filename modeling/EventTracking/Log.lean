import EventTracking.Fault
import EventTracking.Json.Writer
import EventTracking.Text.Case

/-!
This module contains log records and the logging facade that the tracker shares with its plugins. The
facade has a verbosity of its own and writes an entry as a line of JSON or of plain text.
-/

namespace EventTracking

inductive Severity where
  | debug
  | info
  | warning
  | error
  deriving DecidableEq, Repr

namespace Severity

def name : Severity → String
  | .debug => "DEBUG"
  | .info => "INFO"
  | .warning => "WARNING"
  | .error => "ERROR"

end Severity

structure Record where
  logger : String
  severity : Severity
  text : String
  deriving DecidableEq, Repr

inductive Level where
  | silent
  | error
  | warn
  | debug
  | info
  deriving DecidableEq, Repr

namespace Level

def all : List Level := [.silent, .error, .warn, .debug, .info]

def rank : Level → Nat
  | .silent => 0
  | .error => 1
  | .warn => 2
  | .debug => 3
  | .info => 4

def name : Level → String
  | .silent => "NONE"
  | .error => "ERROR"
  | .warn => "WARN"
  | .debug => "DEBUG"
  | .info => "INFO"

def lowerName (l : Level) : String := Text.toLower l.name

/-- The severity of the records written at a level; nothing is ever written at `silent`. -/
def severity : Level → Severity
  | .silent => .error
  | .error => .error
  | .warn => .warning
  | .debug => .debug
  | .info => .info

def ofName (s : String) : Except Fault Level :=
  let key := Text.toUpper (Text.trim s)
  match all.find? (·.name == key) with
  | some l => .ok l
  | none => .error (.unknownLevel key)

/-- The level of a value that is numerically equal to a rank. -/
def ofValue (v : Value) : Except Fault Level :=
  let rank? : Option Nat :=
    match v with
    | .bool b => some (if b then 1 else 0)
    | .int n => if 0 ≤ n then some n.toNat else none
    | .float x => (List.range 5).find? fun n => x.eqInt n
    | _ => none
  match rank?.bind fun n => all.find? (·.rank == n) with
  | some l => .ok l
  | none => .error (.badLevel v.quoted)

end Level

structure ErrorNote where
  kind : String
  message : String
  deriving DecidableEq, Repr

namespace ErrorNote

def ofFault (f : Fault) : ErrorNote := ⟨f.kind, f.message⟩

end ErrorNote

inductive LogFormat where
  | json
  | text
  deriving DecidableEq, Repr

namespace LogFormat

def name : LogFormat → String
  | .json => "json"
  | .text => "text"

/-- The format of a name; what names no format stands for JSON. -/
def ofName (s : String) : LogFormat := if s = "text" then .text else .json

end LogFormat

structure Facade where
  level : Level
  service : String
  format : LogFormat
  deriving DecidableEq, Repr

namespace Facade

def initial : Facade := ⟨.warn, "trackercore", .json⟩

def logger : String := "trackercore.events"

def entry (f : Facade) (stamp : String) (level : Level) (message : String)
    (error : Option ErrorNote) (params : List Value) : Value :=
  .ofPairs <|
    [("timestamp", .str stamp), ("level", .str level.lowerName), ("service", .str f.service),
      ("message", .str message)]
    ++ (match error with
        | none => []
        | some e => [("error", .str e.message), ("error_type", .str e.kind)])
    ++ (if params.isEmpty then [] else [("params", .list params)])

def jsonLine (f : Facade) (stamp : String) (level : Level) (message : String)
    (error : Option ErrorNote) (params : List Value) : Except Fault String :=
  match Json.ofValue (fun v => some v.text) (f.entry stamp level message error params) with
  | .ok j => .ok (j.render .line)
  | .error o => .error (.notData o)

def textLine (f : Facade) (level : Level) (message : String) (error : Option ErrorNote)
    (params : List Value) : String :=
  "[" ++ f.service ++ "] " ++ level.name ++ " " ++ message
    ++ (match error with
        | none => ""
        | some e => ": " ++ e.kind ++ ": " ++ e.message)
    ++ (if params.isEmpty then "" else " " ++ " ".intercalate (params.map Value.text))

def record? (f : Facade) (stamp : String) (level : Level) (message : String)
    (error : Option ErrorNote) (params : List Value) : Except Fault (Option Record) := do
  if f.level.rank < level.rank then
    return none
  else
    let line ←
      match f.format with
      | .text => .ok (f.textLine level message error params)
      | .json => f.jsonLine stamp level message error params
    return some ⟨logger, level.severity, line⟩

end Facade

end EventTracking
