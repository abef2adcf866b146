import EventTracking.Pairs
import EventTracking.Session

/-!
This module contains the time stamps of events: the payload key under which a time is written and the
whole number of milliseconds that is written there.
-/

namespace EventTracking

namespace Value

/-- The integer that a value denotes: a number is cut off toward zero and a text is read. -/
def toInteger : Value → Except Fault Int
  | .bool b => .ok (if b then 1 else 0)
  | .int n => .ok n
  | .float .nan | .nan _ => .error .integerOfNan
  | .float (.infinity _) => .error .integerOfInfinity
  | .float x => .ok (x.truncate?.getD 0)
  | .str s =>
    match Text.readInteger s with
    | .ok n => .ok n
    | .error .notDecimal => .error (.notInteger 10 s)
    | .error (.tooLong n) => .error (.integerTooLong n)
  | v => .error (.notNumeric v.kind)

def integerText (n : Int) : Except Fault String :=
  match Text.integerText? n with
  | some text => .ok text
  | none => .error .integerNotWritable

end Value

inductive Timestamp where
  | now
  | trusted (value : Value)
  | device (value : Value)

namespace Timestamp

def trustedKey : String := "ttm"

def deviceKey : String := "dtm"

/-- A bare value is the time of a device, and null the present. -/
def ofValue (v : Value) : Timestamp := if v.isNull then .now else .device v

def key : Timestamp → String
  | .trusted _ => trustedKey
  | _ => deviceKey

def milliseconds (now : Seconds) : Timestamp → Except Fault Int
  | .now => now.milliseconds
  | .trusted v => v.toInteger
  | .device v => v.toInteger

end Timestamp

end EventTracking
