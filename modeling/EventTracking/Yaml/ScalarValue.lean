import EventTracking.Fault
import EventTracking.Text.Case
import EventTracking.Yaml.Tag

/-!
This module contains the values that the texts of YAML scalars stand for under the tags of scalars.
-/

namespace EventTracking.Yaml

namespace Scalar

def emptyText : Fault := .badScalar "IndexError" "string index out of range"

def notNumber (s : String) : Fault :=
  .badScalar "ValueError" ("could not convert string to float: " ++ Text.quote s)

def decimal (s : String) : Except Fault Int :=
  match Text.readInteger s with
  | .ok n => .ok n
  | .error .notDecimal => .error (.notInteger 10 s)
  | .error (.tooLong n) => .error (.integerTooLong n)

def inBase (base : Nat) (cs : List Char) : Except Fault Int :=
  let s := String.ofList cs
  match Text.readInBase? base s with
  | some n => .ok n
  | none => .error (.notInteger base s)

def parts (cs : List Char) : List String := (cs.splitOn ':').map String.ofList

def splitSign : List Char → Bool × List Char
  | [] => (false, [])
  | c :: cs => if Plain.isSign c then (c == '-', cs) else (false, c :: cs)

def magnitude (cs : List Char) : Except Fault Int :=
  match cs with
  | [] => .error emptyText
  | ['0'] => .ok 0
  | '0' :: 'b' :: ds => inBase 2 ds
  | '0' :: 'x' :: ds => inBase 16 ds
  | '0' :: ds => inBase 8 ('0' :: ds)
  | cs =>
    if cs.contains ':' then
      ((parts cs).mapM decimal).map fun ns => ns.foldl (fun total n => total * 60 + n) 0
    else decimal (String.ofList cs)

def withoutUnderscores (s : String) : List Char := s.toList.filter (· != '_')

def int (s : String) : Except Fault Int :=
  let cs := withoutUnderscores s
  let (negative, body) := splitSign cs
  (magnitude body).map fun n => if negative then -n else n

def fraction (s : String) : Except Fault Binary64 :=
  match Text.readFraction? s with
  | some x => .ok x
  | none => .error (notNumber s)

def weight (n : Int) : Except Fault Binary64 :=
  match Binary64.ofInt n with
  | .infinity _ => .error (.badScalar "OverflowError" "int too large to convert to float")
  | x => .ok x

def sumOfParts (xs : List Binary64) : Except Fault Binary64 := do
  let (total, _) ← xs.reverse.foldlM (fun (total, n) x => do
    return (total.add (x.mul (← weight n)), n * 60)) (Binary64.zero false, (1 : Int))
  return total

/-- The name of NaN; all that it stands for is one object. -/
def nanName : String := ".nan"

def floatMagnitude (cs : List Char) : Except Fault Binary64 :=
  let s := String.ofList cs
  if s == ".inf" then .ok (.infinity false)
  else if s == nanName then .ok .nan
  else if cs.contains ':' then do sumOfParts (← (parts cs).mapM fraction)
  else fraction s

def float (s : String) : Except Fault Binary64 :=
  let cs := (Text.toLower (String.ofList (withoutUnderscores s))).toList
  if cs.isEmpty then .error emptyText
  else
    let (negative, body) := splitSign cs
    (floatMagnitude body).map fun x => if negative then x.neg else x

def isNamedNan (s : String) : Bool :=
  let cs := (Text.toLower (String.ofList (withoutUnderscores s))).toList
  String.ofList (splitSign cs).2 == nanName

def bool (s : String) : Except Fault Bool :=
  let word := Text.toLower s
  if ["yes", "true", "on"].contains word then .ok true
  else if ["no", "false", "off"].contains word then .ok false
  else .error (.badScalar "KeyError" (Text.quote word))

def binary (s : String) : Except Fault (List UInt8) :=
  let cs := s.toList
  if cs.all (·.toNat < 128) then
    match Base64.bytes (cs.filter fun c => c != '-' && c != '_') with
    | .ok bs => .ok bs
    | .error _ => .error .notYaml
  else .error .notYaml

def ofCalendar {α : Type} (r : Except CalendarError α) : Except Fault α :=
  match r with
  | .ok a => .ok a
  | .error e => .error (.badScalar "ValueError" e.message)

def ofStamp (s : Stamp) : Except Fault Value := do
  let date : Except Fault Date :=
    ofCalendar
      (Date.ofNumbers (Stamp.number s.year) (Stamp.number s.month) (Stamp.number s.day))
  match s.clock with
  | none => return .date (← date)
  | some c =>
    let offset ←
      match c.offset with
      | none => pure none
      | some n => (ofCalendar (Moment.checkOffset n)).map some
    let moment ← ofCalendar (Moment.ofNumbers (← date) (Stamp.number c.hour)
      (Stamp.number c.minute) (Stamp.number c.second) (Stamp.microseconds c.fraction) offset)
    return .moment moment

def timestamp (s : String) : Except Fault Value :=
  match Stamp.parse? (dropFinalBreak s.toList) with
  | some stamp => ofStamp stamp
  | none => .error (.noMember "NoneType" "groupdict")

def value? (tag : Tag) (s : String) : Option (Except Fault Value) :=
  match tag with
  | .null => some (.ok .null)
  | .bool => some ((bool s).map .bool)
  | .int => some ((int s).map .int)
  | .float => some ((float s).map .float)
  | .str => some (.ok (.str s))
  | .binary => some ((binary s).map .bytes)
  | .timestamp => some (timestamp s)
  | _ => none

end Scalar

end EventTracking.Yaml
