import EventTracking.Number.Decimal
import EventTracking.Number.Shortest
import EventTracking.Value.Text

/-!
This module contains JSON documents, which keep the order of an object's members and tell integers from
floating point numbers, and the two directions between documents and values.
-/

namespace EventTracking

inductive Json where
  | null
  | bool (b : Bool)
  | int (n : Int)
  | float (x : Binary64)
  | str (s : String)
  | arr (items : List Json)
  | obj (members : List (String × Json))

namespace Json

instance : Inhabited Json := ⟨.null⟩

inductive Obstacle where
  | notData (kind : String)
  | badKey (kind : String)
  | longInteger
  | circular
  deriving DecidableEq, Repr

namespace Obstacle

def ofForeign (v : Value) : Obstacle :=
  if v.kind == Value.cycleKind then .circular else .notData v.kind

def kind : Obstacle → String
  | .notData _ => "TypeError"
  | .badKey _ => "TypeError"
  | .longInteger => "ValueError"
  | .circular => "ValueError"

def message : Obstacle → String
  | .notData kind => "Object of type " ++ kind ++ " is not JSON serializable"
  | .badKey kind => "keys must be str, int, float, bool or None, not " ++ kind
  | .longInteger => Text.tooManyDigits ""
  | .circular => "Circular reference detected"

end Obstacle

def floatLayout : Binary64.Layout := ⟨-4, 16, 2, "NaN", "Infinity"⟩

def integerText (n : Int) : Except Obstacle String :=
  match Text.integerText? n with
  | some text => .ok text
  | none => .error .longInteger

def keyText : Value → Except Obstacle String
  | .str s => .ok s
  | .null => .ok "null"
  | .bool b => .ok (if b then "true" else "false")
  | .int n => integerText n
  | .float x => .ok (x.render floatLayout)
  | .nan _ => .ok (Binary64.nan.render floatLayout)
  | v => .error (.badKey v.kind)

mutual

/-- The document of a value. What is not data becomes the text that `other` gives, if it gives one. -/
def ofValue (other : Value → Option String) : Value → Except Obstacle Json
  | .null => .ok .null
  | .bool b => .ok (.bool b)
  | .int n => (integerText n).map fun _ => .int n
  | .float x => .ok (.float x)
  | .nan _ => .ok (.float .nan)
  | .str s => .ok (.str s)
  | .list xs => (ofItems other xs).map .arr
  | .tuple xs => (ofItems other xs).map .arr
  | .object es => (ofEntries other es).map .obj
  | v =>
    match other v with
    | some s => .ok (.str s)
    | none => .error (.ofForeign v)

def ofItems (other : Value → Option String) : List Value → Except Obstacle (List Json)
  | [] => .ok []
  | x :: xs => do return (← ofValue other x) :: (← ofItems other xs)

def ofEntries (other : Value → Option String) :
    List (Value × Value) → Except Obstacle (List (String × Json))
  | [] => .ok []
  | (k, v) :: rest => do
    let key ← keyText k
    return (key, ← ofValue other v) :: (← ofEntries other rest)

end

def ofData (v : Value) : Except Obstacle Json := ofValue (fun _ => none) v

mutual

/-- The value of a document; of two members with one name the later gives the value. -/
def toValue : Json → Value
  | .null => .null
  | .bool b => .bool b
  | .int n => .int n
  | .float x => .float x
  | .str s => .str s
  | .arr xs => .list (toValues xs)
  | .obj ms => .object ((toEntries ms).foldl (fun es m => Value.setEntry m.1 m.2 es) [])

def toValues : List Json → List Value
  | [] => []
  | x :: xs => toValue x :: toValues xs

def toEntries : List (String × Json) → List (String × Value)
  | [] => []
  | (k, v) :: rest => (k, toValue v) :: toEntries rest

end

end Json

end EventTracking
