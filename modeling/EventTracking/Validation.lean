import EventTracking.Value.Text

/-!
This module contains the checking of values against the shapes that entities, rule sets, manifests and
settings must have. A check reports every violation it finds, in the order of the declared fields and
then of the undeclared keys.
-/

namespace EventTracking

inductive Step where
  | key (name : String)
  | index (n : Int)
  deriving DecidableEq, Repr

inductive Cause where
  | missing
  | undeclared
  | keyNotText
  | notText
  | bytesNotText
  | emptyText
  | notObject
  | emptyObject
  | notList
  | notModel (name : String)
  | notBool
  | unreadableBool
  | notAmong (choices : List String)
  | refused (reason : String)
  deriving DecidableEq, Repr

namespace Cause

def code : Cause → String
  | .missing => "missing"
  | .undeclared => "extra_forbidden"
  | .keyNotText => "invalid_key"
  | .notText => "string_type"
  | .bytesNotText => "string_unicode"
  | .emptyText => "string_too_short"
  | .notObject => "dict_type"
  | .emptyObject => "too_short"
  | .notList => "list_type"
  | .notModel _ => "model_type"
  | .notBool => "bool_type"
  | .unreadableBool => "bool_parsing"
  | .notAmong _ => "literal_error"
  | .refused _ => "value_error"

def enumerate : List String → String
  | [] => ""
  | [a] => "'" ++ a ++ "'"
  | [a, b] => "'" ++ a ++ "' or '" ++ b ++ "'"
  | a :: rest => "'" ++ a ++ "', " ++ enumerate rest

def message : Cause → String
  | .missing => "Field required"
  | .undeclared => "Extra inputs are not permitted"
  | .keyNotText => "Keys should be strings"
  | .notText => "Input should be a valid string"
  | .bytesNotText =>
    "Input should be a valid string, unable to parse raw data as a unicode string"
  | .emptyText => "String should have at least 1 character"
  | .notObject => "Input should be a valid dictionary"
  | .emptyObject => "Dictionary should have at least 1 item after validation, not 0"
  | .notList => "Input should be a valid list"
  | .notModel name => "Input should be a valid dictionary or instance of " ++ name
  | .notBool => "Input should be a valid boolean"
  | .unreadableBool => "Input should be a valid boolean, unable to interpret input"
  | .notAmong choices => "Input should be " ++ enumerate choices
  | .refused reason => "Value error, " ++ reason

end Cause

structure Violation where
  path : List Step
  cause : Cause
  deriving DecidableEq, Repr

/-- The checked form of a value, or all that is wrong with it. -/
abbrev Checked (α : Type) := Except (List Violation) α

namespace Checked

variable {α β : Type}

def fail (cause : Cause) : Checked α := .error [⟨[], cause⟩]

def violations : Checked α → List Violation
  | .ok _ => []
  | .error vs => vs

def under (step : Step) : Checked α → Checked α
  | .ok a => .ok a
  | .error vs => .error (vs.map fun v => ⟨step :: v.path, v.cause⟩)

def both (a : Checked α) (b : Checked β) : Checked (α × β) :=
  match a, b with
  | .ok x, .ok y => .ok (x, y)
  | a, b => .error (a.violations ++ b.violations)

def all : List (Checked α) → Checked (List α)
  | [] => .ok []
  | c :: cs => (both c (all cs)).map fun (x, xs) => x :: xs

def each (check : Value → Checked α) (xs : List Value) : Checked (List α) :=
  all (xs.zipIdx.map fun (x, i) => under (.index i) (check x))

end Checked

namespace Check

variable {α : Type}

/-- A text; binary data counts as the text it encodes. -/
def text : Value → Checked String
  | .str s => .ok s
  | .bytes d =>
    match String.fromUTF8? ⟨d.toArray⟩ with
    | some s => .ok s
    | none => .fail .bytesNotText
  | _ => .fail .notText

/-- The items of a value that may stand for a list: of all that can be looped over but texts and objects. -/
def listItems? (v : Value) : Option (List Value) :=
  match v with
  | .str _ | .bytes _ | .object _ => none
  | v => v.elements?

def list (check : Value → Checked α) (v : Value) : Checked (List α) :=
  match listItems? v with
  | some xs => .each check xs
  | none => .fail .notList

def optional (check : Value → Checked α) (v : Value) : Checked (Option α) :=
  if v.isNull then .ok none else (check v).map some

def field (name : String) (absent : Checked α) (check : Value → Checked α) (v : Value) :
    Checked α :=
  .under (.key name) <|
    match v.field? name with
    | none => absent
    | some x => check x

def isWord (n : Int) : Bool := -9223372036854775808 ≤ n && n ≤ 9223372036854775807

/-- The step to a key: a text or an integer that fits a word as it is, any other key by its label. -/
def keyStep (key : Value) : Step :=
  match key with
  | .str s => .key s
  | .bool b => .index (if b then 1 else 0)
  | .int n => if isWord n then .index n else .key key.label
  | _ => .key key.label

def undeclaredKey (key : Value) : Violation :=
  ⟨[keyStep key], if key.text?.isSome then .undeclared else .keyNotText⟩

def declared (names : List String) (entries : List (Value × Value)) : Checked Unit :=
  let unknown := (entries.map (·.1)).filter fun k => !names.any fun n => k.isKey n
  if unknown.isEmpty then .ok () else .error (unknown.map undeclaredKey)

end Check

end EventTracking
