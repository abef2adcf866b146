import EventTracking.Pairs
import EventTracking.Validation
import EventTracking.Value.Text

/-!
This module contains context entities in checked form: a schema and data, neither of them empty.
-/

namespace EventTracking

structure Entity where
  schema : String
  data : Pairs
  schema_ne : schema ≠ ""
  data_ne : data ≠ []

namespace Entity

def checkSchema (v : Value) : Checked { s : String // s ≠ "" } := do
  let s ← Check.text v
  if h : s ≠ "" then return ⟨s, h⟩ else .fail .emptyText

def checkKey (key : Value) : Checked String :=
  .under (Check.keyStep key) (.under (.key "[key]") (Check.text key))

/-- Entries with text keys; of two with one key the later gives the value. -/
def checkEntries (entries : List (Value × Value)) : Checked Pairs :=
  (Checked.all (entries.map fun (k, v) => (checkKey k).map (·, v))).map fun ps =>
    Pairs.setAll ps []

def checkData (v : Value) : Checked { ps : Pairs // ps ≠ [] } := do
  match v with
  | .object es =>
    let ps ← checkEntries es
    if h : ps ≠ [] then return ⟨ps, h⟩ else .fail .emptyObject
  | _ => .fail .notObject

def check : Value → Checked Entity
  | .object es =>
    let v := Value.object es
    let fields := Checked.both (Check.field "sc" (.fail .missing) checkSchema v)
      (Check.field "dt" (.fail .missing) checkData v)
    (Checked.both fields (Check.declared ["sc", "dt"] es)).map
      fun ((s, d), _) => ⟨s.1, d.1, s.2, d.2⟩
  | _ => .fail (.notModel "SelfDescribingEntity")

def toValue (e : Entity) : Value :=
  .ofPairs [("sc", .str e.schema), ("dt", .ofPairs e.data)]

end Entity

end EventTracking
