import EventTracking.Json.Nesting
import EventTracking.Payload.Builder

/-!
This module contains the standard processing of a payload: each waiting JSON object becomes a text under
one of its two keys, and all context entities are merged into one document, after those of a document
that is on the payload already.
-/

namespace EventTracking.Processing

def contextsSchema : String := "iglu:com.snowplowanalytics.snowplow/contexts/jsonschema/1-0-0"

def encodedContextsKey : String := "cx"

def plainContextsKey : String := "co"

def contextsKey (encode : Bool) : String :=
  if encode then encodedContextsKey else plainContextsKey

def isContexts (d : Deferred) : Bool := d.keyIfEncoded == encodedContextsKey

def chosenKey (encode : Bool) (d : Deferred) : String :=
  if encode then d.keyIfEncoded else d.keyIfPlain

def payloadText (encode : Bool) (v : Value) : Except Fault String :=
  match Json.ofData v with
  | .error o => .error (.notData o)
  | .ok j =>
    let text := j.render .compact
    .ok (if encode then Base64.encode text else text)

structure Progress where
  pairs : Pairs
  contexts : Option (List (Value × Value))
  unreadable : Nat

inductive Carried where
  | nothing
  | unreadable
  | document (entries : List (Value × Value))

/-- Reads the contexts document that a payload carries; what is no text or no object counts for nothing. -/
def carried (encode : Bool) (pairs : Pairs) : Carried :=
  match pairs.get? (contextsKey encode) with
  | some (.str s) =>
    let text? := if encode then (Base64.decode s).toOption else some s
    match text?.bind Json.parse? with
    | none => .unreadable
    | some j =>
      match j.toValue with
      | .object es => .document es
      | _ => .nothing
  | _ => .nothing

def overflow? (encode : Bool) (pairs : Pairs) : Option Json.Bracket :=
  match pairs.get? (contextsKey encode) with
  | some (.str s) => (if encode then (Base64.decode s).toOption else some s).bind Json.overflow?
  | _ => none

def entityList (v : Option Value) : List Value := (v.bind Value.items?).getD []

def documentEntities (entries : List (Value × Value)) : List Value :=
  entityList ((Value.object entries).field? "dt")

def extend (document more : List (Value × Value)) : List (Value × Value) :=
  Value.setEntry "dt" (.list (documentEntities document ++ documentEntities more)) document

def normalize (entries : List (Value × Value)) : List (Value × Value) :=
  let schema := ((Value.object entries).field? "sc").getD (.str contextsSchema)
  [(.str "sc", schema), (.str "dt", .list (documentEntities entries))]

/--
Merges a document into the one so far. The first one is merged into what the payload carries.
-/
def combine (encode : Bool) (p : Progress) (more : List (Value × Value)) : Progress :=
  match p.contexts with
  | some document => { p with contexts := some (extend document more) }
  | none =>
    match carried encode p.pairs with
    | .document document => { p with contexts := some (extend document more) }
    | .nothing => { p with contexts := some (normalize more) }
    | .unreadable =>
      { p with contexts := some (normalize more), unreadable := p.unreadable + 1 }

/-- Merges a document unless what the payload carries has to be read for that and goes too deep. -/
def merge (encode : Bool) (more : List (Value × Value)) : Act Progress Unit := do
  let p ← get
  match p.contexts, overflow? encode p.pairs with
  | none, some bracket => throw (.nestedTooDeep bracket)
  | _, _ => set (combine encode p more)

def write (encode : Bool) (key : String) (v : Value) : Act Progress Unit := do
  let text ← Act.ofExcept (payloadText encode v)
  modify fun p => { p with pairs := p.pairs.set key (.str text) }

def step (encode : Bool) (d : Deferred) : Act Progress Unit :=
  if isContexts d then
    merge encode d.entries
  else
    write encode (chosenKey encode d) d.json

def steps (encode : Bool) : List Deferred → Act Progress Unit
  | [] => pure ()
  | d :: ds => do
    step encode d
    steps encode ds

def wrap (entities : List Value) : List (Value × Value) :=
  [(.str "sc", .str contextsSchema), (.str "dt", .list entities)]

def process (encode : Bool) (deferred : List Deferred) (entities : List Value) :
    Act Progress Unit := do
  steps encode deferred
  unless entities.isEmpty do
    merge encode (wrap entities)
  match (← get).contexts with
  | some document => write encode (contextsKey encode) (.object document)
  | none => pure ()

end EventTracking.Processing
