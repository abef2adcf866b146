import EventTracking.Payload.Build

/-!
This module contains the kinds of event that a tracker knows and the builders they become. Page views,
page pings and structured events are plain pairs. The other kinds are self-describing: a document that
names a schema and holds the attributes that are present.
-/

namespace EventTracking

def eventSchema : String := "iglu:com.snowplowanalytics.snowplow/unstruct_event/jsonschema/1-0-0"

structure Attribute where
  field : String
  name : String
  required : Bool
  /-- Whether the attribute is written even if it is null. -/
  keepNull : Bool
  emptyIsNull : Bool
  deriving DecidableEq, Repr

namespace Attribute

def needed (field name : String) : Attribute := ⟨field, name, true, false, false⟩

def optional (field name : String) : Attribute := ⟨field, name, false, false, false⟩

def value (a : Attribute) (v : Value) : Value :=
  if a.emptyIsNull && !v.truthy then .null else v

end Attribute

structure TypedKind where
  schema : String
  attributes : List Attribute
  deriving DecidableEq, Repr

namespace TypedKind

def custom : TypedKind where
  schema := "iglu:com.snowplowanalytics.snowplow/custom_event/jsonschema/1-0-0"
  attributes := [.needed "name" "name", .optional "data" "data"]

def linkClick : TypedKind where
  schema := "iglu:com.snowplowanalytics.snowplow/link_click/jsonschema/1-0-1"
  attributes :=
    [.needed "target_url" "targetUrl", .optional "element_id" "elementId",
      ⟨"element_classes", "elementClasses", false, false, true⟩,
      .optional "element_target" "elementTarget", .optional "element_content" "elementContent"]

def buttonClick : TypedKind where
  schema := "iglu:com.snowplowanalytics.snowplow/button_click/jsonschema/1-0-0"
  attributes :=
    [.needed "element_type" "elementType", .optional "element_id" "elementId",
      .optional "element_classes" "elementClasses", .optional "element_name" "elementName",
      .optional "element_text" "elementText", .optional "element_value" "elementValue"]

def background : TypedKind where
  schema := "iglu:com.snowplowanalytics.snowplow/application_background/jsonschema/1-0-0"
  attributes := [⟨"background_index", "backgroundIndex", true, true, false⟩]

def foreground : TypedKind where
  schema := "iglu:com.snowplowanalytics.snowplow/application_foreground/jsonschema/1-0-0"
  attributes := [⟨"foreground_index", "foregroundIndex", true, true, false⟩]

def networkRequest : TypedKind where
  schema := "iglu:com.conviva/network_request/jsonschema/1-0-0"
  attributes :=
    [.needed "target_url" "targetUrl", .optional "method" "method",
      .optional "content_type" "contentType", .optional "query_parameters" "queryParameters",
      .optional "response_status_code" "responseStatusCode",
      .optional "response_status_text" "responseStatusText", .optional "request_body" "rqb",
      .optional "response_body" "rsb", .optional "request_headers" "rqh",
      .optional "response_headers" "rsh", .optional "request_timestamp" "requestTimestamp",
      .optional "response_timestamp" "responseTimestamp",
      .optional "web_resource_timing" "webResourceTiming", .optional "duration" "duration",
      .optional "request_size" "requestSize", .optional "response_size" "responseSize"]

end TypedKind

def diagnosticSchema : String := "iglu:com.conviva/diagnostic_info/jsonschema/1-0-0"

inductive PairForm where
  | asIs
  /-- The nearest integer, a half to the even one, as text. -/
  | rounded
  | asText
  deriving DecidableEq, Repr

structure PlainKind where
  type : String
  pairs : List (Attribute × PairForm)
  deriving DecidableEq, Repr

namespace PlainKind

def pageView : PlainKind where
  type := "pv"
  pairs :=
    [(.optional "page_url" "url", .asIs), (.optional "page_title" "page", .asIs),
      (.optional "referrer" "refr", .asIs)]

def pagePing : PlainKind where
  type := "pp"
  pairs :=
    pageView.pairs ++
      [(.optional "min_x_offset" "pp_mix", .rounded), (.optional "max_x_offset" "pp_max", .rounded),
        (.optional "min_y_offset" "pp_miy", .rounded), (.optional "max_y_offset" "pp_may", .rounded)]

def structured : PlainKind where
  type := "se"
  pairs :=
    [(.needed "category" "se_ca", .asIs), (.needed "action" "se_ac", .asIs),
      (.optional "label" "se_la", .asIs), (.optional "property" "se_pr", .asIs),
      (.optional "value" "se_va", .asText)]

end PlainKind

/-- An event of a known kind with the values of its fields, null for those not given. -/
inductive Event where
  | plain (kind : PlainKind) (fields : Pairs)
  | typed (kind : TypedKind) (fields : Pairs)
  | selfDescribing (event : Value)
  | diagnostic (data : Value)

namespace Value

def rounded : Value → Except Fault Int
  | .bool b => .ok (if b then 1 else 0)
  | .int n => .ok n
  | .float .nan | .nan _ => .error .integerOfNan
  | .float (.infinity _) => .error .integerOfInfinity
  | .float x => .ok (x.round?.getD 0)
  | v => .error (.notRoundable v.kind)

end Value

namespace Event

variable {σ : Type}

def fieldValue (fields : Pairs) (name : String) : Value := (fields.get? name).getD .null

def checkFields (attributes : List Attribute) (fields : Pairs) : Except Fault Unit :=
  let known := attributes.map (·.field)
  match (fields.keys).find? fun k => !known.contains k with
  | some k => .error (.unexpectedArgument k)
  | none =>
    let given := fields.keys
    let absent := (attributes.filter fun a => a.required && !given.contains a.field).map (·.field)
    if absent.isEmpty then .ok () else .error (.missingArgument absent)

def removeEmpty (exempt : Value → Bool) (entries : List (Value × Value)) : List (Value × Value) :=
  entries.filter fun (k, v) => exempt k || !v.isNull

/-- The entries of an event with a value, and those whose keys another object exempts. -/
def withoutEmpty (event exempted : Value) : Except Fault (List (Value × Value)) :=
  match event with
  | .object es =>
    match exempted with
    | .object fs =>
      let isExempt (k : Value) : Bool := (fs.find? fun f => f.1.sameItem k).any (·.2.truthy)
      .ok (removeEmpty isExempt es)
    | v =>
      if v.truthy && !es.isEmpty then .error (v.lacking "get")
      else .ok (removeEmpty (fun _ => false) es)
  | v => .error (v.lacking "items")

def attributes (kind : TypedKind) (fields : Pairs) : Pairs :=
  (kind.attributes.map fun a => (a, a.value (fieldValue fields a.field))).filterMap fun (a, v) =>
    if a.keepNull || !v.isNull then some (a.name, v) else none

def document (event : Value) : Value :=
  .ofPairs [("sc", .str eventSchema), ("dt", event)]

def describe (schema : String) (data : Value) : Value :=
  .ofPairs [("sc", .str schema), ("dt", data)]

def selfDescribingBuilder (event : Value) : Builder :=
  { Builder.empty with
    pairs := [("e", .str "ue")]
    deferred := [⟨"ue_px", "ue_pr", [(.str "sc", .str eventSchema), (.str "dt", event)]⟩] }

def formed (form : PairForm) (v : Value) : Except Fault Value :=
  if v.isNull then .ok .null
  else
    match form with
    | .asIs => .ok v
    | .rounded => v.rounded.map fun n => .str (toString n)
    | .asText => .ok (.str v.text)

def plainPairs (fields : Pairs) : List (Attribute × PairForm) → Except Fault Pairs
  | [] => .ok []
  | (a, form) :: rest => do
    let v ← formed form (fieldValue fields a.field)
    return (a.name, v) :: (← plainPairs fields rest)

def builder : Event → Except Fault Builder
  | .plain kind fields => do
    checkFields (kind.pairs.map (·.1)) fields
    let pairs ← plainPairs fields kind.pairs
    return { Builder.empty with pairs := Pairs.setAllNonNull pairs [("e", .str kind.type)] }
  | .typed kind fields => do
    checkFields kind.attributes fields
    return selfDescribingBuilder (describe kind.schema (.ofPairs (attributes kind fields)))
  | .selfDescribing event => .ok (selfDescribingBuilder event)
  | .diagnostic data => do
    match ← Container.construct .object [data] with
    | .object es =>
      let kept := removeEmpty (fun _ => false) es
      return selfDescribingBuilder (describe diagnosticSchema (.object kept))
    | v => return selfDescribingBuilder (describe diagnosticSchema v)

def ofKind (kind : String) (fields : Value) : Except Fault Event :=
  match kind, fields with
  | "diagnostic", data => .ok (.diagnostic data)
  | kind, .object es =>
    let fields := Pairs.ofEntries es
    match kind with
    | "page_view" => .ok (.plain .pageView fields)
    | "page_ping" => .ok (.plain .pagePing fields)
    | "struct" => .ok (.plain .structured fields)
    | "custom" => .ok (.typed .custom fields)
    | "link_click" => .ok (.typed .linkClick fields)
    | "button_click" => .ok (.typed .buttonClick fields)
    | "background" => .ok (.typed .background fields)
    | "foreground" => .ok (.typed .foreground fields)
    | "network_request" => .ok (.typed .networkRequest fields)
    | "self_describing" => do
      checkFields [.needed "event" "event"] fields
      return .selfDescribing (fieldValue fields "event")
    | _ => .error (.unexpectedArgument kind)
  | _, fields => .error (.notIterable fields.kind)

end Event

end EventTracking
