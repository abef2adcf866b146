import EventTracking.Proofs.Payload.Deferred
import EventTracking.Proofs.Tracker.Course

/-!
This module contains the theorem on the schema that an event is resolved for: of several self-describing events
that wait in a builder it is that of the first one, whereas the payload has the last one.
-/

namespace EventTracking

open Processing
open ContextEvent (eventKey innerSchema? schemaOf)

/-! ### Waiting events -/

def plainEventKey : String := "ue_pr"

def eventKeyOf (encode : Bool) : String := if encode then eventKey else plainEventKey

def Deferred.isEvent (d : Deferred) : Bool := d.keyIfEncoded == eventKey && d.keyIfPlain == plainEventKey

def waitingEvents (ds : List Deferred) : List Deferred := ds.filter Deferred.isEvent

def EventsApart (ds : List Deferred) : Prop :=
  ∀ d ∈ ds, d.isEvent = false →
    d.keyIfEncoded ≠ eventKey ∧ d.keyIfEncoded ≠ plainEventKey
      ∧ d.keyIfPlain ≠ eventKey ∧ d.keyIfPlain ≠ plainEventKey

def HoldsEvent (encode : Bool) (payload : Pairs) (document : Value) : Prop :=
  ∃ text, payload.get? (eventKeyOf encode) = some (.str text) ∧ payloadText encode document = .ok text

def HasSchemaKeysOnce (document : Value) : Prop :=
  document.HasKeysOnce ∧ ∀ inner, document.field? "dt" = some inner → inner.HasKeysOnce

def sentSchema (encode : Bool) (payload : Pairs) : String :=
  match payload.get? (eventKeyOf encode) with
  | some (.str text) => ((textValue? encode text).bind innerSchema?).getD ""
  | _ => ""

section

variable {encode : Bool} {d : Deferred} {ds : List Deferred} {b : Builder}

theorem isEvent_eq_true_iff : d.isEvent = true ↔ d.keyIfEncoded = eventKey ∧ d.keyIfPlain = plainEventKey := by
  rw [Deferred.isEvent, Bool.and_eq_true, beq_iff_eq, beq_iff_eq]

theorem schemaOf_eq (h : EventsApart ds) :
    schemaOf ds = ((waitingEvents ds).findSome? fun d => innerSchema? d.json).getD "" := by
  have hfilter : ds.filter (·.keyIfEncoded == eventKey) = waitingEvents ds := by
    apply List.filter_congr
    intro d hd
    cases hevent : d.isEvent with
    | true => rw [(isEvent_eq_true_iff.1 hevent).1, beq_self_eq_true]
    | false => exact beq_false_of_ne (h d hd hevent).1
  rw [schemaOf, hfilter]

theorem schemaOf_of_same (h : EventsApart ds) (hd : d ∈ waitingEvents ds)
    (hsame : ∀ e ∈ waitingEvents ds, innerSchema? e.json = innerSchema? d.json) :
    schemaOf ds = (innerSchema? d.json).getD "" := by
  rw [schemaOf_eq h]
  cases hschema : innerSchema? d.json with
  | none =>
    rw [List.findSome?_eq_none_iff.2 fun e he => (hsame e he).trans hschema]
  | some schema =>
    cases hfirst : (waitingEvents ds).findSome? fun d => innerSchema? d.json with
    | none => rw [List.findSome?_eq_none_iff.1 hfirst d hd] at hschema; cases hschema
    | some first =>
      obtain ⟨e, he, hfirst⟩ := List.exists_of_findSome?_eq_some hfirst
      rw [hsame e he, hschema] at hfirst
      exact hfirst.symm ▸ rfl

theorem lastChosen_eventKeyOf (h : EventsApart ds) (encode : Bool) :
    lastChosen encode (eventKeyOf encode) ds = (waitingEvents ds).getLast? := by
  rw [lastChosen, waitingEvents]
  congr 1
  apply List.filter_congr
  intro d hd
  cases hevent : d.isEvent with
  | true =>
    obtain ⟨hencoded, hplain⟩ := isEvent_eq_true_iff.1 hevent
    cases encode <;> simp [isContexts, chosenKey, eventKeyOf, hencoded, hplain, encodedContextsKey, eventKey]
  | false =>
    obtain ⟨hencoded, _, _, hplain⟩ := h d hd hevent
    cases encode <;> simp [chosenKey, eventKeyOf, hencoded, hplain]

theorem eventKeyOf_ne_contextsKey (encode : Bool) : eventKeyOf encode ≠ contextsKey encode := by
  cases encode <;> decide

theorem get?_eventKeyOf {last : Deferred} (h : EventsApart b.deferred)
    (hlast : (waitingEvents b.deferred).getLast? = some last) (encode : Bool) :
    (b.standardPayload encode).get? (eventKeyOf encode) = some (.str (textOf encode last.json)) := by
  rw [Builder.get?_standardPayload encode (eventKeyOf_ne_contextsKey encode),
    lastChosen_eventKeyOf h, hlast]
  rfl

theorem isOwnName_schemaKeys : Json.IsOwnName "dt" ∧ Json.IsOwnName "sc" :=
  ⟨⟨'d', ['t'], rfl, rfl, by decide⟩, ⟨'s', ['c'], rfl, rfl, by decide⟩⟩

theorem bind_innerSchema?_reread? {document : Value} (h : document.IsSerializable)
    (hkeys : HasSchemaKeysOnce document) : document.reread?.bind innerSchema? = innerSchema? document := by
  obtain ⟨hdt, hsc⟩ := isOwnName_schemaKeys
  unfold innerSchema?
  rw [← Option.bind_assoc, Value.bind_field?_reread? hdt h hkeys.1]
  cases hfield : document.field? "dt" with
  | none => rfl
  | some inner =>
    have hinner := Value.hereditary_isSerializable.of_field? h hfield
    rw [Option.bind_some, Option.bind_some, ← Option.bind_assoc,
      Value.bind_field?_reread? hsc hinner (hkeys.2 inner hfield)]
    cases hschema : inner.field? "sc" with
    | none => rfl
    | some schema => exact Value.bind_text?_reread? (Value.hereditary_isSerializable.of_field? hinner hschema)

theorem sentSchema_eq {payload : Pairs} {document : Value}
    (hget : payload.get? (eventKeyOf encode) = some (.str (textOf encode document)))
    (h : document.IsSerializable) (hkeys : HasSchemaKeysOnce document) :
    sentSchema encode payload = (innerSchema? document).getD "" := by
  rw [sentSchema, hget]
  dsimp only
  rw [textValue?_of_isSerializable h, bind_innerSchema?_reread? h hkeys]

end

/-! ### Tracking -/

namespace Tracker

variable {σ : Type} {users : Users σ} {t : Tracker} {b : Builder} {s : Session σ}

/-- Whether nothing but the registry and context hooks acts on an event before it is built. -/
structure Quiet (users : Users σ) (t : Tracker) : Prop extends HarmlessSources users t where
  beforeTrack : ∀ p ∈ t.plugins, p.beforeTrack = none
  callback : t.callback = .null
  afterTrack : ∀ p ∈ t.plugins, ∀ f, p.afterTrack = some f → ∀ st, Calm (users.callOnPayload f st).1

theorem Quiet.orderly (h : t.Quiet users) : t.Orderly users where
  toHarmlessSources := h.toHarmlessSources
  calm_beforeTrack := fun p hp f hf => by
    rw [h.beforeTrack p hp] at hf
    cases hf
  beforeTrack := fun p hp f hf => by
    rw [h.beforeTrack p hp] at hf
    cases hf
  callback := fun f hf => by
    rw [h.callback] at hf
    cases hf
  afterTrack := h.afterTrack

/--
An event is resolved for the schema of the first self-describing event that waits, in its rule sets as in
what its callables are given. The payload has the last one, whose schema is read back from it; the two are the
same if all those that wait have one schema. The text that is read for the contexts is not nested too deeply.
-/
theorem track_event_schema (h : t.Quiet users) {contexts : Value} {given : List Value}
    (hgiven : AreGiven contexts given) (hgivenDocuments : ∀ v ∈ given, v.IsSerializable)
    (hopen : b.built = none) (hdocuments : HasDocuments b) (hevents : EventsApart b.deferred)
    (hsome : waitingEvents b.deferred ≠ []) {timestamp : Timestamp} {time : String}
    (htime : (timestamp.milliseconds s.now).bind Value.integerText = .ok time)
    (hread : overflow? t.base64.truthy (pairsAtMerge t.base64.truthy b.deferred
      (t.prepared (s.identifier s.issued) time timestamp b).pairs) = none) :
    let p := t.prepared (s.identifier s.issued) time timestamp b
    let schema := (ContextEvent.ofBuilder p).schema
    ∃ registered last payload returned b' s',
      t.track users contexts timestamp (b, s) = (.ok returned, b', s')
      ∧ b'.built = some payload
      ∧ t.registry.CallsFor schema registered
      ∧ Course users (.ofBuilder p) t.base64.truthy (t.callsBefore registered [] ++ t.callsAfter)
          ⟨p, none, { s with issued := s.issued + 1 }⟩ ⟨b', some returned, s'⟩
      ∧ schema = ((waitingEvents b.deferred).findSome? fun d => innerSchema? d.json).getD ""
      ∧ (waitingEvents b.deferred).getLast? = some last
      ∧ HoldsEvent t.base64.truthy payload last.json
      ∧ (HasSchemaKeysOnce last.json →
          sentSchema t.base64.truthy payload = (innerSchema? last.json).getD ""
          ∧ ((∀ d ∈ waitingEvents b.deferred, innerSchema? d.json = innerSchema? last.json) →
              schema = sentSchema t.base64.truthy payload)) := by
  intro p schema
  obtain ⟨registered, answer, called, b₁, s₁, hregistered, hanswers, _, hbuilder, _, _, hanswered, _⟩ :=
    stages_of_orderly h.orderly hgiven hgivenDocuments hopen hdocuments htime
  rw [h.callback] at hanswers
  cases hanswers with
  | notCallable present => cases present
  | absent =>
    obtain ⟨vs, rfl⟩ := hbuilder h.beforeTrack h.callback
    obtain ⟨returned, s', htrack, hcourse⟩ := hanswered rfl fun _ => hread
    have hlast := List.getLast?_eq_some_getLast hsome
    generalize (waitingEvents b.deferred).getLast hsome = last at hlast
    have hmem : last ∈ waitingEvents b.deferred := List.mem_of_getLast? hlast
    have hserializable := hdocuments.deferred last (List.mem_filter.1 hmem).1
    have hget := get?_eventKeyOf (b := p.attached vs) hevents hlast t.base64.truthy
    refine ⟨registered, last, _, returned, _, s', htrack, rfl, hregistered, hcourse, schemaOf_eq hevents, hlast,
      ⟨_, hget, payloadText_eq_ok hserializable⟩, fun hkeys => ?_⟩
    have hsent := sentSchema_eq hget hserializable hkeys
    exact ⟨hsent, fun hsame => (schemaOf_of_same hevents hmem hsame).trans hsent.symm⟩

/-! ### Two events that wait -/

def firstSchema : String := "iglu:com.acme/first/jsonschema/1-0-0"

def secondSchema : String := "iglu:com.acme/second/jsonschema/1-0-0"

def eventOf (schema : String) : Deferred :=
  ⟨eventKey, plainEventKey, [(.str "sc", .str "event"), (.str "dt", .object [(.str "sc", .str schema)])]⟩

def waiting (schemas : List String) : Builder := { Builder.empty with deferred := schemas.map eventOf }

theorem isRule_firstSchema : [firstSchema].all Schema.isRule = true := by decide +kernel

def firstOnly : Schema.RuleSet := .ofRules ⟨[firstSchema], isRule_firstSchema⟩ .empty

def followed : Tracker where
  settings := none
  base64 := .bool false
  pairs := []
  plugins := []
  registry := ⟨[], [.ruled firstOnly [.fixed (entityNamed "first")]]⟩
  callback := .null

theorem quiet_followed : followed.Quiet namesakes where
  primitives := by
    rintro p ⟨⟩
  providers := by
    have hfixed : (Primitive.fixed (entityNamed "first")).Harmless namesakes.behave := by
      refine ⟨nofun, fun e s vs s' h => ?_⟩
      cases h
      exact fun _ => isSerializable_of_mem_named
    have hruled : ∀ r, (Provider.ruled r [.fixed (entityNamed "first")]).Harmless namesakes.behave :=
      fun r => ⟨nofun, List.forall_mem_singleton.2 hfixed⟩
    exact List.forall_mem_singleton.2 (hruled _)
  contexts := by
    rintro p ⟨⟩
  serializable := by
    rintro p ⟨⟩
  beforeTrack := by
    rintro p ⟨⟩
  callback := rfl
  afterTrack := by
    rintro p ⟨⟩

theorem hasDocuments_waiting (schemas : List String) : HasDocuments (waiting schemas) where
  deferred := by
    rw [waiting, List.forall_mem_map]
    exact fun schema _ => ⟨.obj [("sc", .str "event"), ("dt", .obj [("sc", .str schema)])], rfl⟩
  entities := nofun

theorem eventsApart_waiting (schemas : List String) : EventsApart (waiting schemas).deferred := by
  rw [EventsApart, waiting, List.forall_mem_map]
  rintro schema _ ⟨⟩

theorem overflow?_waiting (schemas : List String) :
    overflow? false (pairsAtMerge false (waiting schemas).deferred
      (followed.prepared "0" "0" .now (waiting schemas)).pairs) = none := by
  have hleaves : LeavesContexts (waiting schemas).deferred := by
    rw [LeavesContexts, waiting, List.forall_mem_map]
    exact fun schema _ _ => (by decide : plainEventKey ≠ plainContextsKey)
  rw [overflow?_congr (get?_pairsAtMerge hleaves _)]
  exact overflow?_of_not_text fun text htext => by cases htext

theorem hasSchemaKeysOnce_eventOf (schema : String) : HasSchemaKeysOnce (eventOf schema).json := by
  have houter : ["sc", "dt"].Nodup := by decide
  have hinner : ["sc"].Nodup := by decide
  refine ⟨houter, ?_⟩
  rintro inner ⟨⟩
  exact hinner

theorem track_event_schema_followed :
    (∃ payload returned b' s',
      followed.track namesakes .null .now (waiting [firstSchema, secondSchema], epoch) = (.ok returned, b', s')
      ∧ b'.built = some payload
      ∧ (ContextEvent.ofBuilder (waiting [firstSchema, secondSchema])).schema = firstSchema
      ∧ sentSchema false payload = secondSchema)
      ∧ ∃ payload returned b' s',
        followed.track namesakes .null .now (waiting [firstSchema, firstSchema], epoch) = (.ok returned, b', s')
        ∧ b'.built = some payload
        ∧ (ContextEvent.ofBuilder (waiting [firstSchema, firstSchema])).schema = sentSchema false payload := by
  have htrack := fun schemas (hne : waitingEvents (waiting schemas).deferred ≠ []) =>
    track_event_schema (s := epoch) quiet_followed (Or.inl ⟨rfl, rfl⟩) (by simp) rfl
      (hasDocuments_waiting schemas) (eventsApart_waiting schemas) hne time_epoch (overflow?_waiting schemas)
  constructor
  . obtain ⟨_, last, payload, returned, b', s', hrun, hbuilt, _, _, hschema, hlast, _, hsent⟩ :=
      htrack [firstSchema, secondSchema] (by decide)
    cases hlast
    exact ⟨payload, returned, b', s', hrun, hbuilt, hschema, (hsent (hasSchemaKeysOnce_eventOf _)).1⟩
  . obtain ⟨_, last, payload, returned, b', s', hrun, hbuilt, _, _, _, hlast, _, hsent⟩ :=
      htrack [firstSchema, firstSchema] (by decide)
    cases hlast
    have hall : ∀ d ∈ [eventOf firstSchema, eventOf firstSchema], innerSchema? d.json = some firstSchema := by
      rw [List.forall_mem_cons, List.forall_mem_singleton]
      exact ⟨rfl, rfl⟩
    exact ⟨payload, returned, b', s', hrun, hbuilt, (hsent (hasSchemaKeysOnce_eventOf _)).2 hall⟩

/-- An event is resolved for another schema than the one that is sent, so it gets an entity that is not for it. -/
theorem resolved_for_other_schema :
    let b := waiting [firstSchema, secondSchema]
    let run := followed.track namesakes .null .now (b, epoch)
    (followed.Quiet namesakes ∧ b.built = none ∧ HasDocuments b ∧ EventsApart b.deferred
        ∧ waitingEvents b.deferred = b.deferred)
      ∧ run.1.toOption.map (sentSchema false) = some secondSchema
      ∧ (ContextEvent.ofBuilder (followed.prepared "0" "0" .now b)).schema = firstSchema
      ∧ firstOnly.admits secondSchema = false
      ∧ run.2.1.entities.length = 1 := by
  refine ⟨⟨quiet_followed, rfl, hasDocuments_waiting _, eventsApart_waiting _, rfl⟩, ?_, rfl, ?_, ?_⟩
  . decide +kernel
  . decide +kernel
  . decide +kernel

end Tracker

end EventTracking
