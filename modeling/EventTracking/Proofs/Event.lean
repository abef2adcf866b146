import EventTracking.Event
import EventTracking.Proofs.Payload.Obstacles
import EventTracking.Proofs.Tracker.EventSchema
import EventTracking.Proofs.Value.Json
import Mathlib.Data.List.Nodup

/-!
This module contains the theorem on what the builder of a self-describing event delivers: the schema that the
event is resolved for and, in either encoding, a payload with nothing but the type and the document of the
event, in which exactly the fields with a value stand. Only an integer of too many digits makes the build fail.
-/

namespace EventTracking

open Processing

/-! ### Fields of a kind -/

namespace TypedKind

def all : List TypedKind := [custom, linkClick, buttonClick, background, foreground, networkRequest]

structure Takes (kind : TypedKind) (fields : Pairs) : Prop where
  known : ∀ key ∈ fields.keys, ∃ a ∈ kind.attributes, a.field = key
  required : ∀ a ∈ kind.attributes, a.required = true → a.field ∈ fields.keys

/--
Whether a value is written as an attribute: the index of a change to the background or foreground always is,
any other value unless it is null; but the classes of a link are not if they are empty.
-/
def Writes (kind : TypedKind) (name : String) (v : Value) : Prop :=
  kind = background ∨ kind = foreground
    ∨ v ≠ .null ∧ (kind = linkClick → name = "elementClasses" → v.truthy = true)

structure Holds (kind : TypedKind) (fields data : Pairs) : Prop where
  order : data.keys.Sublist (kind.attributes.map (·.name))
  get?_eq_some_iff : ∀ a ∈ kind.attributes, ∀ v,
    data.get? a.name = some v ↔ Event.fieldValue fields a.field = v ∧ kind.Writes a.name v

variable {kind : TypedKind} {fields : Pairs}

theorem checkFields_eq_ok (h : kind.Takes fields) : Event.checkFields kind.attributes fields = .ok () := by
  have hknown : fields.keys.find? (fun k => !(kind.attributes.map (·.field)).contains k) = none := by
    simpa using h.known
  have habsent : kind.attributes.filter (fun a => a.required && !fields.keys.contains a.field) = [] := by
    simpa using h.required
  unfold Event.checkFields
  dsimp only
  rw [hknown, habsent]
  rfl

theorem nodup_names (h : kind ∈ all) : (kind.attributes.map (·.name)).Nodup := by
  revert kind
  decide

theorem keepNull_and_emptyIsNull (h : kind ∈ all) : ∀ a ∈ kind.attributes,
    (a.keepNull = true ↔ kind = background ∨ kind = foreground)
      ∧ (a.emptyIsNull = true ↔ kind = linkClick ∧ a.name = "elementClasses")
      ∧ (a.keepNull = true → a.emptyIsNull = false) := by
  revert kind
  decide

end TypedKind

/-! ### Attributes -/

namespace Attribute

variable {a : Attribute} {v w : Value}

def written? (a : Attribute) (w : Value) : Option Value :=
  if a.keepNull || !(a.value w).isNull then some (a.value w) else none

theorem value_eq_iff (hv : v ≠ .null) :
    a.value w = v ↔ w = v ∧ (a.emptyIsNull = true → v.truthy = true) := by
  unfold value
  split
  . next hempty =>
    rw [Bool.and_eq_true, Bool.not_eq_true'] at hempty
    constructor
    . exact fun heq => absurd heq.symm hv
    . rintro ⟨rfl, htruthy⟩
      rw [htruthy hempty.1] at hempty
      cases hempty.2
  . next hempty =>
    rw [iff_self_and]
    rintro rfl hflag
    simpa [hflag] using hempty

theorem written?_eq_some_iff (hflags : a.keepNull = true → a.emptyIsNull = false) :
    a.written? w = some v
      ↔
    w = v ∧ (a.keepNull = true ∨ v ≠ .null ∧ (a.emptyIsNull = true → v.truthy = true)) := by
  cases hkeep : a.keepNull with
  | true =>
    have hvalue : a.value w = w := by simp [value, hflags hkeep]
    simp [written?, hkeep, hvalue]
  | false =>
    have hwritten : a.written? w = some v ↔ a.value w = v ∧ v ≠ .null := by
      rw [written?, hkeep, Bool.false_or, Option.ite_none_right_eq_some, Option.some.injEq, and_comm,
        Bool.not_eq_true', ← Bool.not_eq_true, Value.isNull_iff]
      exact and_congr_right fun heq => by rw [heq]
    rw [hwritten]
    constructor
    . rintro ⟨hvalue, hv⟩
      obtain ⟨hw, htruthy⟩ := (value_eq_iff hv).1 hvalue
      exact ⟨hw, .inr ⟨hv, htruthy⟩⟩
    . rintro ⟨hw, hcontra | ⟨hv, htruthy⟩⟩
      . cases hcontra
      . exact ⟨(value_eq_iff hv).2 ⟨hw, htruthy⟩, hv⟩

end Attribute

namespace Event

variable {kind : TypedKind} {fields : Pairs} {a : Attribute} {v w : Value}

theorem attributes_eq (kind : TypedKind) (fields : Pairs) :
    attributes kind fields
      =
    kind.attributes.filterMap fun a => (a.written? (fieldValue fields a.field)).map (a.name, ·) := by
  rw [attributes, List.filterMap_map]
  congr 1
  funext a
  rw [Attribute.written?, apply_ite (Option.map (a.name, ·))]
  rfl

theorem written?_eq_some_iff (h : kind ∈ TypedKind.all) (ha : a ∈ kind.attributes) :
    a.written? w = some v ↔ w = v ∧ kind.Writes a.name v := by
  obtain ⟨hkeep, hempty, hflags⟩ := TypedKind.keepNull_and_emptyIsNull h a ha
  rw [Attribute.written?_eq_some_iff hflags, TypedKind.Writes, ← or_assoc, ← hkeep, ← and_imp, ← hempty]

theorem keys_filterMap_sublist (write : Attribute → Option Value) (as : List Attribute) :
    (Pairs.keys (as.filterMap fun a => (write a).map (a.name, ·))).Sublist (as.map (·.name)) := by
  induction as with
  | nil => exact .slnil
  | cons a as ih =>
    cases hwrite : write a with
    | none =>
      rw [List.filterMap_cons_none (by rw [hwrite]; rfl)]
      exact ih.cons a.name
    | some v =>
      rw [List.filterMap_cons_some (by rw [hwrite]; rfl)]
      exact ih.cons_cons a.name

theorem holds_attributes (h : kind ∈ TypedKind.all) (fields : Pairs) :
    kind.Holds fields (attributes kind fields) := by
  have hnames := TypedKind.nodup_names h
  have horder : (attributes kind fields).keys.Sublist (kind.attributes.map (·.name)) := by
    rw [attributes_eq]
    exact keys_filterMap_sublist _ _
  refine ⟨horder, fun a ha v => ?_⟩
  rw [Pairs.get?_eq_some_iff (hnames.sublist horder), attributes_eq, List.mem_filterMap,
    ← written?_eq_some_iff h ha]
  constructor
  . rintro ⟨a', ha', hwritten⟩
    obtain ⟨v', hv', heq⟩ := Option.map_eq_some_iff.1 hwritten
    rw [Prod.mk.injEq] at heq
    obtain ⟨hname, rfl⟩ := heq
    cases List.inj_on_of_nodup_map hnames ha' ha hname
    exact hv'
  . intro hwritten
    exact ⟨a, ha, by rw [hwritten]; rfl⟩

/-! ### What is given and what is delivered -/

inductive IsGiven : Event → Prop where
  | selfDescribing {event : Value} (value : event.IsFloatFree) : IsGiven (.selfDescribing event)
  | typed {kind : TypedKind} {fields : Pairs} (known : kind ∈ TypedKind.all) (takes : kind.Takes fields)
      (values : ∀ p ∈ fields, p.2.IsFloatFree) : IsGiven (.typed kind fields)
  | diagnostic {data : Pairs} (keys : data.keys.Nodup) (values : ∀ p ∈ data, p.2.IsFloatFree) :
      IsGiven (.diagnostic (.ofPairs data))

inductive Delivers : Event → String → Value → Prop where
  | selfDescribing (event : Value) :
      Delivers (.selfDescribing event) (((event.field? "sc").bind Value.text?).getD "") event
  | typed {kind : TypedKind} {fields data : Pairs} (holds : kind.Holds fields data) :
      Delivers (.typed kind fields) kind.schema (describe kind.schema (.ofPairs data))
  | diagnostic (data : Pairs) :
      Delivers (.diagnostic (.ofPairs data)) diagnosticSchema
        (describe diagnosticSchema (.ofPairs (data.filter fun p => !p.2.isNull)))

theorem fieldValue_of {P : Value → Prop} (hnull : P .null) (h : ∀ p ∈ fields, P p.2) (name : String) :
    P (fieldValue fields name) := by
  rw [fieldValue]
  cases hget : fields.get? name with
  | none => exact hnull
  | some v => exact h _ (Pairs.mem_of_get? hget)

theorem forall_mem_of_holds {P : Value → Prop} {data : Pairs} (h : kind ∈ TypedKind.all)
    (hdata : kind.Holds fields data) (hnull : P .null) (hfields : ∀ p ∈ fields, P p.2) : ∀ p ∈ data, P p.2 := by
  intro p hp
  obtain ⟨a, ha, hname⟩ := List.mem_map.1 (hdata.order.mem (List.mem_map_of_mem hp))
  have hget : data.get? a.name = some p.2 := by
    rw [hname, Pairs.get?_eq_some_iff ((TypedKind.nodup_names h).sublist hdata.order)]
    exact hp
  rw [← ((hdata.get?_eq_some_iff a ha p.2).1 hget).1]
  exact fieldValue_of hnull hfields a.field

theorem isFloatFree_describe (schema : String) (h : v.IsFloatFree) : (describe schema v).IsFloatFree := by
  apply Value.isFloatFree_ofPairs (by simp [Pairs.keys])
  rw [List.forall_mem_cons, List.forall_mem_singleton]
  exact ⟨Value.isFloatFree_str schema, h⟩

theorem isWritable_describe (schema : String) (v : Value) : (describe schema v).isWritable = v.isWritable := by
  rw [Bool.eq_iff_iff, describe, Value.isWritable_ofPairs, List.forall_mem_cons, List.forall_mem_singleton]
  exact and_iff_right rfl

theorem isFloatFree_data {data : Pairs} (h : kind ∈ TypedKind.all) (hdata : kind.Holds fields data)
    (hfields : ∀ p ∈ fields, p.2.IsFloatFree) : (Value.ofPairs data).IsFloatFree := by
  apply Value.isFloatFree_ofPairs ((TypedKind.nodup_names h).sublist hdata.order)
  exact forall_mem_of_holds h hdata Value.isFloatFree_null hfields

theorem removeEmpty_ofPairs (data : Pairs) :
    Value.object (removeEmpty (fun _ => false) (data.map fun (k, v) => (.str k, v)))
      =
    .ofPairs (data.filter fun p => !p.2.isNull) := by
  rw [removeEmpty, List.filter_map, Value.ofPairs]
  rfl

theorem schema_selfDescribingBuilder (event : Value) :
    (ContextEvent.ofBuilder (selfDescribingBuilder event)).schema
      =
    ((event.field? "sc").bind Value.text?).getD "" := by
  unfold ContextEvent.ofBuilder selfDescribingBuilder ContextEvent.schemaOf
  simp [ContextEvent.eventKey, Deferred.json, ContextEvent.innerSchema?, Value.field?, Value.isKey]

theorem exists_builder {event : Event} (h : event.IsGiven) :
    ∃ schema inner, event.builder = .ok (selfDescribingBuilder inner) ∧ event.Delivers schema inner
      ∧ inner.IsFloatFree ∧ (ContextEvent.ofBuilder (selfDescribingBuilder inner)).schema = schema := by
  cases h with
  | selfDescribing value =>
    exact ⟨_, _, rfl, .selfDescribing _, value, schema_selfDescribingBuilder _⟩
  | @typed kind fields known takes values =>
    have holds := holds_attributes known fields
    refine ⟨_, _, ?_, .typed holds, isFloatFree_describe _ (isFloatFree_data known holds values), rfl⟩
    rw [builder, TypedKind.checkFields_eq_ok takes]
    rfl
  | @diagnostic data keys values =>
    have hkept : (Value.ofPairs (data.filter fun p => !p.2.isNull)).IsFloatFree := by
      apply Value.isFloatFree_ofPairs (keys.sublist (List.filter_sublist.map _))
      exact fun p hp => values p (List.mem_filter.1 hp).1
    refine ⟨_, _, ?_, .diagnostic data, isFloatFree_describe _ hkept, rfl⟩
    rw [← removeEmpty_ofPairs]
    rfl

/-! ### Payloads -/

section

variable {inner : Value}

theorem standardPayload_selfDescribing (encode : Bool) (inner : Value) (processor : Option Processor) :
    ({ selfDescribingBuilder inner with processor := processor } : Builder).standardPayload encode
      =
    [("e", .str "ue"), (eventKeyOf encode, .str (textOf encode (document inner)))] := by
  cases encode <;> rfl

theorem isFaithful_document (h : inner.IsFloatFree) (hwritable : inner.isWritable = true) :
    (document inner).IsFaithful := by
  have hdocument : (document inner).IsFloatFree := isFloatFree_describe eventSchema h
  exact hdocument.json.isFaithful hdocument.plain ((isWritable_describe eventSchema inner).trans hwritable)

theorem ofData_document_eq_error (h : inner.IsFloatFree) (hlong : inner.isWritable = false) :
    Json.ofData (document inner) = .error .longInteger := by
  have hdocument : (document inner).IsFloatFree := isFloatFree_describe eventSchema h
  exact hdocument.json.ofData_eq_error ((isWritable_describe eventSchema inner).trans hlong)

theorem hasDocuments_selfDescribing (h : (document inner).IsFaithful) (processor : Option Processor) :
    HasDocuments { selfDescribingBuilder inner with processor := processor } where
  deferred := List.forall_mem_singleton.2 h.serializable
  entities := nofun

theorem isBuildable_selfDescribing (h : (document inner).IsFaithful) (encode : Bool)
    (processor : Option Processor) :
    IsBuildable encode { selfDescribingBuilder inner with processor := processor } where
  toHasDocuments := hasDocuments_selfDescribing h processor
  reads := by
    rintro (⟨d, hd, hcontexts⟩ | hentities)
    . rw [List.mem_singleton.1 hd] at hcontexts
      cases hcontexts
    . exact absurd rfl hentities

theorem textValue?_document (h : (document inner).IsFaithful) (encode : Bool) :
    textValue? encode (textOf encode (document inner)) = some (document inner) := by
  rw [textValue?_textOf h.plain h.serializable, h.listed]

theorem build_selfDescribing_of_obstacle {σ : Type} (process : ProcessorBehaviour σ) {o : Json.Obstacle}
    (h : Json.ofData (document inner) = .error o) (encode : Bool) (s : Session σ) :
    ∃ b' s', Builder.build process ({ selfDescribingBuilder inner with processor := some (.standard encode) }, s)
      =
    (.error (.notData o), b', s') := by
  have hraised :=
    Builder.runInstalled_of_process process
      (b := { selfDescribingBuilder inner with processor := some (.standard encode) }) rfl
      (Act.bind_run_error (Act.bind_run_error (write_eq_error _ h _))) s
  exact ⟨_, _, Builder.build_of_raised rfl hraised⟩

/--
The builder of a self-describing event shows its type and schema and, once it is built in either encoding, has
become the type and one text, from which the event is read back: an event with its own schema as it is, any
other one with exactly those of its fields that have a value. An event with an integer of too many digits has no
text, so the build fails on it.
-/
theorem builder_delivers {σ : Type} (process : ProcessorBehaviour σ) (s : Session σ) {event : Event}
    (h : event.IsGiven) :
    ∃ b schema inner, event.builder = .ok b ∧ event.Delivers schema inner
      ∧ (ContextEvent.ofBuilder b).type = "ue"
      ∧ (ContextEvent.ofBuilder b).schema = schema
      ∧ ∀ encode, ∃ installed, b.install (.standard encode) = .ok installed
        ∧ (inner.isWritable = true → ∃ built s' text,
            Builder.build process (installed, s)
              = (.ok [("e", .str "ue"), (eventKeyOf encode, .str text)], built, s')
            ∧ textValue? encode text = some (document inner))
        ∧ (inner.isWritable = false → ∃ b' s',
            Builder.build process (installed, s) = (.error (.notData .longInteger), b', s')) := by
  obtain ⟨schema, inner, hbuilder, hdelivers, hfree, hschema⟩ := exists_builder h
  refine ⟨_, schema, inner, hbuilder, hdelivers, rfl, hschema, fun encode => ⟨_, rfl, ?_, ?_⟩⟩
  . intro hwritable
    have hfaithful := isFaithful_document hfree hwritable
    have hbuildable := isBuildable_selfDescribing hfaithful encode (some (.standard encode))
    obtain ⟨s', hbuild, _⟩ := Builder.build_run process rfl rfl hbuildable s
    rw [standardPayload_selfDescribing] at hbuild
    exact ⟨_, s', _, hbuild, textValue?_document hfaithful encode⟩
  . intro hlong
    exact build_selfDescribing_of_obstacle process (ofData_document_eq_error hfree hlong) encode s

end

def emptyClick : Pairs :=
  [("element_classes", .list []), ("target_url", .str ""), ("element_id", .null), ("element_target", .bool false)]

theorem isGiven_emptyClick : IsGiven (.typed .linkClick emptyClick) := by
  refine .typed (by decide) ⟨by decide, by decide⟩ ?_
  simp only [emptyClick, List.forall_mem_cons, List.not_mem_nil, false_implies, implies_true, and_true]
  exact ⟨⟨.list nofun, rfl⟩, ⟨.str "", rfl⟩, ⟨.null, rfl⟩, ⟨.bool false, rfl⟩⟩

/-- The empty text and the false value are delivered, the empty classes are not. -/
theorem builder_delivers_emptyClick :
    ∃ (b : Builder) (data : Pairs) (installed built : Builder) (s' : Session Unit) (text : String),
      builder (.typed .linkClick emptyClick) = .ok b
        ∧ (ContextEvent.ofBuilder b).schema = TypedKind.linkClick.schema
        ∧ b.install (.standard true) = .ok installed
        ∧ Builder.build (fun _ _ _ => pure .null) (installed, .initial () (.whole 0) "" toString)
          = (.ok [("e", .str "ue"), ("ue_px", .str text)], built, s')
        ∧ textValue? true text = some (document (describe TypedKind.linkClick.schema (.ofPairs data)))
        ∧ data.get? "targetUrl" = some (.str "") ∧ data.get? "elementTarget" = some (.bool false)
        ∧ data.get? "elementClasses" = none ∧ data.get? "elementId" = none := by
  obtain ⟨b, schema, inner, hbuilder, hdelivers, _, hschema, hbuild⟩ :=
    builder_delivers (fun _ _ _ => pure .null) (.initial () (.whole 0) "" toString) isGiven_emptyClick
  obtain ⟨installed, hinstall, hsucceeds, _⟩ := hbuild true
  cases hdelivers with
  | @typed _ _ data holds =>
    have hfields : ∀ p ∈ emptyClick, p.2.isWritable = true := by decide
    have hdata : (Value.ofPairs data).isWritable = true :=
      Value.isWritable_ofPairs.2
        (forall_mem_of_holds (P := fun v => v.isWritable = true) (by decide) holds rfl hfields)
    obtain ⟨built, s', text, hrun, hread⟩ := hsucceeds ((isWritable_describe _ _).trans hdata)
    have hget := holds.get?_eq_some_iff
    refine ⟨b, data, installed, built, s', text, hbuilder, hschema, hinstall, hrun, hread, ?_, ?_, ?_, ?_⟩
    . apply (hget (.needed "target_url" "targetUrl") (by decide) _).2
      exact ⟨rfl, .inr (.inr ⟨nofun, by decide⟩)⟩
    . apply (hget (.optional "element_target" "elementTarget") (by decide) _).2
      exact ⟨rfl, .inr (.inr ⟨nofun, by decide⟩)⟩
    . refine Option.eq_none_iff_forall_ne_some.2 fun v hv => ?_
      obtain ⟨rfl, hkind | hkind | ⟨_, htruthy⟩⟩ :=
        (hget ⟨"element_classes", "elementClasses", false, false, true⟩ (by decide) v).1 hv
      . exact absurd hkind (by decide)
      . exact absurd hkind (by decide)
      . cases htruthy rfl rfl
    . refine Option.eq_none_iff_forall_ne_some.2 fun v hv => ?_
      obtain ⟨rfl, hkind | hkind | ⟨hnull, _⟩⟩ :=
        (hget (.optional "element_id" "elementId") (by decide) v).1 hv
      . exact absurd hkind (by decide)
      . exact absurd hkind (by decide)
      . exact hnull rfl

end Event

end EventTracking
