import EventTracking.Proofs.Payload.Contexts
import EventTracking.Proofs.Payload.Deferred

/-!
This module contains what the contexts document of a build is: whatever is merged, the document has a list
of entities and the schema of the document that it starts from.
-/

namespace EventTracking

namespace Processing

variable {encode : Bool} {b : Builder} {c : Carried} {vs : List Value}
  {es document : List (Value × Value)} {documents : List (List (Value × Value))}

def HoldsDocument (encode : Bool) (payload : Pairs) (document : List (Value × Value)) : Prop :=
  ∃ text, payload.get? (contextsKey encode) = some (.str text)
    ∧ payloadText encode (.object document) = .ok text

/-! ### Entities -/

theorem field?_foldl_extend (h : (Value.object es).field? "dt" = some (.list vs)) :
    (Value.object (documents.foldl extend es)).field? "dt"
      =
    some (.list (vs ++ documents.flatMap documentEntities)) := by
  induction documents generalizing es vs with
  | nil => simpa using h
  | cons document documents ih =>
    rw [List.foldl_cons, List.flatMap_cons, ← List.append_assoc]
    apply ih
    rw [extend, documentEntities_of_field? h]
    exact Value.field?_setEntry_self

theorem field?_base (c : Carried) (document : List (Value × Value)) :
    (Value.object (base c document)).field? "dt"
      =
    some (.list (c.entities ++ documentEntities document)) := by
  cases c with
  | document carried => exact Value.field?_setEntry_self
  | nothing | unreadable => exact field?_normalize document

theorem field?_merged (h : merged c documents = some document) :
    (Value.object document).field? "dt"
      =
    some (.list (c.entities ++ documents.flatMap documentEntities)) := by
  cases documents with
  | nil => cases h
  | cons first rest =>
    cases h
    rw [List.flatMap_cons, ← List.append_assoc]
    exact field?_foldl_extend (field?_base c first)

/-! ### Schema -/

def firstSchema (documents : List (List (Value × Value))) : Value :=
  (documents.head?.bind fun es => (Value.object es).field? "sc").getD (.str contextsSchema)

/--
Whether a document has its schema from what the payload carries or, if that is no document, from the
first of the documents that are merged. Nothing is said of a carried document without a schema.
-/
def TakesSchema (c : Carried) (documents : List (List (Value × Value)))
    (document : List (Value × Value)) : Prop :=
  match c with
  | .document carried =>
    ∀ schema, (Value.object carried).field? "sc" = some schema →
      (Value.object document).field? "sc" = some schema
  | .nothing | .unreadable => (Value.object document).field? "sc" = some (firstSchema documents)

theorem schema_foldl_extend (documents : List (List (Value × Value))) (es : List (Value × Value)) :
    (Value.object (documents.foldl extend es)).field? "sc" = (Value.object es).field? "sc" := by
  induction documents generalizing es with
  | nil => rfl
  | cons document documents ih =>
    rw [List.foldl_cons, ih]
    exact Value.field?_setEntry_of_ne (by decide)

theorem schema_normalize (es : List (Value × Value)) :
    (Value.object (normalize es)).field? "sc" = some (firstSchema [es]) := by
  simp [normalize, firstSchema, Value.field?, Value.isKey]

theorem takesSchema_merged (h : merged c documents = some document) :
    TakesSchema c documents document := by
  cases documents with
  | nil => cases h
  | cons first rest =>
    cases h
    cases c with
    | document carried =>
      intro schema hschema
      rw [schema_foldl_extend, base, extend, Value.field?_setEntry_of_ne (by decide), hschema]
    | nothing | unreadable =>
      rw [TakesSchema, schema_foldl_extend]
      exact schema_normalize first

theorem firstSchema_pending (b : Builder) :
    firstSchema (contextsDocuments (pending b)) = firstSchema (contextsDocuments b.deferred) := by
  -- The entities come last, and alone they have the schema of a document without one.
  rw [contextsDocuments_pending]
  cases contextsDocuments b.deferred with
  | cons => rfl
  | nil =>
    split
    . rfl
    . simp [firstSchema, wrap, Value.field?, Value.isKey]

end Processing

namespace Builder

open Processing

variable {σ : Type} {encode : Bool} {b : Builder}

theorem get?_contextsKey_of_leavesContexts (encode : Bool) (hds : LeavesContexts b.deferred) :
    (b.standardPayload encode).get? (contextsKey encode)
      =
    ((merged (carried encode b.pairs) (contextsDocuments (pending b))).map
      fun document => .str (textOf encode (.object document))).or
        (b.pairs.get? (contextsKey encode)) := by
  have hpairs : (Progress.ofBuilder encode b).pairs.get? (contextsKey encode)
      = b.pairs.get? (contextsKey encode) := by
    rw [pairs_ofBuilder]
    exact Pairs.get?_setAll_of_not_mem (contextsKey_not_mem_keys_writes hds) b.pairs
  rw [standardPayload, get?_written, hpairs, (ofBuilder_contexts encode b).1,
    carried_congr (get?_pairsAtMerge hds b.pairs)]

theorem holdsDocument_standardPayload (encode : Bool) (h : HasDocuments b) (hmerges : MergesContexts b) :
    ∃ document,
      merged (carried encode (pairsAtMerge encode b.deferred b.pairs)) (contextsDocuments (pending b))
        = some document
      ∧ HoldsDocument encode (b.standardPayload encode) document := by
  have hcontexts := (ofBuilder_contexts encode b).1
  have hserializable := h.isSerializable_ofBuilder encode
  cases hdocuments : contextsDocuments (pending b) with
  | nil => exact absurd hdocuments (contextsDocuments_pending_ne_nil hmerges)
  | cons first rest =>
    rw [hdocuments] at hcontexts
    refine ⟨_, rfl, _, ?_, payloadText_eq_ok (Value.isSerializable_object.2 (hserializable _ hcontexts))⟩
    rw [standardPayload, Progress.written, hcontexts]
    exact Pairs.get?_set_self _ _ _

/-- The contexts document of a build has a list of entities and takes its schema from where it starts. -/
theorem build_document (process : ProcessorBehaviour σ) (s : Session σ) (hopen : b.built = none)
    (hprocessor : b.processor = some (.standard encode)) (h : IsBuildable encode b)
    (hmerges : MergesContexts b) :
    ∃ payload b' s' document, build process (b, s) = (.ok payload, b', s')
      ∧ HoldsDocument encode payload document
      ∧ (∃ vs, (Value.object document).field? "dt" = some (.list vs))
      ∧ TakesSchema (carried encode (pairsAtMerge encode b.deferred b.pairs))
          (contextsDocuments b.deferred) document := by
  obtain ⟨s', hbuild, _⟩ := build_run process hopen hprocessor h s
  obtain ⟨document, hmerged, hholds⟩ := holdsDocument_standardPayload encode h.toHasDocuments hmerges
  refine ⟨_, _, s', document, hbuild, hholds, ⟨_, field?_merged hmerged⟩, ?_⟩
  have hschema := takesSchema_merged hmerged
  unfold TakesSchema at hschema ⊢
  rw [firstSchema_pending] at hschema
  exact hschema

def foreignSchema : Builder where
  pairs := []
  deferred :=
    [⟨"cx", "co", [(.str "sc", .str "iglu:com.acme/contexts/jsonschema/1-0-0"), (.str "dt", .list [])]⟩]
  entities := []
  processor := some (.standard false)
  built := none

theorem hasDocuments_foreignSchema : HasDocuments foreignSchema where
  deferred := by
    simp only [foreignSchema, List.forall_mem_singleton]
    exact ⟨.obj [("sc", .str "iglu:com.acme/contexts/jsonschema/1-0-0"), ("dt", .arr [])], rfl⟩
  entities := by simp [foreignSchema]

theorem isBuildable_foreignSchema : IsBuildable false foreignSchema :=
  hasDocuments_foreignSchema.isBuildable nofun

theorem mergesContexts_foreignSchema : MergesContexts foreignSchema :=
  Or.inl ⟨_, List.mem_cons_self, rfl⟩

theorem build_document_foreignSchema :
    ∃ payload b' s' document,
      build (fun _ _ _ => pure .null) (foreignSchema, .initial () (.whole 0) "" toString)
        = (.ok payload, b', s')
      ∧ HoldsDocument false payload document
      ∧ (∃ vs, (Value.object document).field? "dt" = some (.list vs))
      ∧ (Value.object document).field? "sc"
        = some (.str "iglu:com.acme/contexts/jsonschema/1-0-0") := by
  obtain ⟨payload, b', s', document, hbuild, hholds, hentities, hschema⟩ :=
    build_document (fun _ _ _ => pure .null) (.initial () (.whole 0) "" toString) rfl rfl
      isBuildable_foreignSchema mergesContexts_foreignSchema
  exact ⟨payload, b', s', document, hbuild, hholds, hentities, hschema⟩

theorem build_foreign_schema_kept :
    foreignSchema.built = none ∧ foreignSchema.processor = some (.standard false)
      ∧ HasDocuments foreignSchema ∧ MergesContexts foreignSchema
      ∧ ∃ payload b' s' text document,
        build (fun _ _ _ => pure .null) (foreignSchema, .initial () (.whole 0) "" toString)
          = (.ok payload, b', s')
        ∧ payload.get? (contextsKey false) = some (.str text)
        ∧ textValue? false text = some (.object document)
        ∧ (Value.object document).field? "sc" ≠ some (.str contextsSchema) := by
  obtain ⟨s', hbuild, _⟩ := build_run (fun _ _ _ => pure .null) rfl rfl isBuildable_foreignSchema
    (.initial () (.whole 0) "" toString)
  obtain ⟨document, hmerged, text, hget, htext⟩ :=
    holdsDocument_standardPayload false hasDocuments_foreignSchema mergesContexts_foreignSchema
  have hdocument : document
      = [(.str "sc", .str "iglu:com.acme/contexts/jsonschema/1-0-0"), (.str "dt", .list [])] :=
    (Option.some.inj hmerged).symm
  have hread : textValue? false text = some (Value.object document).listed := by
    have hserializable : (Value.object document).IsSerializable := by
      rw [hdocument]
      exact hasDocuments_foreignSchema.deferred _ List.mem_cons_self
    rw [payloadText_eq_ok hserializable] at htext
    rw [← Except.ok.inj htext]
    exact textValue?_textOf (by rw [hdocument]; rfl) hserializable
  refine ⟨rfl, rfl, hasDocuments_foreignSchema, mergesContexts_foreignSchema, _, _, s', text, _, hbuild,
    hget, hread, ?_⟩
  rw [hdocument]
  simp [Value.listedEntries, Value.listed, Value.field?, Value.isKey, contextsSchema]

end Builder

end EventTracking
