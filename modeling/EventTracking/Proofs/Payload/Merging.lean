import EventTracking.Proofs.Payload.Processing

/-!
This module contains the course of merging: the waiting contexts documents and the entities of a builder
are merged in their order into what the payload carries when the first of them is reached, and nothing
else is merged. What is merged from content that has documents can be written.
-/

namespace EventTracking.Processing

variable {encode : Bool} {p : Progress} {b : Builder} {es : List (Value × Value)}

def base (c : Carried) (document : List (Value × Value)) : List (Value × Value) :=
  match c with
  | .document carried => extend carried document
  | .nothing | .unreadable => normalize document

def merged (c : Carried) : List (List (Value × Value)) → Option (List (Value × Value))
  | [] => none
  | document :: rest => some (rest.foldl extend (base c document))

def misreadings (c : Carried) : List (List (Value × Value)) → Nat
  | [] => 0
  | _ :: _ =>
    match c with
    | .unreadable => 1
    | .nothing | .document _ => 0

def Carried.entities : Carried → List Value
  | .document carried => documentEntities carried
  | .nothing | .unreadable => []

def contextsDocuments (ds : List Deferred) : List (List (Value × Value)) :=
  (ds.filter isContexts).map Deferred.entries

/-! ### What the payload carries -/

theorem carried_congr {pairs pairs' : Pairs}
    (h : pairs.get? (contextsKey encode) = pairs'.get? (contextsKey encode)) :
    carried encode pairs = carried encode pairs' := by
  rw [carried, h]
  rfl

theorem carried_of_text {pairs : Pairs} {text : String}
    (h : pairs.get? (contextsKey encode) = some (.str text)) :
    carried encode pairs
      =
    match textValue? encode text with
    | some (.object es) => .document es
    | some _ => .nothing
    | none => .unreadable := by
  rw [carried, h]
  dsimp only
  unfold textValue?
  cases (if encode then (Base64.decode text).toOption else some text).bind Json.parse? with
  | none => rfl
  | some j =>
    rw [Option.map_some]
    dsimp only
    cases j.toValue <;> rfl

theorem get?_written (p : Progress) :
    (p.written encode).get? (contextsKey encode)
      =
    (p.contexts.map fun document => .str (textOf encode (.object document))).or
      (p.pairs.get? (contextsKey encode)) := by
  unfold Progress.written
  cases p.contexts with
  | none => rfl
  | some document => exact Pairs.get?_set_self _ _ _

/-! ### Steps of merging -/

theorem contextsDocuments_cons (d : Deferred) (ds : List Deferred) :
    contextsDocuments (d :: ds)
      =
    (if isContexts d then [d.entries] else []) ++ contextsDocuments ds := by
  unfold contextsDocuments
  cases hd : isContexts d <;> simp [hd]

theorem combine_of_none (h : p.contexts = none) (more : List (Value × Value)) :
    combine encode p more
      =
    ⟨p.pairs, some (base (carried encode p.pairs) more),
      p.unreadable + misreadings (carried encode p.pairs) [more]⟩ := by
  obtain ⟨pairs, contexts, unreadable⟩ := p
  subst h
  unfold combine
  dsimp only
  cases carried encode pairs <;> rfl

theorem foldl_after_of_document (h : p.contexts = some es) (ds : List Deferred) :
    (ds.foldl (Progress.after encode) p).contexts = some ((contextsDocuments ds).foldl extend es)
      ∧ (ds.foldl (Progress.after encode) p).unreadable = p.unreadable := by
  induction ds generalizing p es with
  | nil => exact ⟨h, rfl⟩
  | cons d ds ih =>
    rw [List.foldl_cons, contextsDocuments_cons, Progress.after]
    cases hd : isContexts d with
    | true =>
      have hcombine : combine encode p d.entries = { p with contexts := some (extend es d.entries) } := by
        rw [combine, h]
      simp only [if_true, hcombine]
      exact ih rfl
    | false =>
      simp only [Bool.false_eq_true, if_false]
      exact ih h

theorem foldl_after_of_none (encode : Bool) (h : p.contexts = none) (ds : List Deferred) :
    (ds.foldl (Progress.after encode) p).contexts
        = merged (carried encode (pairsAtMerge encode ds p.pairs)) (contextsDocuments ds)
      ∧ (ds.foldl (Progress.after encode) p).unreadable
        = p.unreadable
          + misreadings (carried encode (pairsAtMerge encode ds p.pairs)) (contextsDocuments ds) := by
  -- Up to the first contexts document only pairs change; from there on only the document counts.
  induction ds generalizing p with
  | nil => exact ⟨h, rfl⟩
  | cons d ds ih =>
    rw [List.foldl_cons, contextsDocuments_cons, Progress.after]
    cases hd : isContexts d with
    | true =>
      rw [pairsAtMerge_cons_of_contexts hd, if_pos rfl, if_pos rfl, combine_of_none h]
      exact foldl_after_of_document rfl ds
    | false =>
      rw [pairsAtMerge_cons_of_own hd, if_neg Bool.false_ne_true, if_neg Bool.false_ne_true, List.nil_append]
      exact ih h

theorem object_merged {P K : Value → Prop} (hP : Value.Hereditary P K) {c : Carried}
    {documents : List (List (Value × Value))} {document : List (Value × Value)}
    (hc : ∀ carried, c = .document carried → P (.object carried))
    (hdocuments : ∀ more ∈ documents, P (.object more)) (h : merged c documents = some document) :
    P (.object document) := by
  have hextended : ∀ (documents : List (List (Value × Value))) (es : List (Value × Value)),
      (∀ more ∈ documents, P (.object more)) → P (.object es) →
        P (.object (documents.foldl extend es)) := by
    intro documents
    induction documents with
    | nil => exact fun es _ hes => hes
    | cons more documents ih =>
      intro es hall hes
      obtain ⟨hmore, hrest⟩ := List.forall_mem_cons.1 hall
      exact ih _ hrest (object_extend hP hes hmore)
  cases documents with
  | nil => cases h
  | cons first rest =>
    obtain ⟨hfirst, hrest⟩ := List.forall_mem_cons.1 hdocuments
    cases h
    apply hextended rest _ hrest
    cases c with
    | document carried => exact object_extend hP (hc carried rfl) hfirst
    | nothing | unreadable => exact object_normalize hP hfirst

/-! ### The contexts document of a builder -/

theorem contextsDocuments_pending (b : Builder) :
    contextsDocuments (pending b)
      =
    contextsDocuments b.deferred ++ if b.entities.isEmpty then [] else [wrap b.entities] := by
  unfold contextsDocuments pending
  rw [List.filter_append, List.map_append]
  split <;> rfl

theorem contextsDocuments_pending_ne_nil (h : MergesContexts b) : contextsDocuments (pending b) ≠ [] := by
  rw [contextsDocuments_pending]
  intro hnil
  obtain ⟨hdeferred, hentities⟩ := List.append_eq_nil_iff.1 hnil
  rcases h with ⟨d, hd, hcontexts⟩ | h
  . have hmem := List.mem_map_of_mem (f := Deferred.entries) (List.mem_filter.2 ⟨hd, hcontexts⟩)
    exact List.ne_nil_of_mem hmem hdeferred
  . simp [h] at hentities

theorem contextsDocuments_pending_eq_nil (h : ¬ MergesContexts b) : contextsDocuments (pending b) = [] := by
  rw [MergesContexts, not_or, not_not] at h
  obtain ⟨hdeferred, hentities⟩ := h
  rw [contextsDocuments_pending, hentities, List.append_eq_nil_iff]
  refine ⟨?_, rfl⟩
  rw [contextsDocuments, List.map_eq_nil_iff, List.filter_eq_nil_iff]
  exact fun d hd hcontexts => hdeferred ⟨d, hd, hcontexts⟩

theorem ofBuilder_contexts (encode : Bool) (b : Builder) :
    (Progress.ofBuilder encode b).contexts
        = merged (carried encode (pairsAtMerge encode b.deferred b.pairs))
            (contextsDocuments (pending b))
      ∧ (Progress.ofBuilder encode b).unreadable
        = misreadings (carried encode (pairsAtMerge encode b.deferred b.pairs))
            (contextsDocuments (pending b)) := by
  have hcourse := foldl_after_of_none encode (p := ⟨b.pairs, none, 0⟩) rfl (pending b)
  rw [pairsAtMerge_pending, ← ofBuilder_eq, Nat.zero_add] at hcourse
  exact hcourse

theorem object_ofBuilder {P K : Value → Prop} (hP : Value.Hereditary P K)
    (hcarried : MergesContexts b → ∀ document,
      carried encode (pairsAtMerge encode b.deferred b.pairs) = .document document → P (.object document))
    (hdeferred : ∀ d ∈ b.deferred, P d.json) (hentities : ∀ e ∈ b.entities, P e) :
    ∀ document, (Progress.ofBuilder encode b).contexts = some document → P (.object document) := by
  intro document hcontexts
  rw [(ofBuilder_contexts encode b).1] at hcontexts
  have hmerges : MergesContexts b := by
    by_contra hnone
    rw [contextsDocuments_pending_eq_nil hnone] at hcontexts
    cases hcontexts
  have hdocuments : ∀ more ∈ contextsDocuments (pending b), P (.object more) := by
    rw [contextsDocuments_pending, List.forall_mem_append]
    constructor
    . rw [contextsDocuments, List.forall_mem_map]
      exact fun d hd => hdeferred d (List.mem_filter.1 hd).1
    . split
      . simp
      . exact List.forall_mem_singleton.2 (object_wrap hP hentities)
  exact object_merged hP (hcarried hmerges) hdocuments hcontexts

/-! ### Runs that succeed -/

theorem HasDocuments.isSerializable_ofBuilder (h : HasDocuments b) (encode : Bool) :
    (Progress.ofBuilder encode b).IsSerializable := by
  intro document hcontexts
  rw [← Value.isSerializable_object]
  apply object_ofBuilder Value.hereditary_isSerializable ?_ h.deferred h.entities document hcontexts
  intro _ carried hcarried
  exact Value.isSerializable_object.2 (areSerializable_of_carried hcarried)

theorem IsBuildable.process_run (h : IsBuildable encode b) :
    process encode b.deferred b.entities ⟨b.pairs, none, 0⟩
      =
    (.ok (), { Progress.ofBuilder encode b with
      pairs := (Progress.ofBuilder encode b).written encode }) := by
  rw [process_of_own (fun d hd _ => h.deferred d hd) h.reads]
  exact writeContexts_run (h.isSerializable_ofBuilder encode)

end EventTracking.Processing
