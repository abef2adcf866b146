import EventTracking.Payload.Processing
import EventTracking.Proofs.Json.Data
import EventTracking.Proofs.Json.Nesting
import EventTracking.Proofs.Pairs
import EventTracking.Proofs.Session

/-!
This module contains what the standard processing does to pairs and to the contexts document: it writes the
text of each waiting object, if that has one, and merges the entities.
-/

namespace EventTracking

namespace Processing

variable {encode : Bool} {v : Value} {es more : List (Value × Value)}

def textOf (encode : Bool) (v : Value) : String := (payloadText encode v).toOption.getD ""

def textValue? (encode : Bool) (text : String) : Option Value :=
  ((if encode then (Base64.decode text).toOption else some text).bind Json.parse?).map Json.toValue

theorem payloadText_eq_ok (h : v.IsSerializable) : payloadText encode v = .ok (textOf encode v) := by
  obtain ⟨j, h⟩ := h
  rw [textOf, payloadText, h]
  rfl

/-! ### Entities of documents -/

section Parts

variable {P K : Value → Prop} (hP : Value.Hereditary P K)

include hP

theorem forall_mem_documentEntities (h : P (.object es)) : ∀ e ∈ documentEntities es, P e := by
  intro e he
  unfold documentEntities entityList at he
  cases hv : (Value.object es).field? "dt" with
  | none => simp [hv] at he
  | some v =>
    cases hxs : v.items? with
    | none => simp [hv, hxs] at he
    | some xs =>
      rw [hv, Option.bind_some, hxs, Option.getD_some] at he
      exact hP.of_mem_items? (hP.of_field? h hv) hxs he

theorem object_extend (hes : P (.object es)) (hmore : P (.object more)) : P (.object (extend es more)) := by
  apply hP.object_setEntry ?_ hes
  rw [hP.list_iff, List.forall_mem_append]
  exact ⟨forall_mem_documentEntities hP hes, forall_mem_documentEntities hP hmore⟩

theorem object_schemaAndEntities {schema : Value} {vs : List Value} (hschema : P schema)
    (hvs : ∀ v ∈ vs, P v) : P (.object [(.str "sc", schema), (.str "dt", .list vs)]) := by
  rw [hP.object_iff, List.forall_mem_cons, List.forall_mem_singleton]
  exact ⟨⟨hP.key "sc", hschema⟩, hP.key "dt", (hP.list_iff vs).2 hvs⟩

theorem object_normalize (h : P (.object es)) : P (.object (normalize es)) := by
  apply object_schemaAndEntities hP ?_ (forall_mem_documentEntities hP h)
  cases hschema : (Value.object es).field? "sc" with
  | none => exact hP.str contextsSchema
  | some schema => exact hP.of_field? h hschema

theorem object_wrap {vs : List Value} (h : ∀ v ∈ vs, P v) : P (.object (wrap vs)) :=
  object_schemaAndEntities hP (hP.str contextsSchema) h

end Parts

theorem areSerializable_wrap {vs : List Value} (h : ∀ v ∈ vs, v.IsSerializable) :
    Value.AreSerializable (wrap vs) :=
  Value.isSerializable_object.1 (object_wrap Value.hereditary_isSerializable h)

theorem documentEntities_wrap (vs : List Value) : documentEntities (wrap vs) = vs := by
  simp [documentEntities, entityList, wrap, Value.field?, Value.isKey, Value.items?]

theorem areSerializable_of_carried {pairs : Pairs} (h : carried encode pairs = .document es) :
    Value.AreSerializable es := by
  unfold carried at h
  split at h
  . dsimp only at h
    split at h
    . cases h
    . next j hj =>
      split at h
      -- Only a text that is read as an object is carried on as a document.
      . next heq =>
        cases h
        rw [← Value.isSerializable_object, ← heq]
        obtain ⟨text, _, hparse⟩ := Option.bind_eq_some_iff.1 hj
        exact Json.isSerializable_of_parse? hparse
      . cases h
  . cases h

/-! ### Steps of processing -/

namespace Progress

def after (encode : Bool) (p : Progress) (d : Deferred) : Progress :=
  if isContexts d then combine encode p d.entries
  else { p with pairs := p.pairs.set (chosenKey encode d) (.str (textOf encode d.json)) }

def ofBuilder (encode : Bool) (b : Builder) : Progress :=
  let p := b.deferred.foldl (after encode) ⟨b.pairs, none, 0⟩
  if b.entities.isEmpty then p else combine encode p (wrap b.entities)

def written (encode : Bool) (p : Progress) : Pairs :=
  match p.contexts with
  | some document => p.pairs.set (contextsKey encode) (.str (textOf encode (.object document)))
  | none => p.pairs

def IsSerializable (p : Progress) : Prop :=
  ∀ document, p.contexts = some document → Value.AreSerializable document

end Progress

variable {p : Progress}

theorem combine_pairs (encode : Bool) (p : Progress) (more : List (Value × Value)) :
    (combine encode p more).pairs = p.pairs := by
  unfold combine
  split
  . rfl
  . split <;> rfl

theorem combine_contexts_ne_none (encode : Bool) (p : Progress) (more : List (Value × Value)) :
    (combine encode p more).contexts ≠ none := by
  unfold combine
  split
  . nofun
  . split <;> nofun

theorem write_run (key : String) (hv : v.IsSerializable) (p : Progress) :
    write encode key v p = (.ok (), { p with pairs := p.pairs.set key (.str (textOf encode v)) }) := by
  rw [write, payloadText_eq_ok hv]
  rfl

theorem merge_run (h : p.contexts = none → overflow? encode p.pairs = none) (more : List (Value × Value)) :
    merge encode more p = (.ok (), combine encode p more) := by
  rw [merge, Act.bind_run Act.get_run]
  cases hcontexts : p.contexts with
  | none =>
    rw [h hcontexts]
    rfl
  | some document => rfl

theorem merge_of_overflow (hnone : p.contexts = none) {bracket : Json.Bracket}
    (h : overflow? encode p.pairs = some bracket) (more : List (Value × Value)) :
    merge encode more p = (.error (.nestedTooDeep bracket), p) := by
  rw [merge, Act.bind_run Act.get_run, hnone, h]
  rfl

theorem step_run {d : Deferred} (hd : isContexts d = false → d.json.IsSerializable)
    (hreads : isContexts d = true → p.contexts = none → overflow? encode p.pairs = none) :
    step encode d p = (.ok (), p.after encode d) := by
  unfold step Progress.after
  cases h : isContexts d with
  | true => exact merge_run (hreads h) d.entries
  | false => exact write_run _ (hd h) p

/-! ### Pairs that are written -/

def writes (encode : Bool) (ds : List Deferred) : Pairs :=
  (ds.filter fun d => !isContexts d).map fun d => (chosenKey encode d, .str (textOf encode d.json))

theorem mem_keys_writes {key : String} {ds : List Deferred} :
    key ∈ (writes encode ds).keys ↔ ∃ d ∈ ds, isContexts d = false ∧ chosenKey encode d = key := by
  simp [writes, Pairs.keys, and_assoc]

theorem pairs_foldl_after (ds : List Deferred) (p : Progress) :
    (ds.foldl (Progress.after encode) p).pairs = Pairs.setAll (writes encode ds) p.pairs := by
  -- Contexts documents are written at the end only, so combining them leaves the pairs alone.
  induction ds generalizing p with
  | nil => rfl
  | cons d ds ih =>
    rw [List.foldl_cons, ih, Progress.after]
    cases hd : isContexts d with
    | true => simp [writes, hd, combine_pairs]
    | false => simp [writes, hd, Pairs.setAll]

theorem pairs_ofBuilder (b : Builder) :
    (Progress.ofBuilder encode b).pairs = Pairs.setAll (writes encode b.deferred) b.pairs := by
  unfold Progress.ofBuilder
  dsimp only
  split
  . exact pairs_foldl_after b.deferred _
  . rw [combine_pairs]
    exact pairs_foldl_after b.deferred _

theorem get?_written_of_ne {key : String} (hkey : key ≠ contextsKey encode) (p : Progress) :
    (p.written encode).get? key = p.pairs.get? key := by
  unfold Progress.written
  split
  . exact Pairs.get?_set_of_ne hkey _ p.pairs
  . rfl

/-! ### The text that is read -/

def pairsAtMerge (encode : Bool) (ds : List Deferred) (ps : Pairs) : Pairs :=
  Pairs.setAll (writes encode (ds.takeWhile fun d => !isContexts d)) ps

variable {d : Deferred} {ds : List Deferred} {bracket : Json.Bracket} {ps : Pairs}

theorem overflow?_of_not_text (h : ∀ text, ps.get? (contextsKey encode) ≠ some (.str text)) :
    overflow? encode ps = none := by
  unfold overflow?
  split
  . next text hget => exact absurd hget (h text)
  . rfl

theorem overflow?_plain {text : String} (hget : ps.get? plainContextsKey = some (.str text)) :
    overflow? false ps = Json.overflow? text := by
  rw [overflow?, contextsKey, if_neg Bool.false_ne_true, hget]
  rfl

theorem overflow?_congr {ps' : Pairs} (h : ps.get? (contextsKey encode) = ps'.get? (contextsKey encode)) :
    overflow? encode ps = overflow? encode ps' := by
  rw [overflow?, h]
  rfl

theorem pairsAtMerge_cons_of_contexts (hd : isContexts d = true) (ds : List Deferred) (ps : Pairs) :
    pairsAtMerge encode (d :: ds) ps = ps := by
  simp [pairsAtMerge, hd, writes, Pairs.setAll]

theorem pairsAtMerge_cons_of_own (hd : isContexts d = false) (ds : List Deferred) (ps : Pairs) :
    pairsAtMerge encode (d :: ds) ps
      =
    pairsAtMerge encode ds (ps.set (chosenKey encode d) (.str (textOf encode d.json))) := by
  simp [pairsAtMerge, hd, writes, Pairs.setAll]

def ReadsFrom (encode : Bool) (p : Progress) (ds : List Deferred) : Prop :=
  p.contexts = none → (∃ d ∈ ds, isContexts d = true) →
    overflow? encode (pairsAtMerge encode ds p.pairs) = none

theorem ReadsFrom.first (h : ReadsFrom encode p (d :: ds)) (hd : isContexts d = true) (hnone : p.contexts = none) :
    overflow? encode p.pairs = none := by
  have hread := h hnone ⟨d, List.mem_cons_self, hd⟩
  rwa [pairsAtMerge_cons_of_contexts hd] at hread

theorem ReadsFrom.rest (h : ReadsFrom encode p (d :: ds)) : ReadsFrom encode (p.after encode d) ds := by
  unfold ReadsFrom
  rw [Progress.after]
  cases hcontexts : isContexts d with
  | true =>
    -- Once there is a document, nothing is read any more.
    intro hnone
    rw [if_pos rfl] at hnone
    exact absurd hnone (combine_contexts_ne_none encode p d.entries)
  | false =>
    rw [if_neg Bool.false_ne_true]
    rintro hnone ⟨e, he, hcontexts'⟩
    have hread := h hnone ⟨e, List.mem_cons_of_mem d he, hcontexts'⟩
    rwa [pairsAtMerge_cons_of_own hcontexts] at hread

/-- Contexts documents are written later, so only the other objects and the text that is read can end the steps. -/
theorem steps_run (hds : ∀ d ∈ ds, isContexts d = false → d.json.IsSerializable)
    (hreads : ReadsFrom encode p ds) :
    steps encode ds p = (.ok (), ds.foldl (Progress.after encode) p) := by
  induction ds generalizing p with
  | nil => rfl
  | cons d ds ih =>
    obtain ⟨hd, hds⟩ := List.forall_mem_cons.1 hds
    rw [steps, Act.bind_run (step_run hd hreads.first), List.foldl_cons]
    exact ih hds hreads.rest

def ownBefore (ds : List Deferred) : List Deferred := ds.takeWhile fun d => !isContexts d

theorem isContexts_of_mem_ownBefore (h : d ∈ ownBefore ds) : isContexts d = false := by
  have hown := List.mem_takeWhile_imp h
  simpa using hown

theorem steps_of_overflow (hds : ∀ d ∈ ownBefore ds, d.json.IsSerializable)
    (hnone : p.contexts = none) (hsome : ∃ d ∈ ds, isContexts d = true)
    (h : overflow? encode (pairsAtMerge encode ds p.pairs) = some bracket) :
    steps encode ds p
      =
    (.error (.nestedTooDeep bracket), { p with pairs := pairsAtMerge encode ds p.pairs }) := by
  induction ds generalizing p with
  | nil =>
    obtain ⟨d, hd, -⟩ := hsome
    cases hd
  | cons d ds ih =>
    cases hcontexts : isContexts d with
    | true =>
      rw [pairsAtMerge_cons_of_contexts hcontexts] at h ⊢
      rw [steps, step, hcontexts, if_pos rfl, Act.bind_run_error (merge_of_overflow hnone h d.entries)]
    | false =>
      rw [ownBefore, List.takeWhile_cons_of_pos (by rw [hcontexts]; rfl), List.forall_mem_cons] at hds
      obtain ⟨e, he, hcontexts'⟩ := hsome
      have hrest : e ∈ ds := by
        rcases List.mem_cons.1 he with rfl | he
        . rw [hcontexts] at hcontexts'
          cases hcontexts'
        . exact he
      have hstep : step encode d p = (.ok (), p.after encode d) :=
        step_run (fun _ => hds.1) fun htrue => by rw [hcontexts] at htrue; cases htrue
      rw [pairsAtMerge_cons_of_own hcontexts] at h ⊢
      rw [steps, Act.bind_run hstep, Progress.after, hcontexts, if_neg Bool.false_ne_true]
      exact ih hds.2 hnone ⟨e, hrest, hcontexts'⟩ h

/-! ### Whole runs -/

structure HasDocuments (b : Builder) : Prop where
  deferred : ∀ d ∈ b.deferred, d.json.IsSerializable
  entities : ∀ e ∈ b.entities, e.IsSerializable

theorem hasDocuments_empty : HasDocuments Builder.empty := ⟨by simp [Builder.empty], by simp [Builder.empty]⟩

def pending (b : Builder) : List Deferred :=
  b.deferred ++
    if b.entities.isEmpty then [] else [⟨encodedContextsKey, plainContextsKey, wrap b.entities⟩]

def MergesContexts (b : Builder) : Prop :=
  (∃ d ∈ b.deferred, isContexts d = true) ∨ b.entities ≠ []

instance (b : Builder) : Decidable (MergesContexts b) :=
  inferInstanceAs (Decidable ((∃ d ∈ b.deferred, isContexts d = true) ∨ b.entities ≠ []))

def Overflows (encode : Bool) (bracket : Json.Bracket) (b : Builder) : Prop :=
  MergesContexts b ∧ overflow? encode (pairsAtMerge encode b.deferred b.pairs) = some bracket

def ReadsContexts (encode : Bool) (b : Builder) : Prop :=
  MergesContexts b → overflow? encode (pairsAtMerge encode b.deferred b.pairs) = none

instance (encode : Bool) (b : Builder) : Decidable (ReadsContexts encode b) :=
  inferInstanceAs (Decidable (MergesContexts b → _ = none))

structure IsBuildable (encode : Bool) (b : Builder) : Prop extends HasDocuments b where
  reads : ReadsContexts encode b

variable {b : Builder}

theorem readsContexts_or_overflows (encode : Bool) (b : Builder) :
    ReadsContexts encode b ∨ ∃ bracket, Overflows encode bracket b := by
  by_cases hmerges : MergesContexts b
  . cases h : overflow? encode (pairsAtMerge encode b.deferred b.pairs) with
    | none => exact .inl fun _ => h
    | some bracket => exact .inr ⟨bracket, hmerges, h⟩
  . exact .inl fun h => absurd h hmerges

theorem HasDocuments.isBuildable (h : HasDocuments b)
    (hget : ∀ text, (pairsAtMerge encode b.deferred b.pairs).get? (contextsKey encode) ≠ some (.str text)) :
    IsBuildable encode b :=
  ⟨h, fun _ => overflow?_of_not_text hget⟩

theorem exists_contexts_pending_iff :
    (∃ d ∈ pending b, isContexts d = true) ↔ MergesContexts b := by
  unfold pending MergesContexts
  cases hentities : b.entities with
  | nil => simp
  | cons e es => simp [isContexts]

theorem ownBefore_pending (b : Builder) : ownBefore (pending b) = ownBefore b.deferred := by
  have htail : (if b.entities.isEmpty then []
      else [⟨encodedContextsKey, plainContextsKey, wrap b.entities⟩]).takeWhile
        (fun d => !isContexts d) = [] := by
    split <;> rfl
  rw [ownBefore, pending, List.takeWhile_append, htail, List.append_nil]
  split
  . next hlen => exact ((List.takeWhile_prefix _).eq_of_length hlen).symm
  . rfl

theorem pairsAtMerge_pending (encode : Bool) (b : Builder) (ps : Pairs) :
    pairsAtMerge encode (pending b) ps = pairsAtMerge encode b.deferred ps := by
  rw [pairsAtMerge, ← ownBefore, ownBefore_pending, ownBefore, ← pairsAtMerge]

theorem ofBuilder_eq (encode : Bool) (b : Builder) :
    Progress.ofBuilder encode b = (pending b).foldl (Progress.after encode) ⟨b.pairs, none, 0⟩ := by
  unfold Progress.ofBuilder pending
  dsimp only
  rw [List.foldl_append]
  split <;> rfl

theorem isSerializable_pending (h : ∀ d ∈ b.deferred, isContexts d = false → d.json.IsSerializable) :
    ∀ d ∈ pending b, isContexts d = false → d.json.IsSerializable := by
  rw [pending, List.forall_mem_append]
  refine ⟨h, ?_⟩
  split
  . simp
  . rw [List.forall_mem_singleton]
    intro hcontexts
    cases hcontexts

def writeContexts (encode : Bool) : Act Progress Unit := do
  match (← get).contexts with
  | some document => write encode (contextsKey encode) (.object document)
  | none => pure ()

theorem writeContexts_run (hp : p.IsSerializable) :
    writeContexts encode p = (.ok (), { p with pairs := p.written encode }) := by
  rw [writeContexts, Act.bind_run Act.get_run]
  obtain ⟨pairs, contexts, unreadable⟩ := p
  cases contexts with
  | none => rfl
  | some document => exact write_run _ (Value.isSerializable_object.2 (hp document rfl)) _

theorem steps_append (encode : Bool) (ds ds' : List Deferred) :
    steps encode (ds ++ ds') = (do steps encode ds; steps encode ds') := by
  induction ds with
  | nil => rfl
  | cons d ds ih => rw [List.cons_append, steps, ih, steps, bind_assoc]

theorem process_eq (encode : Bool) (b : Builder) :
    process encode b.deferred b.entities = (do steps encode (pending b); writeContexts encode) := by
  rw [pending, steps_append, process, bind_assoc]
  cases b.entities.isEmpty with
  | true => rfl
  | false =>
    have hlast : ∀ d, isContexts d = true → steps encode [d] = merge encode d.entries := by
      intro d hd
      rw [steps, step, hd, if_pos rfl, steps, bind_pure_unit]
    have hentities := hlast ⟨encodedContextsKey, plainContextsKey, wrap b.entities⟩ rfl
    simp only [Bool.false_eq_true, if_false, hentities]
    rfl

theorem ReadsContexts.readsFrom (h : ReadsContexts encode b) :
    ReadsFrom encode ⟨b.pairs, none, 0⟩ (pending b) := by
  intro _
  rw [exists_contexts_pending_iff, pairsAtMerge_pending]
  exact h

theorem process_of_own (h : ∀ d ∈ b.deferred, isContexts d = false → d.json.IsSerializable)
    (hreads : ReadsContexts encode b) :
    process encode b.deferred b.entities ⟨b.pairs, none, 0⟩
      =
    writeContexts encode (Progress.ofBuilder encode b) := by
  rw [process_eq, Act.bind_run (steps_run (isSerializable_pending h) hreads.readsFrom), ofBuilder_eq]

theorem process_of_overflow (h : ∀ d ∈ ownBefore b.deferred, d.json.IsSerializable)
    (hoverflows : Overflows encode bracket b) :
    process encode b.deferred b.entities ⟨b.pairs, none, 0⟩
      =
    (.error (.nestedTooDeep bracket), ⟨pairsAtMerge encode b.deferred b.pairs, none, 0⟩) := by
  obtain ⟨hmerges, hoverflow⟩ := hoverflows
  rw [← pairsAtMerge_pending] at hoverflow ⊢
  rw [← ownBefore_pending] at h
  rw [process_eq, Act.bind_run_error (steps_of_overflow h rfl (exists_contexts_pending_iff.2 hmerges) hoverflow)]

end Processing

end EventTracking
