import EventTracking.Proofs.Payload.Build

/-!
This module contains the theorem that a build neither loses nor repeats nor reorders entities: those of
the document that is on the payload already come first, then those of the waiting contexts documents,
then those of the builder.
-/

namespace EventTracking

namespace Processing

variable {encode : Bool} {p : Progress} {vs : List Value}

def textEntities (encode : Bool) (text : String) : List Value :=
  entityList ((textValue? encode text).bind fun v => v.field? "dt")

def carriedEntities (encode : Bool) (pairs : Pairs) : List Value :=
  match pairs.get? (contextsKey encode) with
  | some (.str text) => textEntities encode text
  | _ => []

def deferredEntities (ds : List Deferred) : List Value :=
  (ds.filter isContexts).flatMap fun d => documentEntities d.entries

def HoldsContexts (encode : Bool) (payload : Pairs) (vs : List Value) : Prop :=
  ∃ document text,
    payload.get? (contextsKey encode) = some (.str text)
      ∧ payloadText encode (.object document) = .ok text
      ∧ (Value.object document).field? "dt" = some (.list vs)

def Progress.Gathers (encode : Bool) (p : Progress) (vs : List Value) : Prop :=
  match p.contexts with
  | some document => (Value.object document).field? "dt" = some (.list vs)
  | none => carriedEntities encode p.pairs = vs

theorem carriedEntities_eq (encode : Bool) (pairs : Pairs) :
    carriedEntities encode pairs = (carried encode pairs).entities := by
  cases hget : pairs.get? (contextsKey encode) with
  | none => simp [carriedEntities, carried, hget, Carried.entities]
  | some v =>
    cases v with
    | str text =>
      rw [carried_of_text hget, carriedEntities, hget]
      dsimp only
      unfold textEntities
      cases textValue? encode text with
      | none => rfl
      | some v => cases v <;> rfl
    | _ => simp [carriedEntities, carried, hget, Carried.entities]

theorem carriedEntities_congr {pairs pairs' : Pairs}
    (h : pairs.get? (contextsKey encode) = pairs'.get? (contextsKey encode)) :
    carriedEntities encode pairs = carriedEntities encode pairs' := by
  rw [carriedEntities, h]
  rfl

theorem documentEntities_of_field? {es : List (Value × Value)}
    (h : (Value.object es).field? "dt" = some (.list vs)) : documentEntities es = vs := by
  rw [documentEntities, h]
  rfl

theorem field?_normalize (es : List (Value × Value)) :
    (Value.object (normalize es)).field? "dt" = some (.list (documentEntities es)) := by
  simp [normalize, Value.field?, Value.isKey]

theorem Progress.Gathers.combine (h : p.Gathers encode vs) (more : List (Value × Value)) :
    (Processing.combine encode p more).Gathers encode (vs ++ documentEntities more) := by
  unfold Processing.combine
  unfold Progress.Gathers at h
  cases hcontexts : p.contexts with
  | some document =>
    simp only [hcontexts] at h
    rw [← documentEntities_of_field? h]
    exact Value.field?_setEntry_self
  | none =>
    simp only [hcontexts, carriedEntities_eq] at h
    cases hcarried : Processing.carried encode p.pairs with
    | document document =>
      rw [hcarried] at h
      rw [← h]
      exact Value.field?_setEntry_self
    | nothing | unreadable =>
      rw [hcarried] at h
      rw [← h]
      exact field?_normalize more

/-- Whether no waiting object but contexts documents is to be written under the plain contexts key. -/
def LeavesContexts (ds : List Deferred) : Prop :=
  ∀ d ∈ ds, isContexts d = false → d.keyIfPlain ≠ plainContextsKey

theorem chosenKey_ne_contextsKey (encode : Bool) {d : Deferred} (hd : isContexts d = false)
    (hplain : d.keyIfPlain ≠ plainContextsKey) : chosenKey encode d ≠ contextsKey encode := by
  cases encode with
  | false => exact hplain
  | true => simpa [isContexts, chosenKey, contextsKey] using hd

theorem contextsKey_not_mem_keys_writes {ds : List Deferred} (hds : LeavesContexts ds) :
    contextsKey encode ∉ (writes encode ds).keys := by
  rw [mem_keys_writes]
  rintro ⟨d, hd, hcontexts, heq⟩
  exact chosenKey_ne_contextsKey encode hcontexts (hds d hd hcontexts) heq

theorem get?_pairsAtMerge {ds : List Deferred} (hds : LeavesContexts ds) (ps : Pairs) :
    (pairsAtMerge encode ds ps).get? (contextsKey encode) = ps.get? (contextsKey encode) := by
  apply Pairs.get?_setAll_of_not_mem
  apply contextsKey_not_mem_keys_writes
  intro d hd
  exact hds d ((List.takeWhile_prefix _).subset hd)

theorem readsContexts_of_get? {b : Builder} (hds : LeavesContexts b.deferred)
    (hget : ∀ text, b.pairs.get? (contextsKey encode) ≠ some (.str text)) : ReadsContexts encode b := by
  intro _
  rw [overflow?_congr (get?_pairsAtMerge hds b.pairs)]
  exact overflow?_of_not_text hget

theorem deferredEntities_cons (d : Deferred) (ds : List Deferred) :
    deferredEntities (d :: ds)
      =
    (if isContexts d then documentEntities d.entries else []) ++ deferredEntities ds := by
  unfold deferredEntities
  cases hd : isContexts d <;> simp [hd]

theorem Progress.Gathers.after {d : Deferred} (h : p.Gathers encode vs)
    (hplain : isContexts d = false → d.keyIfPlain ≠ plainContextsKey) :
    (p.after encode d).Gathers encode
      (vs ++ if isContexts d then documentEntities d.entries else []) := by
  unfold Progress.after
  split
  . exact h.combine d.entries
  . next hd =>
    rw [Bool.not_eq_true] at hd
    have hkey := chosenKey_ne_contextsKey encode hd (hplain hd)
    rw [List.append_nil]
    unfold Progress.Gathers at h ⊢
    cases hcontexts : p.contexts with
    | some document => simpa [hcontexts] using h
    | none =>
      simp only [hcontexts] at h
      simpa only [carriedEntities, Pairs.get?_set_of_ne hkey.symm] using h

theorem Progress.Gathers.foldl_after {ds : List Deferred} (h : p.Gathers encode vs)
    (hds : LeavesContexts ds) :
    (ds.foldl (Progress.after encode) p).Gathers encode (vs ++ deferredEntities ds) := by
  -- The invariant is what has been gathered so far, so the induction is for any progress.
  induction ds generalizing p vs with
  | nil => simpa [deferredEntities] using h
  | cons d ds ih =>
    obtain ⟨hd, hds⟩ := List.forall_mem_cons.1 hds
    rw [deferredEntities_cons, ← List.append_assoc]
    exact ih (h.after hd) hds

theorem gathers_ofBuilder (encode : Bool) {b : Builder} (hds : LeavesContexts b.deferred) :
    (Progress.ofBuilder encode b).Gathers encode
      (carriedEntities encode b.pairs ++ deferredEntities b.deferred ++ b.entities) := by
  have hstart : (Progress.mk b.pairs none 0).Gathers encode (carriedEntities encode b.pairs) := rfl
  have hsteps := hstart.foldl_after hds
  unfold Progress.ofBuilder
  dsimp only
  split
  . next hentities =>
    rw [List.isEmpty_iff] at hentities
    simpa [hentities] using hsteps
  . simpa [documentEntities_wrap] using hsteps.combine (wrap b.entities)

/-! ### Whether there is a contexts document -/

theorem contexts_ofBuilder_ne_none {b : Builder} (h : MergesContexts b) :
    (Progress.ofBuilder encode b).contexts ≠ none := by
  rw [(ofBuilder_contexts encode b).1]
  cases hdocuments : contextsDocuments (pending b) with
  | nil => exact absurd hdocuments (contextsDocuments_pending_ne_nil h)
  | cons => exact Option.some_ne_none _

theorem contexts_ofBuilder_eq_none {b : Builder} (hds : ∀ d ∈ b.deferred, isContexts d = false)
    (hentities : b.entities = []) : (Progress.ofBuilder encode b).contexts = none := by
  have hnone : ¬ MergesContexts b := by
    rintro (⟨d, hd, hcontexts⟩ | hsome)
    . exact Bool.false_ne_true ((hds d hd).symm.trans hcontexts)
    . exact hsome hentities
  rw [(ofBuilder_contexts encode b).1, contextsDocuments_pending_eq_nil hnone]
  rfl

end Processing

namespace Builder

open Processing

variable {σ : Type} {encode : Bool} {b : Builder}

theorem holdsContexts_standardPayload (h : HasDocuments b) (hds : LeavesContexts b.deferred)
    (hsome : (∃ d ∈ b.deferred, isContexts d = true) ∨ b.entities ≠ []) :
    HoldsContexts encode (b.standardPayload encode)
      (carriedEntities encode b.pairs ++ deferredEntities b.deferred ++ b.entities) := by
  have hgathers := gathers_ofBuilder encode hds
  have hserializable := h.isSerializable_ofBuilder encode
  unfold Progress.Gathers at hgathers
  unfold standardPayload Progress.written
  cases hdocument : (Progress.ofBuilder encode b).contexts with
  | none => exact absurd hdocument (contexts_ofBuilder_ne_none hsome)
  | some document =>
    simp only [hdocument] at hgathers
    have htext : payloadText encode (.object document) = .ok (textOf encode (.object document)) :=
      payloadText_eq_ok (Value.isSerializable_object.2 (hserializable document hdocument))
    exact ⟨document, _, Pairs.get?_set_self _ _ _, htext, hgathers⟩

theorem get?_contextsKey_standardPayload (hds : LeavesContexts b.deferred)
    (hnone : ∀ d ∈ b.deferred, isContexts d = false) (hentities : b.entities = []) :
    (b.standardPayload encode).get? (contextsKey encode) = b.pairs.get? (contextsKey encode) := by
  rw [standardPayload, Progress.written, contexts_ofBuilder_eq_none hnone hentities, pairs_ofBuilder]
  exact Pairs.get?_setAll_of_not_mem (contextsKey_not_mem_keys_writes hds) b.pairs

/-- A build writes all entities in their order, and without any it leaves the contexts key alone. -/
theorem build_contexts (process : ProcessorBehaviour σ) (s : Session σ) (hopen : b.built = none)
    (hprocessor : b.processor = some (.standard encode)) (h : IsBuildable encode b)
    (hds : LeavesContexts b.deferred) :
    ∃ payload b' s', build process (b, s) = (.ok payload, b', s')
      ∧ (((∃ d ∈ b.deferred, isContexts d = true) ∨ b.entities ≠ []) →
          HoldsContexts encode payload
            (carriedEntities encode b.pairs ++ deferredEntities b.deferred ++ b.entities))
      ∧ ((∀ d ∈ b.deferred, isContexts d = false) → b.entities = [] →
          payload.get? (contextsKey encode) = b.pairs.get? (contextsKey encode)) := by
  obtain ⟨s', hbuild, _⟩ := build_run process hopen hprocessor h s
  exact ⟨_, _, s', hbuild, holdsContexts_standardPayload h.toHasDocuments hds,
    get?_contextsKey_standardPayload hds⟩

def threeSources : Builder where
  pairs := [("co", .str ((Json.obj [("dt", .arr [.str "carried"])]).render .compact))]
  deferred := [⟨"cx", "co", [(.str "dt", .list [.str "waiting"])]⟩]
  entities := [.str "own"]
  processor := some (.standard false)
  built := none

theorem carriedEntities_threeSources :
    carriedEntities false threeSources.pairs = [.str "carried"] := by
  have hparse : Json.parse? ((Json.obj [("dt", .arr [.str "carried"])]).render .compact)
      = some (.obj [("dt", .arr [.str "carried"])]) := Json.parse?_render .compact rfl
  simp [carriedEntities, threeSources, Pairs.get?, contextsKey, plainContextsKey, textEntities,
    textValue?, hparse]
  rfl

theorem hasDocuments_threeSources : HasDocuments threeSources where
  deferred := by
    simp only [threeSources, List.forall_mem_singleton]
    exact ⟨.obj [("dt", .arr [.str "waiting"])], rfl⟩
  entities := by
    simp only [threeSources, List.forall_mem_singleton]
    exact Value.isSerializable_str "own"

theorem isBuildable_threeSources : IsBuildable false threeSources where
  toHasDocuments := hasDocuments_threeSources
  reads := fun _ => (overflow?_plain rfl).trans (Json.overflow?_of_length_le (by decide +kernel))

theorem build_contexts_threeSources :
    ∃ payload b' s',
      build (fun _ _ _ => pure .null) (threeSources, .initial () (.whole 0) "" toString)
        = (.ok payload, b', s')
      ∧ HoldsContexts false payload [.str "carried", .str "waiting", .str "own"] := by
  have hds : LeavesContexts threeSources.deferred := by
    intro d hd hcontexts
    rw [List.mem_singleton.1 hd] at hcontexts
    cases hcontexts
  obtain ⟨payload, b', s', hbuild, hmerged, _⟩ :=
    build_contexts (fun _ _ _ => pure .null) (.initial () (.whole 0) "" toString) rfl rfl
      isBuildable_threeSources hds
  refine ⟨payload, b', s', hbuild, ?_⟩
  have hthree := hmerged (Or.inr (by simp [threeSources]))
  rw [carriedEntities_threeSources] at hthree
  exact hthree

end Builder

end EventTracking
