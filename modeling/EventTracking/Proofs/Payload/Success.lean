import EventTracking.Proofs.Payload.Document
import EventTracking.Proofs.Payload.Obstacles

/-!
This module contains the theorem that a build with standard processing succeeds whatever the payload
carries, unless that is a text which is needed and nested too deeply. A text which is needed and cannot be
read for another reason is replaced, with one warning.
-/

namespace EventTracking

namespace Processing

variable {encode : Bool} {b : Builder}

/-- Whether a build needs a text on the payload that is no base64, no UTF-8 or no JSON. -/
def Misreads (encode : Bool) (b : Builder) : Prop :=
  MergesContexts b ∧ ∃ text,
    (pairsAtMerge encode b.deferred b.pairs).get? (contextsKey encode) = some (.str text)
      ∧ textValue? encode text = none

theorem carried_eq_unreadable_iff {pairs : Pairs} :
    carried encode pairs = .unreadable
      ↔
    ∃ text, pairs.get? (contextsKey encode) = some (.str text) ∧ textValue? encode text = none := by
  cases hget : pairs.get? (contextsKey encode) with
  | none => simp [carried, hget]
  | some v =>
    cases v with
    | str text =>
      rw [carried_of_text hget]
      simp only [Option.some.injEq, Value.str.injEq, exists_eq_left']
      cases textValue? encode text with
      | none => simp
      | some v => cases v <;> simp
    | _ => simp [carried, hget]

theorem misreads_iff :
    Misreads encode b
      ↔
    MergesContexts b ∧ carried encode (pairsAtMerge encode b.deferred b.pairs) = .unreadable := by
  rw [Misreads, carried_eq_unreadable_iff]

theorem unreadable_of_misreads (h : Misreads encode b) : (Progress.ofBuilder encode b).unreadable = 1 := by
  obtain ⟨hmerges, hcarried⟩ := misreads_iff.1 h
  rw [(ofBuilder_contexts encode b).2, hcarried]
  cases hdocuments : contextsDocuments (pending b) with
  | nil => exact absurd hdocuments (contextsDocuments_pending_ne_nil hmerges)
  | cons => rfl

theorem unreadable_of_not_misreads (h : ¬ Misreads encode b) :
    (Progress.ofBuilder encode b).unreadable = 0 := by
  rw [misreads_iff, not_and] at h
  rw [(ofBuilder_contexts encode b).2]
  by_cases hmerges : MergesContexts b
  . have hcarried := h hmerges
    cases contextsDocuments (pending b) with
    | nil => rfl
    | cons =>
      cases hc : carried encode (pairsAtMerge encode b.deferred b.pairs) with
      | unreadable => exact absurd hc hcarried
      | nothing | document => rfl
  . rw [contextsDocuments_pending_eq_nil hmerges]
    rfl

theorem flatMap_contextsDocuments (ds : List Deferred) :
    (contextsDocuments ds).flatMap documentEntities = deferredEntities ds := by
  rw [contextsDocuments, List.flatMap_map]
  rfl

theorem flatMap_pending (b : Builder) :
    (contextsDocuments (pending b)).flatMap documentEntities
      =
    deferredEntities b.deferred ++ b.entities := by
  rw [contextsDocuments_pending, List.flatMap_append, flatMap_contextsDocuments]
  cases hentities : b.entities with
  | nil => simp
  | cons e es => simp [documentEntities_wrap]

end Processing

namespace Builder

open Processing

variable {σ : Type} {encode : Bool} {b : Builder}

theorem holdsContexts_of_merges (h : HasDocuments b) (hmerges : MergesContexts b) :
    HoldsContexts encode (b.standardPayload encode)
      ((carried encode (pairsAtMerge encode b.deferred b.pairs)).entities
        ++ (deferredEntities b.deferred ++ b.entities)) := by
  obtain ⟨document, hmerged, text, hget, htext⟩ := holdsDocument_standardPayload encode h hmerges
  refine ⟨document, text, hget, htext, ?_⟩
  rw [field?_merged hmerged, flatMap_pending]

theorem holdsContexts_of_misreads (h : HasDocuments b) (hmisreads : Misreads encode b) :
    HoldsContexts encode (b.standardPayload encode) (deferredEntities b.deferred ++ b.entities) := by
  obtain ⟨hmerges, hcarried⟩ := misreads_iff.1 hmisreads
  have hholds : HoldsContexts encode (b.standardPayload encode) _ := holdsContexts_of_merges h hmerges
  rw [hcarried] at hholds
  exact hholds

/--
A build succeeds whatever the pairs hold, unless a text that is needed is nested too deeply: then it fails,
and the builder stays open. A text that is needed and cannot be read otherwise is replaced by a document of
what waits, with one warning; without such a text nothing is logged.
-/
theorem build_succeeds_or_overflows (process : ProcessorBehaviour σ) (s : Session σ) (hopen : b.built = none)
    (hprocessor : b.processor = some (.standard encode)) (h : HasDocuments b) :
    (ReadsContexts encode b →
      ∃ payload b' s', build process (b, s) = (.ok payload, b', s')
        ∧ b'.built = some payload
        ∧ (Misreads encode b →
            HoldsContexts encode payload (deferredEntities b.deferred ++ b.entities)
              ∧ s'.records = s.records ++ [unreadableWarning])
        ∧ (¬ Misreads encode b → s'.records = s.records))
    ∧ (∀ bracket, Overflows encode bracket b →
      ∃ b', build process (b, s) = (.error (.nestedTooDeep bracket), b', s) ∧ b'.built = none) := by
  constructor
  . intro hreads
    obtain ⟨s', hbuild, _, hrecords⟩ := build_run process hopen hprocessor ⟨h, hreads⟩ s
    rw [standardRecords] at hrecords
    refine ⟨_, _, s', hbuild, rfl, ?_, ?_⟩
    . intro hmisreads
      rw [unreadable_of_misreads hmisreads] at hrecords
      exact ⟨holdsContexts_of_misreads h hmisreads, hrecords⟩
    . intro hreadable
      rw [unreadable_of_not_misreads hreadable] at hrecords
      rw [hrecords]
      exact List.append_nil s.records
  . intro bracket hoverflows
    exact ⟨_, build_of_overflow process hopen hprocessor h.deferred hoverflows s, hopen⟩

def undecodable : Builder where
  pairs := [("cx", .str "a")]
  deferred := []
  entities := [.str "own"]
  processor := some (.standard true)
  built := none

theorem hasDocuments_undecodable : HasDocuments undecodable where
  deferred := by simp [undecodable]
  entities := by
    simp only [undecodable, List.forall_mem_singleton]
    exact Value.isSerializable_str "own"

theorem misreads_undecodable : Misreads true undecodable :=
  ⟨Or.inr (List.cons_ne_nil _ _), "a", rfl, rfl⟩

theorem build_succeeds_undecodable :
    ∃ payload b' s',
      build (fun _ _ _ => pure .null) (undecodable, .initial () (.whole 0) "" toString)
        = (.ok payload, b', s')
      ∧ b'.built = some payload
      ∧ HoldsContexts true payload [.str "own"]
      ∧ s'.records = [unreadableWarning] := by
  have hreads : ReadsContexts true undecodable := fun _ => rfl
  obtain ⟨hsucceeds, _⟩ :=
    build_succeeds_or_overflows (fun _ _ _ => pure .null) (.initial () (.whole 0) "" toString) rfl rfl
      hasDocuments_undecodable
  obtain ⟨payload, b', s', hbuild, hbuilt, hreplaced, _⟩ := hsucceeds hreads
  obtain ⟨hholds, hrecords⟩ := hreplaced misreads_undecodable
  exact ⟨payload, b', s', hbuild, hbuilt, hholds, hrecords⟩

/-- What waits is written nowhere if the carried text is nested too deeply. -/
theorem build_nested_fails :
    nested.built = none ∧ nested.processor = some (.standard false) ∧ HasDocuments nested
      ∧ ∀ s : Session Unit, ∃ b',
        build (fun _ _ _ => pure .null) (nested, s) = (.error (.nestedTooDeep .array), b', s)
          ∧ b'.built = none :=
  ⟨rfl, rfl, hasDocuments_nested, fun s =>
    ⟨_, build_of_overflow _ rfl rfl hasDocuments_nested.deferred overflows_nested s, rfl⟩⟩

end Builder

end EventTracking
