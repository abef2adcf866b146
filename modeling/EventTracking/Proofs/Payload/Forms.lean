import EventTracking.Proofs.Payload.Encodings
import EventTracking.Proofs.Payload.Success

/-!
This module contains the theorem on the two contexts keys: a build merges into the document under the key
of its own form, and what stands under the key of the other form is left as it is.
-/

namespace EventTracking

namespace Processing

variable {encode : Bool} {b : Builder}

def HasOneForm (payload : Pairs) : Prop :=
  encodedContextsKey ∈ payload.keys ↔ plainContextsKey ∉ payload.keys

/-- Whether the contexts key of the other form is in use: by a pair or by an object that waits. -/
def UsesOtherForm (encode : Bool) (b : Builder) : Prop :=
  contextsKey (!encode) ∈ b.pairs.keys
    ∨ ∃ d ∈ b.deferred, isContexts d = false ∧ chosenKey encode d = contextsKey (!encode)

theorem contextsKey_not_ne (encode : Bool) : contextsKey (!encode) ≠ contextsKey encode := by
  cases encode <;> decide

theorem hasOneForm_iff {payload : Pairs} (h : contextsKey encode ∈ payload.keys) :
    HasOneForm payload ↔ contextsKey (!encode) ∉ payload.keys := by
  unfold HasOneForm
  cases encode with
  | true => exact iff_true_left h
  | false => exact ⟨fun hone hother => hone.1 hother h, fun hother => iff_of_false hother (not_not.2 h)⟩

theorem contextsKey_mem_keys_of_holds {payload : Pairs} {vs : List Value}
    (h : HoldsContexts encode payload vs) : contextsKey encode ∈ payload.keys := by
  obtain ⟨_, _, hget, _⟩ := h
  by_contra hkey
  rw [← Pairs.get?_eq_none_iff, hget] at hkey
  cases hkey

end Processing

namespace Builder

open Processing

variable {σ : Type} {encode : Bool} {b : Builder}

theorem otherKey_mem_keys_iff (encode : Bool) (b : Builder) :
    contextsKey (!encode) ∈ (b.standardPayload encode).keys ↔ UsesOtherForm encode b := by
  have hget := get?_standardPayload encode (contextsKey_not_ne encode) b
  rw [UsesOtherForm, ← not_iff_not, ← Pairs.get?_eq_none_iff, hget, not_or,
    ← Pairs.get?_eq_none_iff, Option.or_eq_none_iff, Option.map_eq_none_iff, and_comm]
  apply and_congr_right'
  constructor
  . intro hnone hchosen
    obtain ⟨d, hlast⟩ := exists_lastChosen hchosen
    rw [hnone] at hlast
    cases hlast
  . intro hnone
    rw [Option.eq_none_iff_forall_ne_some]
    intro d hlast
    exact hnone ⟨d, mem_of_lastChosen hlast, chosen_of_lastChosen hlast⟩

/--
A build that merges contexts has one document of them, under the key of its form, with the entities of
what the payload carries in that form. The payload has that key alone unless the other one is in use.
-/
theorem build_forms (process : ProcessorBehaviour σ) (s : Session σ) (hopen : b.built = none)
    (hprocessor : b.processor = some (.standard encode)) (h : IsBuildable encode b)
    (hmerges : MergesContexts b) :
    ∃ payload b' s', build process (b, s) = (.ok payload, b', s')
      ∧ HoldsContexts encode payload
          ((carried encode (pairsAtMerge encode b.deferred b.pairs)).entities
            ++ (deferredEntities b.deferred ++ b.entities))
      ∧ (HasOneForm payload ↔ ¬ UsesOtherForm encode b) := by
  obtain ⟨s', hbuild, _⟩ := build_run process hopen hprocessor h s
  have hholds : HoldsContexts encode (b.standardPayload encode) _ :=
    holdsContexts_of_merges h.toHasDocuments hmerges
  refine ⟨_, _, s', hbuild, hholds, ?_⟩
  rw [hasOneForm_iff (contextsKey_mem_keys_of_holds hholds), otherKey_mem_keys_iff]

theorem build_forms_threeSources :
    ∃ payload b' s',
      build (fun _ _ _ => pure .null) (threeSources, .initial () (.whole 0) "" toString)
        = (.ok payload, b', s')
      ∧ HoldsContexts false payload [.str "carried", .str "waiting", .str "own"]
      ∧ HasOneForm payload := by
  obtain ⟨payload, b', s', hbuild, hholds, hone⟩ :=
    build_forms (fun _ _ _ => pure .null) (.initial () (.whole 0) "" toString) rfl rfl
      isBuildable_threeSources (Or.inr (List.cons_ne_nil _ _))
  have hpairs : pairsAtMerge false threeSources.deferred threeSources.pairs = threeSources.pairs := rfl
  rw [hpairs, ← carriedEntities_eq, carriedEntities_threeSources] at hholds
  refine ⟨payload, b', s', hbuild, hholds, hone.2 ?_⟩
  simp [UsesOtherForm, threeSources, contextsKey, encodedContextsKey, Pairs.keys, isContexts]

def otherForm : Builder := { threeSources with deferred := [], processor := some (.standard true) }

/-- The plain document stays beside the one in base64, which lacks its entity. -/
theorem build_other_form_not_merged :
    otherForm.built = none ∧ otherForm.processor = some (.standard true) ∧ HasDocuments otherForm
      ∧ MergesContexts otherForm
      ∧ carriedEntities false otherForm.pairs = [.str "carried"]
      ∧ ∃ payload b' s',
        build (fun _ _ _ => pure .null) (otherForm, .initial () (.whole 0) "" toString)
          = (.ok payload, b', s')
        ∧ ¬ HasOneForm payload
        ∧ HoldsContexts true payload [.str "own"] := by
  have h : HasDocuments otherForm := ⟨by simp [otherForm], hasDocuments_threeSources.entities⟩
  have hmerges : MergesContexts otherForm := Or.inr (List.cons_ne_nil _ _)
  have hbuildable : IsBuildable true otherForm := h.isBuildable nofun
  obtain ⟨s', hbuild, _⟩ := build_run (fun _ _ _ => pure .null) rfl rfl hbuildable
    (.initial () (.whole 0) "" toString)
  have hholds : HoldsContexts true (otherForm.standardPayload true) [.str "own"] :=
    holdsContexts_of_merges h hmerges
  refine ⟨rfl, rfl, h, hmerges, carriedEntities_threeSources, _, _, s', hbuild, ?_, hholds⟩
  rw [hasOneForm_iff (contextsKey_mem_keys_of_holds hholds), otherKey_mem_keys_iff, not_not]
  exact Or.inl List.mem_cons_self

end Builder

end EventTracking
