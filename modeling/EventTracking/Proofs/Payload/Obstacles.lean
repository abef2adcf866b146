import EventTracking.Proofs.Payload.Frozen

/-!
This module contains the failures of a build: an entity that has no document keeps the contexts document from
being written, whatever is merged into it, and a text that is nested too deeply keeps it from being merged.
-/

namespace EventTracking

namespace Processing

variable {encode : Bool} {b : Builder} {v : Value}

theorem write_eq_error {o : Json.Obstacle} (key : String) (h : Json.ofData v = .error o) (p : Progress) :
    write encode key v p = (.error (.notData o), p) := by
  rw [write, payloadText, h]
  rfl

theorem write_of_obstacle (encode : Bool) (key : String) (h : ¬ v.IsSerializable) (p : Progress) :
    ∃ o, write encode key v p = (.error (.notData o), p) := by
  cases hv : Json.ofData v with
  | ok j => exact absurd ⟨j, hv⟩ h
  | error o => exact ⟨o, write_eq_error key hv p⟩

theorem field?_combine (encode : Bool) (p : Progress) (more : List (Value × Value)) :
    ∃ document before, (combine encode p more).contexts = some document
      ∧ (Value.object document).field? "dt" = some (.list (before ++ documentEntities more)) := by
  have hnormalized : ∀ es, (Value.object (normalize es)).field? "dt"
      = some (.list ([] ++ documentEntities es)) := by
    intro es
    simp [normalize, Value.field?, Value.isKey]
  unfold combine
  split
  . exact ⟨_, _, rfl, Value.field?_setEntry_self⟩
  . split
    . exact ⟨_, _, rfl, Value.field?_setEntry_self⟩
    . exact ⟨_, [], rfl, hnormalized more⟩
    . exact ⟨_, [], rfl, hnormalized more⟩

theorem not_isSerializable_ofBuilder (encode : Bool) (hv : v ∈ b.entities) (hobstacle : ¬ v.IsSerializable) :
    ∃ document, (Progress.ofBuilder encode b).contexts = some document
      ∧ ¬ (Value.object document).IsSerializable := by
  have hne : b.entities.isEmpty = false := List.isEmpty_eq_false_iff.2 (List.ne_nil_of_mem hv)
  obtain ⟨document, before, hcontexts, hentities⟩ :=
    field?_combine encode (b.deferred.foldl (Progress.after encode) ⟨b.pairs, none, 0⟩) (wrap b.entities)
  refine ⟨document, ?_, fun h => ?_⟩
  . rw [Progress.ofBuilder, hne]
    exact hcontexts
  . have hlist := Value.hereditary_isSerializable.of_field? h hentities
    rw [documentEntities_wrap] at hlist
    exact hobstacle (Value.isSerializable_list.1 hlist v (List.mem_append_right before hv))

theorem process_of_document (hown : ∀ d ∈ b.deferred, isContexts d = false → d.json.IsSerializable)
    (hreads : ReadsContexts encode b) {document : List (Value × Value)}
    (hcontexts : (Progress.ofBuilder encode b).contexts = some document)
    (hdocument : ¬ (Value.object document).IsSerializable) :
    ∃ o, process encode b.deferred b.entities ⟨b.pairs, none, 0⟩
      =
    (.error (.notData o), Progress.ofBuilder encode b) := by
  obtain ⟨o, hwrite⟩ := write_of_obstacle encode (contextsKey encode) hdocument (Progress.ofBuilder encode b)
  refine ⟨o, ?_⟩
  rw [process_of_own hown hreads, writeContexts, Act.bind_run Act.get_run, hcontexts]
  exact hwrite

end Processing

namespace Builder

open Processing (ReadsContexts Overflows)

variable {σ : Type} {b : Builder} {v : Value} {encode : Bool}

theorem build_of_obstacle (process : ProcessorBehaviour σ) (hopen : b.built = none)
    (hprocessor : b.processor = some (.standard encode)) (hdeferred : ∀ d ∈ b.deferred, d.json.IsSerializable)
    (hreads : ReadsContexts encode b) (hv : v ∈ b.entities) (hobstacle : ¬ v.IsSerializable) (s : Session σ) :
    ∃ o b' s', build process (b, s) = (.error (.notData o), b', s') := by
  obtain ⟨document, hcontexts, hdocument⟩ :=
    Processing.not_isSerializable_ofBuilder encode hv hobstacle
  obtain ⟨o, hprocess⟩ :=
    Processing.process_of_document (fun d hd _ => hdeferred d hd) hreads hcontexts hdocument
  exact ⟨o, _, _, build_of_raised hopen (runInstalled_of_process process hprocessor hprocess s)⟩

theorem build_of_overflow (process : ProcessorBehaviour σ) (hopen : b.built = none)
    (hprocessor : b.processor = some (.standard encode)) (hdeferred : ∀ d ∈ b.deferred, d.json.IsSerializable)
    {bracket : Json.Bracket} (hoverflows : Overflows encode bracket b) (s : Session σ) :
    build process (b, s)
      =
    (.error (.nestedTooDeep bracket),
      { b with pairs := Processing.pairsAtMerge encode b.deferred b.pairs }, s) := by
  have hprocess := Processing.process_of_overflow
    (fun d hd => hdeferred d ((List.takeWhile_prefix _).subset hd)) hoverflows
  rw [build_of_raised hopen (runInstalled_of_process process hprocessor hprocess s), List.replicate_zero,
    List.append_nil]

def nested : Builder where
  pairs := [("co", .str (Json.nestedText 2000))]
  deferred := []
  entities := [.str "own"]
  processor := some (.standard false)
  built := none

theorem hasDocuments_nested : Processing.HasDocuments nested where
  deferred := by simp [nested]
  entities := List.forall_mem_singleton.2 (Value.isSerializable_str "own")

theorem overflows_nested : Overflows false .array nested := by
  have hget : nested.pairs.get? Processing.plainContextsKey = some (.str (Json.nestedText 2000)) := rfl
  refine ⟨Or.inr (List.cons_ne_nil _ _), ?_⟩
  rw [Processing.pairsAtMerge, nested, List.takeWhile_nil]
  exact (Processing.overflow?_plain hget).trans (Json.overflow?_nestedText (by decide))

end Builder

end EventTracking
