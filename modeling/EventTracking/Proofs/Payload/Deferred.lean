import EventTracking.Proofs.Base64.RoundTrip
import EventTracking.Proofs.Json.Fields
import EventTracking.Proofs.Payload.Build

/-!
This module contains the theorem that waiting objects survive a build: under each key that objects
choose the last of them is read back, and the pairs that no object chooses stay as they are.
-/

namespace EventTracking

namespace Processing

variable {encode : Bool} {key : String} {ds : List Deferred}

def lastChosen (encode : Bool) (key : String) (ds : List Deferred) : Option Deferred :=
  (ds.filter fun d => !isContexts d && chosenKey encode d == key).getLast?

theorem mem_of_lastChosen {d : Deferred} (h : lastChosen encode key ds = some d) : d ∈ ds :=
  (List.mem_filter.1 (List.mem_of_getLast? h)).1

theorem exists_lastChosen (h : ∃ d ∈ ds, isContexts d = false ∧ chosenKey encode d = key) :
    ∃ d, lastChosen encode key ds = some d := by
  obtain ⟨d, hd, hcontexts, hkey⟩ := h
  have hmem : d ∈ ds.filter fun d => !isContexts d && chosenKey encode d == key := by
    simp [hd, hcontexts, hkey]
  exact ⟨_, List.getLast?_eq_some_getLast (List.ne_nil_of_mem hmem)⟩

theorem textValue?_of_isSerializable {v : Value} (h : v.IsSerializable) :
    textValue? encode (textOf encode v) = v.reread? := by
  obtain ⟨j, hj⟩ := h
  have hparse := Json.parse?_render_of_isWritable .compact (Json.isWritable_of_ofData v j hj)
  have htext : textOf encode v
      = if encode then Base64.encode (j.render .compact) else j.render .compact := by
    rw [textOf, payloadText, hj]
    rfl
  rw [textValue?, htext, Value.reread?_eq_some hj]
  cases encode with
  | false => simp [hparse]
  | true => simp [Base64.decode_encode, Except.toOption, hparse]

theorem textValue?_textOf {v : Value} (hplain : v.isPlain = true) (h : v.IsSerializable) :
    textValue? encode (textOf encode v) = some v.listed := by
  rw [textValue?_of_isSerializable h, Value.reread?_of_isPlain hplain h]

theorem get?_writes (ps : Pairs) :
    (Pairs.setAll (writes encode ds) ps).get? key
      =
    ((lastChosen encode key ds).map fun d => .str (textOf encode d.json)).or (ps.get? key) := by
  have hwrites : (writes encode ds).filter (·.1 == key)
      = (ds.filter fun d => !isContexts d && chosenKey encode d == key).map
          fun d => (chosenKey encode d, .str (textOf encode d.json)) := by
    rw [writes, List.filter_map, List.filter_filter]
    congr 2
    funext d
    exact Bool.and_comm _ _
  rw [Pairs.get?_setAll, hwrites, List.getLast?_map, Option.map_map]
  rfl

end Processing

namespace Builder

open Processing

variable {σ : Type} {encode : Bool} {b : Builder}

theorem get?_standardPayload (encode : Bool) {key : String} (hkey : key ≠ contextsKey encode) (b : Builder) :
    (b.standardPayload encode).get? key
      =
    ((lastChosen encode key b.deferred).map fun d => .str (textOf encode d.json)).or
      (b.pairs.get? key) := by
  rw [standardPayload, get?_written_of_ne hkey, pairs_ofBuilder, get?_writes]

/-- A build writes under each chosen key the last object that chose it, and keeps the other pairs. -/
theorem build_deferred (process : ProcessorBehaviour σ) (s : Session σ) (hopen : b.built = none)
    (hprocessor : b.processor = some (.standard encode)) (h : IsBuildable encode b)
    (hplain : ∀ d ∈ b.deferred, d.json.isPlain = true) :
    ∃ payload b' s', build process (b, s) = (.ok payload, b', s')
      ∧ (∀ key ≠ contextsKey encode,
          (∃ d ∈ b.deferred, isContexts d = false ∧ chosenKey encode d = key) →
            ∃ d text, lastChosen encode key b.deferred = some d
              ∧ payload.get? key = some (.str text)
              ∧ textValue? encode text = some d.json.listed)
      ∧ (∀ key ≠ contextsKey encode,
          (∀ d ∈ b.deferred, isContexts d = false → chosenKey encode d ≠ key) →
            payload.get? key = b.pairs.get? key) := by
  obtain ⟨s', hbuild, _⟩ := build_run process hopen hprocessor h s
  refine ⟨_, _, s', hbuild, ?_, ?_⟩
  . intro key hkey hchosen
    obtain ⟨d, hlast⟩ := exists_lastChosen hchosen
    have hd := mem_of_lastChosen hlast
    refine ⟨d, textOf encode d.json, hlast, ?_, textValue?_textOf (hplain d hd) (h.deferred d hd)⟩
    rw [get?_standardPayload encode hkey, hlast]
    rfl
  . intro key hkey hnone
    have hlast : lastChosen encode key b.deferred = none := by
      simpa [lastChosen] using hnone
    rw [get?_standardPayload encode hkey, hlast]
    rfl

/-- A builder in which an event and a contexts document wait that share their plain key. -/
def sharedKey : Builder where
  pairs := []
  deferred :=
    [⟨"ue_px", "ue_pr", [(.str "a", .str "event")]⟩, ⟨"cx", "ue_pr", [(.str "dt", .list [])]⟩]
  entities := []
  processor := some (.standard false)
  built := none

theorem hasDocuments_sharedKey : HasDocuments sharedKey where
  deferred := by
    simp only [sharedKey, List.forall_mem_cons, List.not_mem_nil, false_implies, implies_true, and_true]
    exact ⟨⟨.obj [("a", .str "event")], rfl⟩, ⟨.obj [("dt", .arr [])], rfl⟩⟩
  entities := by simp [sharedKey]

theorem isBuildable_sharedKey : IsBuildable false sharedKey :=
  ⟨hasDocuments_sharedKey, fun _ => by decide +kernel⟩

theorem isPlain_sharedKey : ∀ d ∈ sharedKey.deferred, d.json.isPlain = true := by
  simp only [sharedKey, List.forall_mem_cons, List.not_mem_nil, false_implies, implies_true, and_true]
  exact ⟨rfl, rfl⟩

theorem build_deferred_sharedKey :
    ∃ payload b' s',
      build (fun _ _ _ => pure .null) (sharedKey, .initial () (.whole 0) "" toString)
        = (.ok payload, b', s')
      ∧ ∃ text, payload.get? "ue_pr" = some (.str text)
        ∧ textValue? false text = some (.object [(.str "a", .str "event")]) := by
  obtain ⟨payload, b', s', hbuild, hread, _⟩ :=
    build_deferred (fun _ _ _ => pure .null) (.initial () (.whole 0) "" toString) rfl rfl
      isBuildable_sharedKey isPlain_sharedKey
  obtain ⟨d, text, hlast, hget, hvalue⟩ := hread "ue_pr" (by decide)
    ⟨_, List.mem_cons_self, rfl, rfl⟩
  cases hlast
  exact ⟨payload, b', s', hbuild, text, hget, hvalue⟩

/-- The later of the two, a contexts document, is not what is read back under their common key. -/
theorem build_last_entry_not_written :
    sharedKey.built = none ∧ sharedKey.processor = some (.standard false)
      ∧ HasDocuments sharedKey
      ∧ (∀ d ∈ sharedKey.deferred, d.json.isPlain = true)
      ∧ (∃ d ∈ sharedKey.deferred, isContexts d = false ∧ chosenKey false d = "ue_pr")
      ∧ "ue_pr" ≠ contextsKey false
      ∧ ∃ payload b' s' d text,
        build (fun _ _ _ => pure .null) (sharedKey, .initial () (.whole 0) "" toString)
          = (.ok payload, b', s')
        ∧ (sharedKey.deferred.filter fun d => chosenKey false d == "ue_pr").getLast? = some d
        ∧ payload.get? "ue_pr" = some (.str text)
        ∧ textValue? false text ≠ some d.json.listed := by
  obtain ⟨s', hbuild, _⟩ := build_run (fun _ _ _ => pure .null) rfl rfl isBuildable_sharedKey
    (.initial () (.whole 0) "" toString)
  have hevent : lastChosen false "ue_pr" sharedKey.deferred
      = some ⟨"ue_px", "ue_pr", [(.str "a", .str "event")]⟩ := rfl
  have hget := get?_standardPayload false (by decide : "ue_pr" ≠ contextsKey false) sharedKey
  rw [hevent] at hget
  -- What is read back is the event, which is another object.
  refine ⟨rfl, rfl, hasDocuments_sharedKey, isPlain_sharedKey, ⟨_, List.mem_cons_self, rfl, rfl⟩,
    by decide, _, _, s', ⟨"cx", "ue_pr", [(.str "dt", .list [])]⟩, _, hbuild, rfl, hget, ?_⟩
  rw [textValue?_textOf (isPlain_sharedKey _ List.mem_cons_self)
    (hasDocuments_sharedKey.deferred _ List.mem_cons_self)]
  simp [Deferred.json, Value.listed, Value.listedEntries]

end Builder

end EventTracking
