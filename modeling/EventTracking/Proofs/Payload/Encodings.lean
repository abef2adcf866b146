import EventTracking.Proofs.Payload.Document

/-!
This module contains the theorem that a build in base64 and a build in plain text differ in the form of
their texts only: each text of the one, decoded, is the text of the other.
-/

namespace EventTracking

namespace Processing

variable {encode : Bool} {b : Builder} {d : Deferred} {ds : List Deferred} {key : String}

theorem textOf_true {v : Value} (h : v.IsSerializable) : textOf true v = Base64.encode (textOf false v) := by
  obtain ⟨j, h⟩ := h
  simp [textOf, payloadText, h, Except.toOption]

theorem decode_textOf {v : Value} (h : v.IsSerializable) :
    Base64.decode (textOf true v) = .ok (textOf false v) := by
  rw [textOf_true h, Base64.decode_encode]

theorem overflow?_of_textOf {v : Value} (h : v.IsSerializable) {ps : Pairs}
    (hget : ps.get? (contextsKey encode) = some (.str (textOf encode v))) :
    overflow? encode ps = Json.overflow? (textOf false v) := by
  rw [overflow?, hget]
  dsimp only
  cases encode with
  | false => rfl
  | true =>
    rw [if_pos rfl, decode_textOf h]
    rfl

theorem chosen_of_lastChosen (h : lastChosen encode key ds = some d) :
    isContexts d = false ∧ chosenKey encode d = key := by
  have hmem := (List.mem_filter.1 (List.mem_of_getLast? h)).2
  simpa using hmem

/--
Whether the keys of a builder let its two payloads be compared: the pairs use no key of a text, what
waits shares both keys or none, and it leaves the plain contexts key alone.
-/
structure KeysApart (b : Builder) : Prop where
  contexts : ∀ key ∈ b.pairs.keys, key ≠ encodedContextsKey ∧ key ≠ plainContextsKey
  pairs : ∀ key ∈ b.pairs.keys, ∀ d ∈ b.deferred, isContexts d = false →
    key ≠ d.keyIfEncoded ∧ key ≠ d.keyIfPlain
  shared : ∀ d ∈ b.deferred, ∀ e ∈ b.deferred, isContexts d = false → isContexts e = false →
    (d.keyIfEncoded = e.keyIfEncoded ↔ d.keyIfPlain = e.keyIfPlain)
  plain : LeavesContexts b.deferred

namespace KeysApart

theorem ne_contextsKey (h : KeysApart b) (encode : Bool) (hkey : key ∈ b.pairs.keys) :
    key ≠ contextsKey encode := by
  cases encode with
  | true => exact (h.contexts key hkey).1
  | false => exact (h.contexts key hkey).2

theorem get?_contextsKey (h : KeysApart b) (encode : Bool) : b.pairs.get? (contextsKey encode) = none := by
  rw [Pairs.get?_eq_none_iff]
  intro hkey
  exact h.ne_contextsKey encode hkey rfl

theorem lastChosen_eq_none (h : KeysApart b) (encode : Bool) (hkey : key ∈ b.pairs.keys) :
    lastChosen encode key b.deferred = none := by
  cases hlast : lastChosen encode key b.deferred with
  | none => rfl
  | some d =>
    obtain ⟨hcontexts, hchosen⟩ := chosen_of_lastChosen hlast
    obtain ⟨hencoded, hplain⟩ := h.pairs key hkey d (mem_of_lastChosen hlast) hcontexts
    cases encode with
    | true => exact absurd hchosen.symm hencoded
    | false => exact absurd hchosen.symm hplain

theorem lastChosen_eq (h : KeysApart b) (hd : d ∈ b.deferred) (hcontexts : isContexts d = false)
    (encode : Bool) :
    lastChosen encode (chosenKey encode d) b.deferred = lastChosen true (chosenKey true d) b.deferred := by
  cases encode with
  | true => rfl
  | false =>
    -- Objects that share a key in one form share it in the other, so both filters keep the same.
    unfold lastChosen
    congr 1
    apply List.filter_congr
    intro e he
    cases hother : isContexts e with
    | true => rfl
    | false =>
      have hshared := h.shared e he d hd hother hcontexts
      simp only [chosenKey, Bool.not_false, Bool.true_and, if_true, Bool.false_eq_true, if_false]
      rw [Bool.eq_iff_iff, beq_iff_eq, beq_iff_eq, hshared]

end KeysApart

def Decodes (encoded plain : Pairs) (keyIfEncoded keyIfPlain : String) : Prop :=
  ∃ code text, encoded.get? keyIfEncoded = some (.str code) ∧ plain.get? keyIfPlain = some (.str text)
    ∧ Base64.decode code = .ok text

structure SaysTheSame (b : Builder) (encoded plain : Pairs) : Prop where
  pairs : ∀ key ∈ b.pairs.keys,
    encoded.get? key = b.pairs.get? key ∧ plain.get? key = b.pairs.get? key
  deferred : ∀ d ∈ b.deferred, isContexts d = false →
    Decodes encoded plain d.keyIfEncoded d.keyIfPlain
  contexts_iff : encodedContextsKey ∈ encoded.keys ↔ plainContextsKey ∈ plain.keys
  contexts : encodedContextsKey ∈ encoded.keys →
    Decodes encoded plain encodedContextsKey plainContextsKey
  encodedKeys : ∀ key ∈ encoded.keys, key ∈ b.pairs.keys ∨ key = encodedContextsKey
    ∨ ∃ d ∈ b.deferred, isContexts d = false ∧ d.keyIfEncoded = key
  plainKeys : ∀ key ∈ plain.keys, key ∈ b.pairs.keys ∨ key = plainContextsKey
    ∨ ∃ d ∈ b.deferred, isContexts d = false ∧ d.keyIfPlain = key

end Processing

namespace Builder

open Processing

variable {σ : Type} {b : Builder} {d : Deferred} {key : String}

theorem get?_standardPayload_of_mem (h : KeysApart b) (encode : Bool) (hkey : key ∈ b.pairs.keys) :
    (b.standardPayload encode).get? key = b.pairs.get? key := by
  rw [get?_standardPayload encode (h.ne_contextsKey encode hkey), h.lastChosen_eq_none encode hkey]
  rfl

theorem get?_chosenKey (h : KeysApart b) (hd : d ∈ b.deferred) (hcontexts : isContexts d = false) :
    ∃ e ∈ b.deferred, ∀ encode,
      (b.standardPayload encode).get? (chosenKey encode d) = some (.str (textOf encode e.json)) := by
  have hchosen : ∃ e ∈ b.deferred, isContexts e = false ∧ chosenKey true e = chosenKey true d :=
    ⟨d, hd, hcontexts, rfl⟩
  obtain ⟨e, hlast⟩ := exists_lastChosen hchosen
  refine ⟨e, mem_of_lastChosen hlast, ?_⟩
  intro encode
  have hkey := chosenKey_ne_contextsKey encode hcontexts (h.plain d hd hcontexts)
  rw [get?_standardPayload encode hkey, h.lastChosen_eq hd hcontexts encode, hlast]
  rfl

theorem get?_contextsKey_apart (h : KeysApart b) (encode : Bool) :
    (b.standardPayload encode).get? (contextsKey encode)
      =
    (merged .nothing (contextsDocuments (pending b))).map
      fun document => .str (textOf encode (.object document)) := by
  have hnone := h.get?_contextsKey encode
  have hcarried : carried encode b.pairs = .nothing := by rw [carried, hnone]
  rw [get?_contextsKey_of_leavesContexts encode h.plain, hcarried, hnone, Option.or_none]

theorem contextsKey_mem_keys_iff (h : KeysApart b) (encode : Bool) :
    contextsKey encode ∈ (b.standardPayload encode).keys
      ↔
    ∃ document, merged .nothing (contextsDocuments (pending b)) = some document := by
  rw [← not_iff_not, ← Pairs.get?_eq_none_iff, get?_contextsKey_apart h, Option.map_eq_none_iff,
    Option.eq_none_iff_forall_ne_some, not_exists]

theorem isSerializable_merged (h : KeysApart b) (hdocuments : HasDocuments b)
    {document : List (Value × Value)}
    (hmerged : merged .nothing (contextsDocuments (pending b)) = some document) :
    (Value.object document).IsSerializable := by
  have hcontexts := (ofBuilder_contexts true b).1
  have hcarried : carried true (pairsAtMerge true b.deferred b.pairs) = .nothing := by
    rw [carried, get?_pairsAtMerge h.plain, h.get?_contextsKey true]
  rw [hcarried, hmerged] at hcontexts
  exact Value.isSerializable_object.2 (hdocuments.isSerializable_ofBuilder true document hcontexts)

theorem mem_keys_standardPayload (encode : Bool) (hkey : key ∈ (b.standardPayload encode).keys) :
    key ∈ b.pairs.keys ∨ key = contextsKey encode
      ∨ ∃ d ∈ b.deferred, isContexts d = false ∧ chosenKey encode d = key := by
  by_cases hcontexts : key = contextsKey encode
  . exact Or.inr (Or.inl hcontexts)
  cases hlast : lastChosen encode key b.deferred with
  | some d => exact Or.inr (Or.inr ⟨d, mem_of_lastChosen hlast, chosen_of_lastChosen hlast⟩)
  | none =>
    left
    have hget := get?_standardPayload encode hcontexts b
    rw [hlast, Option.map_none, Option.none_or] at hget
    rw [← not_not (a := key ∈ b.pairs.keys), ← Pairs.get?_eq_none_iff, ← hget, Pairs.get?_eq_none_iff]
    exact not_not_intro hkey

theorem saysTheSame_standardPayload (h : KeysApart b) (hdocuments : HasDocuments b) :
    SaysTheSame b (b.standardPayload true) (b.standardPayload false) where
  pairs key hkey := ⟨get?_standardPayload_of_mem h true hkey, get?_standardPayload_of_mem h false hkey⟩
  deferred d hd hcontexts := by
    obtain ⟨e, he, hget⟩ := get?_chosenKey h hd hcontexts
    exact ⟨_, _, hget true, hget false, decode_textOf (hdocuments.deferred e he)⟩
  contexts_iff := (contextsKey_mem_keys_iff h true).trans (contextsKey_mem_keys_iff h false).symm
  contexts hkey := by
    obtain ⟨document, hmerged⟩ := (contextsKey_mem_keys_iff h true).1 hkey
    have hget := get?_contextsKey_apart h
    simp only [hmerged, Option.map_some] at hget
    exact ⟨_, _, hget true, hget false, decode_textOf (isSerializable_merged h hdocuments hmerged)⟩
  encodedKeys _ := mem_keys_standardPayload true
  plainKeys _ := mem_keys_standardPayload false

theorem isBuildable_of_keysApart (h : KeysApart b) (hdocuments : HasDocuments b) (encode : Bool) :
    IsBuildable encode { b with processor := some (.standard encode) } := by
  have hkept : HasDocuments { b with processor := some (.standard encode) } :=
    ⟨hdocuments.deferred, hdocuments.entities⟩
  apply hkept.isBuildable
  intro text
  rw [get?_pairsAtMerge h.plain, h.get?_contextsKey encode]
  exact (Option.some_ne_none _).symm

/-- The choice of base64 changes the form of the texts on a payload and nothing else. -/
theorem build_encodings (process : ProcessorBehaviour σ) (s : Session σ) (hopen : b.built = none)
    (hdocuments : HasDocuments b) (h : KeysApart b) :
    ∃ encoded plain b₁ b₂ s₁ s₂,
      build process ({ b with processor := some (.standard true) }, s) = (.ok encoded, b₁, s₁)
      ∧ build process ({ b with processor := some (.standard false) }, s) = (.ok plain, b₂, s₂)
      ∧ SaysTheSame b encoded plain := by
  have hrun : ∀ encode, ∃ b' s',
      build process ({ b with processor := some (.standard encode) }, s)
        = (.ok (b.standardPayload encode), b', s') := by
    intro encode
    obtain ⟨s', hbuild, _⟩ := build_run (b := { b with processor := some (.standard encode) }) process
      hopen rfl (isBuildable_of_keysApart h hdocuments encode) s
    exact ⟨_, s', hbuild⟩
  obtain ⟨b₁, s₁, hencoded⟩ := hrun true
  obtain ⟨b₂, s₂, hplain⟩ := hrun false
  exact ⟨_, _, b₁, b₂, s₁, s₂, hencoded, hplain, saysTheSame_standardPayload h hdocuments⟩

def sharedKeys : Builder where
  pairs := [("e", .str "ue")]
  deferred :=
    [⟨"ue_px", "ue_pr", [(.str "a", .str "first")]⟩, ⟨"cx", "ue_pr", [(.str "dt", .list [.null])]⟩,
      ⟨"ue_px", "ue_pr", [(.str "a", .str "ü")]⟩]
  entities := [.str "own"]
  processor := none
  built := none

theorem hasDocuments_sharedKeys : HasDocuments sharedKeys where
  deferred := by
    simp only [sharedKeys, List.forall_mem_cons, List.not_mem_nil, false_implies, implies_true, and_true]
    exact ⟨⟨.obj [("a", .str "first")], rfl⟩, ⟨.obj [("dt", .arr [.null])], rfl⟩,
      ⟨.obj [("a", .str "ü")], rfl⟩⟩
  entities := List.forall_mem_singleton.2 (Value.isSerializable_str "own")

theorem keysApart_sharedKeys : KeysApart sharedKeys where
  contexts := by
    simp [sharedKeys, Pairs.keys, encodedContextsKey, plainContextsKey]
  pairs := by
    simp [sharedKeys, Pairs.keys]
  shared := by
    simp [sharedKeys, isContexts, encodedContextsKey]
  plain := by
    simp [sharedKeys, LeavesContexts, isContexts, encodedContextsKey, plainContextsKey]

theorem build_encodings_sharedKeys :
    ∃ encoded plain b₁ b₂ s₁ s₂,
      build (fun _ _ _ => pure .null)
          ({ sharedKeys with processor := some (.standard true) }, .initial () (.whole 0) "" toString)
        = (.ok encoded, b₁, s₁)
      ∧ build (fun _ _ _ => pure .null)
          ({ sharedKeys with processor := some (.standard false) }, .initial () (.whole 0) "" toString)
        = (.ok plain, b₂, s₂)
      ∧ SaysTheSame sharedKeys encoded plain :=
  build_encodings (fun _ _ _ => pure .null) (.initial () (.whole 0) "" toString) rfl
    hasDocuments_sharedKeys keysApart_sharedKeys

end Builder

end EventTracking
