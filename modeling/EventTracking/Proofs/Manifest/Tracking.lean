import EventTracking.Manifest.Cache
import EventTracking.Proofs.Manifest.Registration
import EventTracking.Proofs.Payload.Obstacles
import EventTracking.Proofs.Payload.Success
import EventTracking.Proofs.Tracker.Contexts

/-!
This module contains the theorem on tracking with a manifest and nothing else: an event is tracked exactly if
the entities of the manifest that apply to it have documents and the text that it carries for contexts is not
nested too deeply, and then they all are in its contexts document. A date in an entity has no document.
-/

namespace EventTracking

open Processing

variable {σ : Type} {users : Users σ}

namespace Tracker

variable {t : Tracker} {r : Registry} {b : Builder} {s : Session σ} {vs : List Value}

/-- Whether nothing but a registry contributes to the events of a tracker. -/
structure OnlyHas (t : Tracker) (r : Registry) : Prop where
  registry : t.registry = r
  plugins : t.plugins = []
  callback : t.callback = .null

def holding (r : Registry) (encode : Bool) : Tracker := ⟨none, .bool encode, [], [], r, .null⟩

theorem onlyHas_holding (r : Registry) (encode : Bool) : (holding r encode).OnlyHas r := ⟨rfl, rfl, rfl⟩

theorem OnlyHas.track_run (h : t.OnlyHas r) (hopen : b.built = none) {timestamp : Timestamp} {time : String}
    (htime : (timestamp.milliseconds s.now).bind Value.integerText = .ok time) {b' p : Builder}
    (hp : t.prepared (s.identifier s.issued) time timestamp b = p) {s₁ s₂ : Session σ}
    {outcome : Except Fault Pairs}
    (hresolve : r.resolve users.behave (.ofBuilder p) { s with issued := s.issued + 1 } = (.ok vs, s₁))
    (hbuild : Builder.build users.process (p.attached vs, s₁) = (outcome, b', s₂)) :
    ∃ s', t.track users .null timestamp (b, s) = (outcome, b', s') := by
  have hpopen : p.built = none := by
    rw [← hp]
    exact hopen
  have hentities : Plugin.entities users.behave t.plugins .null s₁ = (.ok [], s₁) := by
    rw [h.plugins]
    rfl
  have hgather : t.gather users .null (p, { s with issued := s.issued + 1 }) = (.ok vs, p, s₁) := by
    rw [gather, Act.bind_run Act.subject_run, h.registry, Act.bind_run (Act.besideSubject_run hresolve),
      Act.bind_run (Act.besideSubject_run hentities), List.append_nil]
    rfl
  have hhooks : ∀ {T : Type} name hook (call : Callable → Act (T × Session σ) Unit) st,
      runHooks name hook call t.plugins st = (.ok (), st) := by
    intro T name hook call st
    rw [h.plugins]
    rfl
  have hcallback : ∀ st, runCallback users t.callback st = (.ok (), st) := by
    intro st
    rw [h.callback]
    rfl
  rw [track, Act.bind_run (prepare_run t hopen htime), hp, Act.bind_run hgather,
    Act.bind_run (Act.updateSubject_run (attachAll_of_open hpopen vs)), Act.bind_run (hhooks _ _ _ _),
    Act.bind_run (hcallback _)]
  cases outcome with
  | error f => exact ⟨s₂, Act.bind_run_error hbuild⟩
  | ok payload =>
    obtain ⟨s', hfinish, _⟩ := finish_of_built vs.length hbuild (hhooks _ _ _ _)
    exact ⟨s', hfinish⟩

end Tracker

namespace Manifest

variable {m : Manifest} {t : Tracker} {r : Registry} {b : Builder} {s s₀ : Session σ}

theorem apply_empty (m : Manifest) (s : Session σ) : (m.apply .empty s).1 = .ok (m.registered .empty) := by
  obtain ⟨text, happly⟩ := m.apply_run .empty s
  rw [happly]

theorem eq_registered (h : (m.apply .empty s₀).1 = .ok r) : r = m.registered .empty :=
  Except.ok.inj (h.symm.trans (m.apply_empty s₀))

def completed (m : Manifest) (t : Tracker) (s : Session σ) (time : String) (timestamp : Timestamp)
    (b : Builder) : Builder :=
  (t.prepared (s.identifier s.issued) time timestamp b).attached
    (m.applicable (ContextEvent.schemaOf b.deferred))

theorem track_of_build (users : Users σ) (happly : (m.apply .empty s₀).1 = .ok r) (ht : t.OnlyHas r)
    (hopen : b.built = none) {timestamp : Timestamp} {time : String}
    (htime : (timestamp.milliseconds s.now).bind Value.integerText = .ok time) :
    ∃ s₁ : Session σ, ∀ outcome b' s₂,
      Builder.build users.process (m.completed t s time timestamp b, s₁) = (outcome, b', s₂) →
        ∃ s', t.track users .null timestamp (b, s) = (outcome, b', s') := by
  unfold completed
  generalize hp : t.prepared (s.identifier s.issued) time timestamp b = p
  obtain ⟨s₁, hresolve, _⟩ := m.resolve_registered_run users.behave (.ofBuilder p)
    { s with issued := s.issued + 1 }
  rw [← eq_registered happly] at hresolve
  have hschema : (ContextEvent.ofBuilder p).schema = ContextEvent.schemaOf b.deferred := by
    rw [← hp]
    rfl
  rw [hschema] at hresolve
  exact ⟨s₁, fun outcome b' s₂ hbuild => ht.track_run hopen htime hp hresolve hbuild⟩

theorem track_of_documents (users : Users σ) (happly : (m.apply .empty s₀).1 = .ok r) (ht : t.OnlyHas r)
    (hopen : b.built = none) (hdocuments : HasDocuments b) {timestamp : Timestamp} {time : String}
    (htime : (timestamp.milliseconds s.now).bind Value.integerText = .ok time)
    (hvs : ∀ v ∈ m.applicable (ContextEvent.schemaOf b.deferred), v.IsSerializable)
    (hreads : ReadsContexts t.base64.truthy (m.completed t s time timestamp b)) :
    ∃ b' s', HasDocuments (m.completed t s time timestamp b)
      ∧ t.track users .null timestamp (b, s)
        = (.ok ((m.completed t s time timestamp b).standardPayload t.base64.truthy), b', s') := by
  obtain ⟨s₁, htrack⟩ := track_of_build users happly ht hopen htime
  have hall : HasDocuments (m.completed t s time timestamp b) :=
    ⟨hdocuments.deferred, List.forall_mem_append.2 ⟨hdocuments.entities, hvs⟩⟩
  obtain ⟨s₂, hbuild, _⟩ := Builder.build_run (b := m.completed t s time timestamp b) users.process
    hopen rfl ⟨hall, hreads⟩ s₁
  obtain ⟨s', hrun⟩ := htrack _ _ s₂ hbuild
  exact ⟨_, s', hall, hrun⟩

theorem track_of_obstacle (users : Users σ) (happly : (m.apply .empty s₀).1 = .ok r) (ht : t.OnlyHas r)
    (hopen : b.built = none) (hdocuments : HasDocuments b) {timestamp : Timestamp} {time : String}
    (htime : (timestamp.milliseconds s.now).bind Value.integerText = .ok time)
    (hreads : ReadsContexts t.base64.truthy (m.completed t s time timestamp b)) {v : Value}
    (hv : v ∈ m.applicable (ContextEvent.schemaOf b.deferred)) (hobstacle : ¬ v.IsSerializable) :
    ∃ o b' s', t.track users .null timestamp (b, s) = (.error (.notData o), b', s') := by
  obtain ⟨s₁, htrack⟩ := track_of_build users happly ht hopen htime
  have hmem : v ∈ (m.completed t s time timestamp b).entities := List.mem_append_right b.entities hv
  obtain ⟨o, b', s₂, hbuild⟩ :=
    Builder.build_of_obstacle (b := m.completed t s time timestamp b) users.process hopen rfl
      hdocuments.deferred hreads hmem hobstacle s₁
  obtain ⟨s', hrun⟩ := htrack _ _ s₂ hbuild
  exact ⟨o, b', s', hrun⟩

theorem track_of_overflow (users : Users σ) (happly : (m.apply .empty s₀).1 = .ok r) (ht : t.OnlyHas r)
    (hopen : b.built = none) (hdocuments : HasDocuments b) {timestamp : Timestamp} {time : String}
    (htime : (timestamp.milliseconds s.now).bind Value.integerText = .ok time) {bracket : Json.Bracket}
    (hoverflows : Overflows t.base64.truthy bracket (m.completed t s time timestamp b)) :
    ∃ b' s', t.track users .null timestamp (b, s) = (.error (.nestedTooDeep bracket), b', s') := by
  obtain ⟨s₁, htrack⟩ := track_of_build users happly ht hopen htime
  have hbuild := Builder.build_of_overflow (b := m.completed t s time timestamp b) users.process hopen rfl
    hdocuments.deferred hoverflows s₁
  obtain ⟨s', hrun⟩ := htrack _ _ s₁ hbuild
  exact ⟨_, s', hrun⟩

theorem isSerializable_iff {v : Value} : v.IsSerializable ↔ (Json.ofData v).toOption.isSome = true := by
  unfold Value.IsSerializable
  cases Json.ofData v <;> simp [Except.toOption]

/--
An event is tracked with a manifest exactly if the entities that apply to it have documents and the text that is
read for its contexts is not nested too deeply. Then they end its contexts document; otherwise there is no payload.
-/
theorem track_applicable (users : Users σ) (happly : (m.apply .empty s₀).1 = .ok r) (ht : t.OnlyHas r)
    (hopen : b.built = none) (hdocuments : HasDocuments b) {timestamp : Timestamp} {time : String}
    (htime : (timestamp.milliseconds s.now).bind Value.integerText = .ok time) :
    let vs := m.applicable (ContextEvent.schemaOf b.deferred)
    let p := m.completed t s time timestamp b
    (ReadsContexts t.base64.truthy p →
        ((∀ v ∈ vs, v.IsSerializable) →
          ∃ payload b' s', t.track users .null timestamp (b, s) = (.ok payload, b', s')
            ∧ (vs ≠ [] → ∃ before, HoldsContexts t.base64.truthy payload (before ++ vs)))
        ∧ (∀ v ∈ vs, ¬ v.IsSerializable →
          ∃ o b' s', t.track users .null timestamp (b, s) = (.error (.notData o), b', s')))
      ∧ (∀ bracket, Overflows t.base64.truthy bracket p →
        ∃ b' s', t.track users .null timestamp (b, s) = (.error (.nestedTooDeep bracket), b', s')) := by
  intro vs p
  refine ⟨fun hreads => ⟨?_, ?_⟩, ?_⟩
  . intro hvs
    obtain ⟨b', s', hall, hrun⟩ := track_of_documents users happly ht hopen hdocuments htime hvs hreads
    refine ⟨_, b', s', hrun, ?_⟩
    intro hne
    have hholds : HoldsContexts t.base64.truthy _ _ :=
      Builder.holdsContexts_of_merges hall (Or.inr (List.append_ne_nil_of_right_ne_nil _ hne))
    have hentities : (m.completed t s time timestamp b).entities = b.entities ++ vs := rfl
    rw [hentities, ← List.append_assoc, ← List.append_assoc] at hholds
    exact ⟨_, hholds⟩
  . intro v hv hobstacle
    exact track_of_obstacle users happly ht hopen hdocuments htime hreads hv hobstacle
  . intro bracket hoverflows
    exact track_of_overflow users happly ht hopen hdocuments htime hoverflows

theorem applicable_fourEntries :
    fourEntries.applicable "" = [firstEntity.toValue, fourthEntity.toValue] := by
  have hsecond : ManifestEntry.isAdmitted
      ⟨namedEntity "second" (by decide), some everySchema, some heartbeat⟩ "" = false := by
    decide +kernel
  have hthird : ManifestEntry.isAdmitted
      ⟨namedEntity "third" (by decide), none, some heartbeat⟩ "" = false := rfl
  simp [applicable, fourEntries, firstEntity, fourthEntity, ManifestEntry.isConditional, hsecond, hthird]

theorem readsContexts_empty (m : Manifest) (r : Registry) (encode : Bool) :
    ReadsContexts encode (m.completed (Tracker.holding r encode) Tracker.epoch (toString (0 : Int)) .now .empty) :=
  readsContexts_of_get? nofun (by cases encode <;> nofun)

theorem track_fourEntries :
    ∃ payload b' s',
      (Tracker.holding (fourEntries.registered .empty) true).track Tracker.namesakes .null .now
        (.empty, Tracker.epoch) = (.ok payload, b', s')
      ∧ ∃ before, HoldsContexts true payload (before ++ [firstEntity.toValue, fourthEntity.toValue]) := by
  have hvs : ∀ v ∈ fourEntries.applicable "", v.IsSerializable := by
    intro v hv
    have hall : (fourEntries.applicable "").all (fun v => (Json.ofData v).toOption.isSome) = true := by
      decide +kernel
    exact isSerializable_iff.2 (List.all_eq_true.1 hall v hv)
  obtain ⟨hread, _⟩ := track_applicable Tracker.namesakes (fourEntries.apply_empty Tracker.epoch)
    (Tracker.onlyHas_holding _ true) (b := Builder.empty) rfl hasDocuments_empty Tracker.time_epoch
  obtain ⟨payload, b', s', htrack, hholds⟩ := (hread (readsContexts_empty fourEntries _ true)).1 hvs
  have happlicable : fourEntries.applicable (ContextEvent.schemaOf Builder.empty.deferred) = _ :=
    applicable_fourEntries
  rw [happlicable] at hholds
  exact ⟨payload, b', s', htrack, hholds (List.cons_ne_nil _ _)⟩

def datedDocument : String := "contexts:\n- entity:\n    sc: release\n    dt: \x7bat: 2024-05-01\x7d\n"

def carrying (text : String) : Builder := { Builder.empty with pairs := [(plainContextsKey, .str text)] }

/--
A manifest with a date in an entity loads and can be applied, but with it nothing is tracked; and with no manifest
that has an entity for it is an event tracked that carries a text nested too deeply.
-/
theorem manifest_not_tracked :
    (∃ m r,
      ofYaml textSource datedDocument = .ok m
      ∧ (m.apply .empty Tracker.epoch).1 = .ok r
      ∧ ∀ encode, ∃ o b' s',
        (Tracker.holding r encode).track Tracker.namesakes .null .now (.empty, Tracker.epoch)
          = (.error (.notData o), b', s'))
      ∧ (carrying (Json.nestedText 2000)).built = none
      ∧ HasDocuments (carrying (Json.nestedText 2000))
      ∧ ∃ b' s',
        (Tracker.holding (fourEntries.registered .empty) false).track Tracker.namesakes .null .now
            (carrying (Json.nestedText 2000), Tracker.epoch)
          = (.error (.nestedTooDeep .array), b', s') := by
  have hdocuments : HasDocuments (carrying (Json.nestedText 2000)) := ⟨nofun, nofun⟩
  refine ⟨?_, rfl, hdocuments, ?_⟩
  . have hchecked : ((ofYaml textSource datedDocument).toOption.map fun m =>
        (m.applicable "").map fun v => (Json.ofData v).toOption.isSome) = some [false] := by
      decide +kernel
    cases hm : ofYaml textSource datedDocument with
    | error f =>
      rw [hm] at hchecked
      cases hchecked
    | ok m =>
      rw [hm] at hchecked
      obtain ⟨v, hvs, hv⟩ := List.map_eq_singleton_iff.1 (Option.some.inj hchecked)
      have hmem : v ∈ m.applicable (ContextEvent.schemaOf Builder.empty.deferred) := by
        change v ∈ m.applicable ""
        rw [hvs]
        exact List.mem_singleton_self v
      have hobstacle : ¬ v.IsSerializable := by
        rw [isSerializable_iff, hv]
        exact Bool.false_ne_true
      refine ⟨m, m.registered .empty, rfl, m.apply_empty Tracker.epoch, ?_⟩
      intro encode
      exact track_of_obstacle Tracker.namesakes (m.apply_empty Tracker.epoch)
        (Tracker.onlyHas_holding _ encode) rfl hasDocuments_empty Tracker.time_epoch
        (readsContexts_empty m _ encode) hmem hobstacle
  . have happlicable : fourEntries.applicable (ContextEvent.schemaOf (carrying (Json.nestedText 2000)).deferred) = _ :=
      applicable_fourEntries
    have hmerges : MergesContexts (fourEntries.completed (Tracker.holding (fourEntries.registered .empty) false)
        Tracker.epoch (toString (0 : Int)) .now (carrying (Json.nestedText 2000))) := by
      right
      rw [completed, happlicable]
      exact List.cons_ne_nil _ _
    have hget : (fourEntries.completed (Tracker.holding (fourEntries.registered .empty) false)
        Tracker.epoch (toString (0 : Int)) .now (carrying (Json.nestedText 2000))).pairs.get? plainContextsKey
        = some (.str (Json.nestedText 2000)) := rfl
    apply track_of_overflow Tracker.namesakes (fourEntries.apply_empty Tracker.epoch)
      (Tracker.onlyHas_holding _ false) rfl hdocuments Tracker.time_epoch
    exact ⟨hmerges, (overflow?_plain hget).trans (Json.overflow?_nestedText (by decide))⟩

end Manifest

/-! ### Builders without contexts -/

/--
Whether a builder comes without contexts in a mode: it has no entities, nothing stands under the contexts key
of the mode, and nothing that waits is a contexts document or to be written there.
-/
structure Builder.CarriesNoContexts (encode : Bool) (b : Builder) : Prop where
  entities : b.entities = []
  pairs : contextsKey encode ∉ b.pairs.keys
  deferred : ∀ d ∈ b.deferred, isContexts d = false ∧ chosenKey encode d ≠ contextsKey encode

namespace Builder.CarriesNoContexts

variable {encode : Bool} {b : Builder}

theorem get?_setAll_writes (h : b.CarriesNoContexts encode) {ds : List Deferred} (hds : ds ⊆ b.deferred) :
    (Pairs.setAll (writes encode ds) b.pairs).get? (contextsKey encode) = none := by
  have hwrites : contextsKey encode ∉ (writes encode ds).keys := by
    rw [mem_keys_writes]
    rintro ⟨d, hd, -, hkey⟩
    exact (h.deferred d (hds hd)).2 hkey
  rw [Pairs.get?_setAll_of_not_mem hwrites]
  exact Pairs.get?_eq_none_iff.2 h.pairs

theorem carried_eq_nothing (h : b.CarriesNoContexts encode) :
    carried encode (pairsAtMerge encode b.deferred b.pairs) = .nothing := by
  rw [carried, pairsAtMerge, h.get?_setAll_writes (List.takeWhile_prefix _).subset]

theorem readsContexts_attached (h : b.CarriesNoContexts encode) (vs : List Value) :
    ReadsContexts encode (b.attached vs) := by
  intro _
  apply overflow?_of_not_text
  intro text hget
  cases (h.get?_setAll_writes (List.takeWhile_prefix _).subset).symm.trans hget

theorem deferredEntities_eq_nil (h : b.CarriesNoContexts encode) : deferredEntities b.deferred = [] := by
  have hnone : b.deferred.filter isContexts = [] := by
    rw [List.filter_eq_nil_iff]
    intro d hd
    simp [(h.deferred d hd).1]
  rw [deferredEntities, hnone]
  rfl

theorem holdsContexts_attached (h : b.CarriesNoContexts encode) {vs : List Value}
    (hdocuments : HasDocuments (b.attached vs)) (hne : vs ≠ []) :
    HoldsContexts encode ((b.attached vs).standardPayload encode) vs := by
  have hentities : (b.attached vs).entities = vs := by
    rw [Builder.attached, h.entities]
    rfl
  have hholds : HoldsContexts encode ((b.attached vs).standardPayload encode) _ :=
    Builder.holdsContexts_of_merges hdocuments (Or.inr (by rwa [hentities]))
  have hcarried : carried encode (pairsAtMerge encode (b.attached vs).deferred (b.attached vs).pairs)
      = .nothing := h.carried_eq_nothing
  have hdeferred : deferredEntities (b.attached vs).deferred = [] := h.deferredEntities_eq_nil
  rw [hcarried, hdeferred, hentities] at hholds
  exact hholds

theorem get?_contextsKey (h : b.CarriesNoContexts encode) :
    (b.standardPayload encode).get? (contextsKey encode) = none := by
  rw [Builder.standardPayload, Progress.written,
    contexts_ofBuilder_eq_none (fun d hd => (h.deferred d hd).1) h.entities, pairs_ofBuilder]
  exact h.get?_setAll_writes (List.Subset.refl _)

theorem prepared (h : b.CarriesNoContexts encode) {t : Tracker} (hpairs : contextsKey encode ∉ t.pairs.keys)
    (id time : String) (timestamp : Timestamp) :
    (t.prepared id time timestamp b).CarriesNoContexts encode where
  entities := h.entities
  deferred := h.deferred
  pairs := by
    rw [← Pairs.get?_eq_none_iff, Tracker.get?_prepared, Pairs.get?_setAllNonNull_of_not_mem hpairs,
      Pairs.get?_eq_none_iff]
    exact h.pairs

end Builder.CarriesNoContexts

theorem Manifest.isSerializable_applicable {m : Manifest}
    (h : ∀ e ∈ m.entries, e.entity.toValue.IsSerializable) (schema : String) :
    ∀ v ∈ m.applicable schema, v.IsSerializable := by
  rw [applicable, List.forall_mem_map, List.forall_mem_append]
  exact ⟨fun e he => h e (List.mem_of_mem_filter he), fun e he => h e (List.mem_of_mem_filter he)⟩

namespace Tracker

variable {σ : Type} {t : Tracker} {b : Builder} {s s₀ : Session σ} {m : Manifest}
  {r : Registry} {timestamp : Timestamp} {time : String}

/--
Whether tracking adds entities to a builder: there is a payload, with a contexts document of just these, or
with none if there are no entities.
-/
def Adds (users : Users σ) (t : Tracker) (timestamp : Timestamp) (b : Builder) (s : Session σ)
    (vs : List Value) : Prop :=
  ∃ payload b' s', t.track users .null timestamp (b, s) = (.ok payload, b', s')
    ∧ (vs ≠ [] → HoldsContexts t.base64.truthy payload vs)
    ∧ (vs = [] → payload.get? (contextsKey t.base64.truthy) = none)

theorem adds_applicable (users : Users σ) (hentities : ∀ e ∈ m.entries, e.entity.toValue.IsSerializable)
    (happly : (m.apply .empty s₀).1 = .ok r) (ht : t.OnlyHas r)
    (hpairs : contextsKey t.base64.truthy ∉ t.pairs.keys) (hopen : b.built = none)
    (hdocuments : HasDocuments b) (h : b.CarriesNoContexts t.base64.truthy) {schema : String}
    (hschema : ContextEvent.schemaOf b.deferred = schema)
    (htime : (timestamp.milliseconds s.now).bind Value.integerText = .ok time) :
    t.Adds users timestamp b s (m.applicable schema) := by
  have hprepared := h.prepared hpairs (s.identifier s.issued) time timestamp
  obtain ⟨b', s', hall, hrun⟩ := Manifest.track_of_documents users happly ht hopen hdocuments htime
    (Manifest.isSerializable_applicable hentities _) (hprepared.readsContexts_attached _)
  rw [Manifest.completed, hschema] at hall hrun
  refine ⟨_, b', s', hrun, hprepared.holdsContexts_attached hall, ?_⟩
  intro hempty
  rw [hempty, Builder.attached_nil]
  exact hprepared.get?_contextsKey

end Tracker

end EventTracking
