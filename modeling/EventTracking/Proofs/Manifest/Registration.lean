import EventTracking.Manifest
import EventTracking.Proofs.Context.Contributions
import EventTracking.Proofs.Context.Removal
import EventTracking.Proofs.Schema.RuleSet
import Mathlib.Data.List.Forall2

/-!
This module contains the theorem on the meaning of a manifest: applying it registers each of its entries,
just as if they had been registered by hand in their order.
-/

namespace EventTracking

open Schema (Rules RuleSet ruleAdmits)

/-! ### Entries as registrations -/

namespace ManifestEntry

open Registry (Entry)

variable {e : ManifestEntry} {v : Value}

inductive WritesSide (name : String) : Option Rules → Pairs → Prop where
  | absent : WritesSide name none []
  | present {rules : Rules} {v : Value} (h : Schema.Writes rules v) :
      WritesSide name (some rules) [(name, v)]

/-- The ways of registering an entry by hand: the entity alone, or with its sides if there are any. -/
inductive ByHand (e : ManifestEntry) : Value → Prop where
  | bare (unconditional : e.isConditional = false) : ByHand e e.entity.toValue
  | pair {accept reject : Pairs} (conditional : e.isConditional = true)
      (accepting : WritesSide "accept" e.accept accept) (rejecting : WritesSide "reject" e.reject reject) :
      ByHand e (.tuple [.ofPairs (accept ++ reject), e.entity.toValue])

theorem writes_of_checkRuleTexts {v shown : Value} {texts : List String}
    (h : checkRuleTexts v = .ok (shown, texts)) (valid : texts.all Schema.isRule = true) :
    Schema.Writes ⟨texts, valid⟩ shown := by
  unfold checkRuleTexts at h
  split at h
  . cases h
    exact .single valid
  . cases h
    exact .several rfl
  . cases h

theorem exists_of_checkRules {v : Value} {rules : Rules} (h : checkRules v = .ok rules) :
    ∃ shown, checkRuleTexts v = .ok (shown, rules.1) ∧ Schema.Writes rules shown := by
  unfold checkRules at h
  rcases htexts : checkRuleTexts v with vs | ⟨shown, texts⟩
  . rw [htexts] at h
    cases h
  . rw [htexts] at h
    by_cases valid : texts.all Schema.isRule = true
    . cases (dif_pos valid).symm.trans h
      exact ⟨shown, rfl, writes_of_checkRuleTexts htexts valid⟩
    . cases (dif_neg valid).symm.trans h

def entityPrimitive (e : ManifestEntry) : Primitive := .fixed e.entity.toValue

def registration (e : ManifestEntry) : Entry :=
  match e.ruleSet? with
  | none => .primitive e.entityPrimitive
  | some rules => .provider (.ruled rules [e.entityPrimitive])

theorem registration_of_bare (h : e.isConditional = false) :
    e.registration = .primitive e.entityPrimitive := by
  rw [registration, ruleSet?, if_neg (by simp [h])]

theorem registration_of_conditional (h : e.isConditional = true) :
    e.registration
      =
    .provider (.ruled (.ofRules (side e.accept) (side e.reject)) [e.entityPrimitive]) := by
  rw [registration, ruleSet?, if_pos h]

def primitive? (e : ManifestEntry) : Option Primitive := e.registration.primitive?

def provider? (e : ManifestEntry) : Option Provider := e.registration.provider?

theorem primitive?_of_bare (h : e.isConditional = false) :
    e.primitive? = some e.entityPrimitive := by
  rw [primitive?, registration_of_bare h]
  rfl

theorem provider?_of_bare (h : e.isConditional = false) : e.provider? = none := by
  rw [provider?, registration_of_bare h]
  rfl

theorem primitive?_of_conditional (h : e.isConditional = true) : e.primitive? = none := by
  rw [primitive?, registration_of_conditional h]
  rfl

theorem provider?_of_conditional (h : e.isConditional = true) :
    e.provider? = some (.ruled (.ofRules (side e.accept) (side e.reject)) [e.entityPrimitive]) := by
  rw [provider?, registration_of_conditional h]
  rfl

theorem isSelfDescribing_toValue (e : Entity) : e.toValue.isSelfDescribing = true := by
  have hdata : (Value.ofPairs e.data).isNonEmptyObject = true := by
    simpa [Value.ofPairs, Value.isNonEmptyObject] using e.data_ne
  simp [Value.isSelfDescribing, Entity.toValue, Value.field?, Value.ofPairs, Value.isKey, Value.text?]
  exact hdata

theorem ofValue?_entity (e : Entity) : Primitive.ofValue? e.toValue = some (.fixed e.toValue) :=
  if_pos (isSelfDescribing_toValue e)

theorem ofValue?_bare (h : e.isConditional = false) :
    Entry.ofValue? e.entity.toValue = some e.registration := by
  have hnone : e.ruleSet? = none := by rw [ruleSet?, if_neg (by simp [h])]
  have hprovider : Provider.ofValue? e.entity.toValue = none := rfl
  rw [Entry.ofValue?, hprovider, ofValue?_entity, registration, hnone]
  rfl

theorem ofValue?_pair {criterion entities : Value} {rules : RuleSet}
    (hcriterion : criterion.callable? = none) (hrules : RuleSet.ofValue? criterion = some rules)
    (hentities : Primitive.allOfValue? entities = some [e.entityPrimitive]) (he : e.ruleSet? = some rules) :
    Entry.ofValue? (.tuple [criterion, entities]) = some e.registration := by
  have hprovider : Provider.ofValue? (.tuple [criterion, entities])
      = some (.ruled rules [e.entityPrimitive]) := by
    simp [Provider.ofValue?, Value.pair?, Value.items?, hentities, Provider.ofCriterion?, hcriterion, hrules]
  rw [Entry.ofValue?, hprovider, registration, he]

theorem ofValue?_toValue (e : ManifestEntry) : Entry.ofValue? e.toValue = some e.registration := by
  unfold toValue
  cases he : e.ruleSet? with
  | none =>
    have hbare : e.isConditional = false := by
      cases hc : e.isConditional with
      | false => rfl
      | true => rw [ruleSet?, if_pos hc] at he; cases he
    exact ofValue?_bare hbare
  | some rules =>
    refine ofValue?_pair rfl rfl ?_ he
    simp [Primitive.allOfValue?, Value.items?, ofValue?_entity, entityPrimitive]

section

variable {accept reject : Option Rules} {accepting rejecting : Pairs}

theorem givesSide_accept (haccept : WritesSide "accept" accept accepting)
    (hreject : WritesSide "reject" reject rejecting) :
    Schema.GivesSide "accept" (.ofPairs (accepting ++ rejecting)) (side accept) := by
  cases haccept with
  | absent => cases hreject <;> exact .absent rfl
  | present h => exact .present rfl h

theorem givesSide_reject (haccept : WritesSide "accept" accept accepting)
    (hreject : WritesSide "reject" reject rejecting) :
    Schema.GivesSide "reject" (.ofPairs (accepting ++ rejecting)) (side reject) := by
  cases hreject with
  | absent => cases haccept <;> exact .absent rfl
  | present h => cases haccept <;> exact .present rfl h

theorem isRuleSetValue_sides (haccept : WritesSide "accept" accept accepting)
    (hreject : WritesSide "reject" reject rejecting) (h : (accept.isSome || reject.isSome) = true) :
    Schema.isRuleSetValue (.ofPairs (accepting ++ rejecting)) = true := by
  have hargument : ∀ name side ps, WritesSide name side ps →
      ∀ p ∈ ps, p.1 = name ∧ Schema.isRuleArgument p.2 = true := by
    rintro name side ps (_ | hw) p hp
    . cases hp
    . cases List.mem_singleton.1 hp
      exact ⟨rfl, hw.isRuleArgument⟩
  have hne : accepting ++ rejecting ≠ [] := by
    cases haccept <;> cases hreject <;> first | exact List.cons_ne_nil _ _ | cases h
  have hall : ∀ p ∈ accepting ++ rejecting,
      (p.1 = "accept" ∨ p.1 = "reject") ∧ Schema.isRuleArgument p.2 = true := by
    intro p hp
    rcases List.mem_append.1 hp with hp | hp
    . exact ⟨Or.inl (hargument _ _ _ haccept p hp).1, (hargument _ _ _ haccept p hp).2⟩
    . exact ⟨Or.inr (hargument _ _ _ hreject p hp).1, (hargument _ _ _ hreject p hp).2⟩
  rw [Value.ofPairs, Schema.isRuleSetValue, Bool.and_eq_true, List.all_map, List.all_eq_true]
  refine ⟨by simpa using hne, ?_⟩
  intro p hp
  simpa [Value.isKey] using hall p hp

theorem ofValue?_sides (haccept : WritesSide "accept" accept accepting)
    (hreject : WritesSide "reject" reject rejecting) (h : (accept.isSome || reject.isSome) = true) :
    RuleSet.ofValue? (.ofPairs (accepting ++ rejecting)) = some (.ofRules (side accept) (side reject)) := by
  apply RuleSet.ofValue?_object (isRuleSetValue_sides haccept hreject h)
  . exact givesSide_accept haccept hreject
  . exact givesSide_reject haccept hreject

end

theorem ofValue?_byHand (h : e.ByHand v) : Entry.ofValue? v = some e.registration := by
  cases h with
  | bare unconditional => exact ofValue?_bare unconditional
  | pair conditional accepting rejecting =>
    refine ofValue?_pair rfl (ofValue?_sides accepting rejecting conditional) ?_ (if_pos conditional)
    have hitems : e.entity.toValue.items? = none := rfl
    simp [Primitive.allOfValue?, hitems, ofValue?_entity, entityPrimitive]

end ManifestEntry

/-! ### Registries -/

namespace Registry

variable {es : List ManifestEntry} {vs : List Value}

theorem primitivesOf_registrations
    (h : List.Forall₂ (fun e v => Entry.ofValue? v = some (ManifestEntry.registration e)) es vs) :
    primitivesOf vs = es.filterMap ManifestEntry.primitive? := by
  rw [primitivesOf_eq (List.forall₂_map_left_iff.2 h), List.filterMap_map]
  rfl

theorem providersOf_registrations
    (h : List.Forall₂ (fun e v => Entry.ofValue? v = some (ManifestEntry.registration e)) es vs) :
    providersOf vs = es.filterMap ManifestEntry.provider? := by
  rw [providersOf_eq (List.forall₂_map_left_iff.2 h), List.filterMap_map]
  rfl

end Registry

namespace Manifest

open ManifestEntry

variable {σ : Type} {m : Manifest} {vs : List Value}

theorem forall₂_inputs (m : Manifest) :
    List.Forall₂ (fun e v => Registry.Entry.ofValue? v = some (ManifestEntry.registration e))
      m.entries m.inputs := by
  rw [inputs, List.forall₂_map_right_iff, List.forall₂_same]
  exact fun e _ => e.ofValue?_toValue

def registered (m : Manifest) (r : Registry) : Registry where
  primitives := r.primitives ++ m.entries.filterMap ManifestEntry.primitive?
  providers := r.providers ++ m.entries.filterMap ManifestEntry.provider?

theorem insertAll_inputs (m : Manifest) (r : Registry) : r.insertAll m.inputs = m.registered r := by
  rw [Registry.insertAll_eq, Registry.primitivesOf_registrations m.forall₂_inputs,
    Registry.providersOf_registrations m.forall₂_inputs, registered]

theorem insertAll_byHand (h : List.Forall₂ ManifestEntry.ByHand m.entries vs) (r : Registry) :
    r.insertAll vs = m.registered r := by
  have hregistrations := h.imp fun e v => e.ofValue?_byHand
  rw [Registry.insertAll_eq, Registry.primitivesOf_registrations hregistrations,
    Registry.providersOf_registrations hregistrations, registered]

theorem size_registered (m : Manifest) (r : Registry) :
    (m.registered r).size = r.size + m.entries.length := by
  have hentries : ∀ es : List ManifestEntry,
      (es.filterMap ManifestEntry.primitive?).length
        + (es.filterMap ManifestEntry.provider?).length = es.length := by
    intro es
    induction es with
    | nil => rfl
    | cons e es ih =>
      cases h : e.isConditional with
      | true =>
        rw [List.filterMap_cons_none (primitive?_of_conditional h),
          List.filterMap_cons_some (provider?_of_conditional h), List.length_cons, List.length_cons, ← ih]
        omega
      | false =>
        rw [List.filterMap_cons_some (primitive?_of_bare h), List.filterMap_cons_none (provider?_of_bare h),
          List.length_cons, List.length_cons, ← ih]
        omega
  have h := hentries m.entries
  simp only [registered, Registry.size, List.length_append]
  omega

theorem insertNote?_inputs (m : Manifest) : ∀ v ∈ m.inputs, Registry.insertNote? v = none := by
  rw [inputs, List.forall_mem_map]
  intro e _
  rw [Registry.insertNote?, e.ofValue?_toValue]

theorem apply_run (m : Manifest) (r : Registry) (s : Session σ) :
    ∃ text, m.apply r s
      = (.ok (m.registered r), { s with records := s.records ++ [⟨logger, .debug, text⟩] }) := by
  have hnotes : ∀ vs : List Value, (∀ v ∈ vs, Registry.insertNote? v = none) →
      (forIn vs PUnit.unit fun v _ => do
        Registry.note (Registry.insertNote? v)
        return .yield PUnit.unit : Act (Session σ) PUnit) s = (.ok ⟨⟩, s) := by
    intro vs hvs
    induction vs with
    | nil => rfl
    | cons v vs ih =>
      obtain ⟨hv, hvs⟩ := List.forall_mem_cons.1 hvs
      have hnote : (Registry.note none : Act (Session σ) Unit) s = (.ok (), s) := rfl
      rw [List.forIn_cons, hv, bind_assoc, Act.bind_run hnote, pure_bind]
      exact ih hvs
  have hadd : Registry.add (.list m.inputs) r s = (.ok (m.registered r), s) := by
    rw [Registry.add, Value.elements?]
    dsimp only
    rw [Act.bind_run (hnotes m.inputs m.insertNote?_inputs), insertAll_inputs]
    rfl
  exact ⟨_, Act.bind_run hadd⟩

theorem register_run (m : Manifest) (r : Registry) (s : Session σ) :
    ∃ text, m.register (r, s)
      =
    (.ok m.entries.length, m.registered r, { s with records := s.records ++ [⟨logger, .debug, text⟩] }) := by
  obtain ⟨text, happly⟩ := m.apply_run r s
  refine ⟨text, ?_⟩
  rw [register, Act.bind_run Act.subject_run, Act.bind_run (Act.besideSubject_run happly),
    Act.bind_run Act.setSubject_run, inputs, List.length_map]
  rfl

end Manifest

/-! ### Entities that apply -/

def ManifestEntry.isAdmitted (e : ManifestEntry) (schema : String) : Bool :=
  (side e.accept).1.any (ruleAdmits · schema) && !(side e.reject).1.any (ruleAdmits · schema)

def Manifest.applicable (m : Manifest) (schema : String) : List Value :=
  ((m.entries.filter fun e => !e.isConditional)
    ++ m.entries.filter fun e => e.isConditional && e.isAdmitted schema).map fun e => e.entity.toValue

namespace Manifest

open ManifestEntry

variable {σ : Type} {behaviour : Behaviour σ}

theorem resolvePrimitives_run (args : List Argument) (es : List ManifestEntry) (s : Session σ) :
    Primitive.resolveAll behaviour args (es.filterMap ManifestEntry.primitive?) s
      =
    (.ok ((es.filter fun e => !e.isConditional).map fun e => e.entity.toValue), s) := by
  induction es with
  | nil => rfl
  | cons e es ih =>
    cases h : e.isConditional with
    | true =>
      rw [List.filterMap_cons_none (primitive?_of_conditional h), List.filter_cons_of_neg (by simp [h])]
      exact ih
    | false =>
      have hfirst : e.entityPrimitive.resolve behaviour args s = (.ok [e.entity.toValue], s) := rfl
      rw [List.filterMap_cons_some (primitive?_of_bare h), List.filter_cons_of_pos (by simp [h]),
        Primitive.resolveAll, Act.bind_run hfirst, Act.bind_run ih]
      rfl

theorem resolveProvider_run (event : ContextEvent) (e : ManifestEntry) (s : Session σ) :
    (Provider.ruled (.ofRules (side e.accept) (side e.reject)) [e.entityPrimitive]).resolve behaviour event s
      =
    (.ok (if e.isAdmitted event.schema then [e.entity.toValue] else []), s) := by
  have hadmits : (RuleSet.ofRules (side e.accept) (side e.reject)).admits event.schema
      = e.isAdmitted event.schema := Bool.and_comm _ _
  rw [Provider.resolve, Provider.appliesTo, hadmits, Act.bind_run Act.pure_run]
  cases e.isAdmitted event.schema <;> rfl

theorem resolveProviders_run (event : ContextEvent) (es : List ManifestEntry) (s : Session σ) :
    Provider.resolveAll behaviour event (es.filterMap ManifestEntry.provider?) s
      =
    (.ok ((es.filter fun e => e.isConditional && e.isAdmitted event.schema).map
      fun e => e.entity.toValue), s) := by
  induction es with
  | nil => rfl
  | cons e es ih =>
    cases h : e.isConditional with
    | false =>
      rw [List.filterMap_cons_none (provider?_of_bare h), List.filter_cons_of_neg (by simp [h])]
      exact ih
    | true =>
      rw [List.filterMap_cons_some (provider?_of_conditional h), Provider.resolveAll,
        Act.bind_run (resolveProvider_run event e s), Act.bind_run ih]
      cases hadmitted : e.isAdmitted event.schema with
      | true =>
        rw [List.filter_cons_of_pos (by simp [h, hadmitted])]
        rfl
      | false =>
        rw [List.filter_cons_of_neg (by simp [hadmitted])]
        rfl

theorem resolve_registered_run (behaviour : Behaviour σ) (m : Manifest) (event : ContextEvent)
    (s : Session σ) :
    ∃ s', (m.registered .empty).resolve behaviour event s = (.ok (m.applicable event.schema), s')
      ∧ s.Reported s' := by
  have hprimitives : Primitive.resolveAll behaviour [.event event] (m.registered .empty).primitives s
      = _ := resolvePrimitives_run [.event event] m.entries s
  have hproviders : Provider.resolveAll behaviour event (m.registered .empty).providers s
      = _ := resolveProviders_run event m.entries s
  obtain ⟨s', htrace, hs'⟩ := Registry.reports_traceResolved (m.registered .empty) event _ _ s
  refine ⟨s', ?_, hs'⟩
  rw [Registry.resolve, Act.bind_run hprimitives, Act.bind_run hproviders, Act.bind_run htrace,
    applicable, List.map_append]
  rfl

/--
A manifest means what it says. Applying it never fails, registers as many registrations as there are entries
and leaves no note on a discarded one. The registry is the one that adding the entries by hand leads to. If it
was empty before, the entities that apply to an event are those of the unconditional entries in their order,
then those of the conditional entries whose rules admit its schema.
-/
theorem register_byHand (m : Manifest) {vs : List Value}
    (hvs : List.Forall₂ ManifestEntry.ByHand m.entries vs) (r : Registry) (s : Session σ) :
    ∃ r' text,
      m.register (r, s)
          = (.ok m.entries.length, r', { s with records := s.records ++ [⟨logger, .debug, text⟩] })
      ∧ r'.size = r.size + m.entries.length
      ∧ (∃ s', Registry.add (.list vs) r s = (.ok r', s'))
      ∧ (∀ p ∈ r'.primitives, (∀ v ∈ p.entities, v.IsWellFormed ∧ v.isNan = false) → p.same p)
      ∧ (∀ p ∈ r'.providers, (∀ v ∈ p.entities, v.IsWellFormed ∧ v.isNan = false) → p.same p)
      ∧ (r = .empty → ∀ (behaviour : Behaviour σ) event s, ∃ s',
          r'.resolve behaviour event s = (.ok (m.applicable event.schema), s')) := by
  obtain ⟨text, hregister⟩ := m.register_run r s
  refine ⟨m.registered r, text, hregister, m.size_registered r, ?_, ?_, ?_, ?_⟩
  . have hadd : ∃ s', Registry.add (.list vs) r s = (.ok (r.insertAll vs), s') ∧ s.Reported s' :=
      Registry.add_run rfl r s
    obtain ⟨s', hadd, _⟩ := hadd
    rw [insertAll_byHand hvs] at hadd
    exact ⟨s', hadd⟩
  . exact fun p _ hp => Primitive.same_self hp
  . exact fun p _ hp => Provider.same_self hp
  . rintro rfl behaviour event s
    obtain ⟨s', hresolve, _⟩ := m.resolve_registered_run behaviour event s
    exact ⟨s', hresolve⟩

def everySchema : Rules := ⟨["iglu:com.acme/*/jsonschema/*-*-*"], by decide +kernel⟩

def heartbeat : Rules := ⟨["iglu:com.acme/heartbeat/jsonschema/*-*-*"], by decide +kernel⟩

def namedEntity (name : String) (h : name ≠ "") : Entity := ⟨name, [("id", .str name)], h, by simp⟩

def fourEntries : Manifest where
  version := "1"
  description := none
  entries :=
    [⟨namedEntity "first" (by decide), none, none⟩,
      ⟨namedEntity "second" (by decide), some everySchema, some heartbeat⟩,
      ⟨namedEntity "third" (by decide), none, some heartbeat⟩,
      ⟨namedEntity "fourth" (by decide), none, none⟩]

def firstEntity : Entity := namedEntity "first" (by decide)

def fourthEntity : Entity := namedEntity "fourth" (by decide)

def fourByHand : List Value :=
  let entity (name : String) := Value.ofPairs [("sc", .str name), ("dt", .ofPairs [("id", .str name)])]
  [entity "first",
    .tuple [.ofPairs [("accept", .str "iglu:com.acme/*/jsonschema/*-*-*"),
      ("reject", .list [.str "iglu:com.acme/heartbeat/jsonschema/*-*-*"])], entity "second"],
    .tuple [.ofPairs [("reject", .str "iglu:com.acme/heartbeat/jsonschema/*-*-*")], entity "third"],
    entity "fourth"]

theorem register_fourEntries :
    List.Forall₂ ManifestEntry.ByHand fourEntries.entries fourByHand
      ∧ ∃ r s',
        fourEntries.register (.empty, .initial () (.whole 0) "" toString) = (.ok 4, r, s')
        ∧ r.size = 4
        ∧ ∀ event (s : Session Unit), event.schema = "iglu:com.acme/checkout/jsonschema/1-0-0" →
          ∃ entities s', r.resolve (fun _ _ => return .null) event s = (.ok entities, s')
            ∧ entities.map (fun v => (v.field? "sc").bind Value.text?)
              = [some "first", some "fourth", some "second"] := by
  have hsecond := @ManifestEntry.ByHand.pair ⟨namedEntity "second" (by decide), everySchema, heartbeat⟩
    [_] [_] rfl (.present (.single everySchema.2))
    (.present (@Schema.Writes.several heartbeat (.list (heartbeat.1.map .str)) rfl))
  have hthird := @ManifestEntry.ByHand.pair ⟨namedEntity "third" (by decide), none, heartbeat⟩
    [] [_] rfl .absent (.present (.single heartbeat.2))
  have hbyHand : List.Forall₂ ManifestEntry.ByHand fourEntries.entries fourByHand :=
    .cons (.bare rfl) (.cons hsecond (.cons hthird (.cons (.bare rfl) .nil)))
  obtain ⟨r, text, hregister, hsize, _, _, _, hresolve⟩ :=
    register_byHand fourEntries hbyHand .empty (.initial () (.whole 0) "" toString)
  refine ⟨hbyHand, r, _, hregister, hsize, ?_⟩
  intro event s hschema
  obtain ⟨s', hrun⟩ := hresolve rfl (fun _ _ => return .null) event s
  refine ⟨_, s', hrun, ?_⟩
  rw [hschema]
  decide +kernel

end Manifest

end EventTracking
