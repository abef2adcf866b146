import EventTracking.Proofs.Payload.Contexts
import EventTracking.Proofs.Payload.Obstacles
import EventTracking.Proofs.Timestamp
import EventTracking.Proofs.Tracker.Hooks

/-!
This module contains the theorem on the order of entities in tracking: after those that a builder comes
with stand those of the registry, of the plugins, of the call, of the hooks and of the callback.
-/

namespace EventTracking

open Processing

namespace Tracker

variable {σ : Type} {users : Users σ} {t : Tracker} {b : Builder} {s : Session σ}

/-! ### The stages before the build -/

def prepared (t : Tracker) (id time : String) (timestamp : Timestamp) (b : Builder) : Builder :=
  { b with
    pairs := (Pairs.setAllNonNull t.pairs (b.pairs.set "eid" (.str id))).set timestamp.key (.str time)
    processor := some (.standard t.base64.truthy) }

theorem prepare_run (t : Tracker) (hopen : b.built = none) {timestamp : Timestamp} {time : String}
    (htime : (timestamp.milliseconds s.now).bind Value.integerText = .ok time) :
    t.prepare timestamp (b, s)
      =
    (.ok (), t.prepared (s.identifier s.issued) time timestamp b, { s with issued := s.issued + 1 }) := by
  let installed : Builder := { b with processor := some (.standard t.base64.truthy) }
  let identified : Builder := { installed with
    pairs := b.pairs.set "eid" (.str (s.identifier s.issued)) }
  let completed : Builder := { identified with
    pairs := Pairs.setAllNonNull t.pairs identified.pairs }
  have hinstall : b.install (.standard t.base64.truthy) = .ok installed :=
    Builder.change_of_open hopen "with_json_processor" _
  have hid : Session.nextIdentifier s
      = (.ok (s.identifier s.issued), { s with issued := s.issued + 1 }) := rfl
  have hidentify : installed.add "eid" (.str (s.identifier s.issued)) = .ok identified :=
    Builder.add_of_open (b := installed) hopen "eid" _
  have hcomplete : identified.addAll t.pairs = .ok completed :=
    Builder.addAll_of_open (b := identified) hopen t.pairs
  have hstamp : completed.add timestamp.key (.str time)
      = .ok (t.prepared (s.identifier s.issued) time timestamp b) :=
    Builder.add_of_open (b := completed) hopen timestamp.key _
  rw [prepare, Act.bind_run (Act.updateSubject_run hinstall),
    Act.bind_run (Act.besideSubject_run hid), Act.bind_run (Act.updateSubject_run hidentify),
    Act.bind_run (Act.updateSubject_run hcomplete), Act.bind_run Act.get_run]
  dsimp only
  rw [htime, Act.ofExcept_ok, Act.bind_run Act.pure_run, Act.updateSubject_run hstamp]

theorem attachAll_of_open (hopen : b.built = none) (vs : List Value) :
    attachAll vs b = .ok (b.attached vs) := by
  unfold attachAll
  induction vs generalizing b with
  | nil => simp [pure, Except.pure]
  | cons v vs ih =>
    rw [List.foldlM_cons, Builder.attach_of_open hopen]
    have hrest := ih (b := b.attached [v]) hopen
    simpa [bind, Except.bind] using hrest

theorem contextsKey_ne_key (encode : Bool) (timestamp : Timestamp) :
    contextsKey encode ≠ timestamp.key := by
  cases encode <;> cases timestamp <;>
    simp [contextsKey, encodedContextsKey, plainContextsKey, Timestamp.key, Timestamp.trustedKey,
      Timestamp.deviceKey]

theorem get?_prepared (encode : Bool) (t : Tracker) (id time : String) (timestamp : Timestamp)
    (b : Builder) :
    (t.prepared id time timestamp b).pairs.get? (contextsKey encode)
      =
    (Pairs.setAllNonNull t.pairs b.pairs).get? (contextsKey encode) := by
  have heid : contextsKey encode ≠ "eid" := by
    cases encode <;> decide
  rw [prepared, Pairs.get?_set_of_ne (contextsKey_ne_key encode timestamp)]
  exact Pairs.get?_setAllNonNull_congr (Pairs.get?_set_of_ne heid _ b.pairs) t.pairs

def AreGiven (contexts : Value) (given : List Value) : Prop :=
  contexts = .null ∧ given = [] ∨ contexts.items? = some given

theorem entities_run {behaviour : Behaviour σ} {plugins : List Plugin} {contexts : Value}
    {contributed given : List Value} {s' : Session σ}
    (hcontributed : Plugin.contributions behaviour plugins s = (.ok contributed, s'))
    (hgiven : AreGiven contexts given) :
    Plugin.entities behaviour plugins contexts s = (.ok (contributed ++ given), s') := by
  rw [Plugin.entities, Act.bind_run hcontributed]
  rcases hgiven with ⟨rfl, rfl⟩ | hitems
  . simp [Value.truthy]
  . cases contexts with
    | list xs | tuple xs =>
      cases hitems
      cases given <;> simp [Value.truthy, Value.elements?]
    | _ => cases hitems

structure Gathered where
  unconditional : List Value
  conditional : List Value
  contributed : List Value
  given : List Value

def Gathered.entities (g : Gathered) : List Value :=
  g.unconditional ++ g.conditional ++ g.contributed ++ g.given

structure Sources extends Gathered where
  hooked : List Value
  called : List Value

def Sources.all (src : Sources) : List Value := src.entities ++ src.hooked ++ src.called

inductive Gathers (users : Users σ) (t : Tracker) (b : Builder) (s : Session σ) (g : Gathered)
    (s' : Session σ) : Prop where
  | intro {s₁ s₂ s₃ : Session σ}
      (unconditional : InTurn (Primitive.Contributes users.behave [.event (.ofBuilder b)])
        t.registry.primitives s g.unconditional s₁)
      (conditional : InTurn (Provider.Contributes users.behave (.ofBuilder b)) t.registry.providers
        s₁ g.conditional s₂)
      (reports : s₂.Reported s₃)
      (contributed : InTurn (Plugin.Contributes users.behave) t.plugins s₃ g.contributed s') :
      Gathers users t b s g s'

inductive Draws (users : Users σ) (t : Tracker) (contexts : Value) (b : Builder) (s : Session σ)
    (src : Sources) : Prop where
  | intro {s₁ s₂ s₃ : Session σ} (gathered : t.Gathers users b s src.toGathered s₁)
      (given : AreGiven contexts src.given)
      (hooked : InTurn (Plugin.Attaches users) t.plugins (b.attached src.entities, s₁) src.hooked
        (b.attached (src.entities ++ src.hooked), s₂))
      (called : CallbackAttaches users t.callback (b.attached (src.entities ++ src.hooked), s₂)
        src.called (b.attached src.all, s₃)) : Draws users t contexts b s src

/-- Whether nothing that a tracker calls stops the program or does more than it is meant to. -/
structure Harmless (users : Users σ) (t : Tracker) : Prop where
  primitives : ∀ p ∈ t.registry.primitives, p.Harmless users.behave
  providers : ∀ p ∈ t.registry.providers, p.Harmless users.behave
  plugins : ∀ p ∈ t.plugins, p.Harmless users
  callback : t.callback = .null ∨ ∃ f, t.callback = .callable f
    ∧ OnlyAttaches (users.callOnBuilder f)
    ∧ ∀ b s, b.built = none → (users.callOnBuilder f (b, s)).1 = .ok ()

structure HarmlessSources (users : Users σ) (t : Tracker) : Prop where
  primitives : ∀ p ∈ t.registry.primitives, p.Harmless users.behave
  providers : ∀ p ∈ t.registry.providers, p.Harmless users.behave
  contexts : ∀ p ∈ t.plugins, ∀ f, p.contexts = some f → ∀ s, Calm (f.call users.behave [] s).1
  serializable : ∀ p ∈ t.plugins, ∀ s vs s', p.Contributes users.behave s vs s' → ∀ v ∈ vs, v.IsSerializable

theorem Harmless.sources (h : t.Harmless users) : t.HarmlessSources users where
  primitives := h.primitives
  providers := h.providers
  contexts := fun p hp => (h.plugins p hp).contexts
  serializable := fun p hp => (h.plugins p hp).serializable

theorem gather_run (h : t.HarmlessSources users) {contexts : Value} {given : List Value}
    (hgiven : AreGiven contexts given) (b : Builder) (s : Session σ) :
    ∃ g s', t.gather users contexts (b, s) = (.ok g.entities, b, s') ∧ g.given = given
      ∧ t.Gathers users b s g s' := by
  have hprimitives : ∀ p ∈ t.registry.primitives, ∀ s, ∃ vs s',
      p.resolve users.behave [.event (.ofBuilder b)] s = (.ok vs, s')
        ∧ p.Contributes users.behave [.event (.ofBuilder b)] s vs s' :=
    fun p hp => Primitive.resolve_run fun f hf => (h.primitives p hp).calm f hf _
  have hproviders : ∀ p ∈ t.registry.providers, ∀ s, ∃ vs s',
      p.resolve users.behave (.ofBuilder b) s = (.ok vs, s')
        ∧ p.Contributes users.behave (.ofBuilder b) s vs s' :=
    fun p hp => Provider.resolve_run (fun f ps hf => (h.providers p hp).calm f ps hf _)
      fun q hq f hf => ((h.providers p hp).primitives q hq).calm f hf _
  obtain ⟨unconditional, conditional, s₁, s₂, s₃, hresolve, hunconditional, hconditional, hs₃⟩ :=
    Registry.resolve_run hprimitives hproviders s
  obtain ⟨contributed, s', hplugins, hcontributed⟩ :=
    InTurn.collect_run (fun p hp => Plugin.contribution_run (h.contexts p hp)) s₃
  have hentities : Plugin.entities users.behave t.plugins contexts s₃
      = (.ok (contributed ++ given), s') := by
    rw [← Plugin.contributions_eq] at hplugins
    exact entities_run hplugins hgiven
  refine ⟨⟨unconditional, conditional, contributed, given⟩, s', ?_, rfl,
    .intro hunconditional hconditional hs₃ hcontributed⟩
  rw [gather, Act.bind_run Act.subject_run, Act.bind_run (Act.besideSubject_run hresolve),
    Act.bind_run (Act.besideSubject_run hentities)]
  simp [Gathered.entities]

theorem Gathers.serializable {g : Gathered} {s' : Session σ} (hg : t.Gathers users b s g s')
    (h : t.HarmlessSources users) (hgiven : ∀ v ∈ g.given, v.IsSerializable) :
    ∀ v ∈ g.entities, v.IsSerializable := by
  obtain ⟨unconditional, conditional, _, contributed⟩ := hg
  rw [Gathered.entities, List.forall_mem_append, List.forall_mem_append, List.forall_mem_append]
  refine ⟨⟨⟨?_, ?_⟩, ?_⟩, hgiven⟩
  . exact unconditional.forall_mem fun p hp => (h.primitives p hp).serializable (.ofBuilder b)
  . exact conditional.forall_mem fun p hp _ _ _ => (h.providers p hp).serializable
  . exact contributed.forall_mem h.serializable

theorem callback_run (h : t.Harmless users) (hopen : b.built = none) (s : Session σ) :
    ∃ vs s', runCallback users t.callback (b, s) = (.ok (), b.attached vs, s')
      ∧ CallbackAttaches users t.callback (b, s) vs (b.attached vs, s')
      ∧ ∀ v ∈ vs, v.IsSerializable := by
  rcases h.callback with hnull | ⟨f, hcallback, hattaches, hok⟩
  . refine ⟨[], s, ?_, ?_, by simp⟩
    . rw [hnull, Builder.attached_nil]
      rfl
    . rw [hnull, Builder.attached_nil]
      exact .absent
  . obtain ⟨outcome, vs, s', hcall, _, hvs⟩ := hattaches b s hopen
    have houtcome : outcome = .ok () := by
      rw [← hok b s hopen, hcall]
    subst houtcome
    rw [hcallback]
    exact ⟨vs, s', hcall, .called hcall, hvs⟩

theorem stages_run (h : t.Harmless users) {contexts : Value} {given : List Value}
    (hgiven : AreGiven contexts given) (hdocuments : ∀ v ∈ given, v.IsSerializable)
    (hopen : b.built = none) (s : Session σ) :
    ∃ src : Sources, ∃ s₁ s₂ s₃,
      t.gather users contexts (b, s) = (.ok src.entities, b, s₁)
      ∧ runHooks "before_track" Plugin.beforeTrack users.callOnBuilder t.plugins
          (b.attached src.entities, s₁) = (.ok (), b.attached (src.entities ++ src.hooked), s₂)
      ∧ runCallback users t.callback (b.attached (src.entities ++ src.hooked), s₂)
          = (.ok (), b.attached src.all, s₃)
      ∧ src.given = given
      ∧ t.Draws users contexts b s src ∧ ∀ v ∈ src.all, v.IsSerializable := by
  obtain ⟨g, s₁, hgather, rfl, hgathers⟩ := gather_run h.sources hgiven b s
  obtain ⟨hooked, s₂, hhooks, hhooked, hattached⟩ :=
    beforeTrack_run (b := b.attached g.entities) hopen (fun p hp => (h.plugins p hp).beforeTrack) s₁
  rw [Builder.attached_attached] at hhooks hhooked
  obtain ⟨called, s₃, hcallback, hcalled, hcalledDocuments⟩ :=
    callback_run (b := b.attached (g.entities ++ hooked)) h hopen s₂
  rw [Builder.attached_attached] at hcallback hcalled
  refine ⟨⟨g, hooked, called⟩, s₁, s₂, s₃, hgather, hhooks, hcallback, rfl,
    .intro hgathers hgiven hhooked hcalled, ?_⟩
  rw [Sources.all, List.forall_mem_append, List.forall_mem_append]
  exact ⟨⟨hgathers.serializable h.sources hdocuments, hattached⟩, hcalledDocuments⟩

theorem reports_traceTracked (t : Tracker) (payload : Pairs) (entities : Nat) :
    Act.Reports (t.traceTracked (σ := σ) payload entities) :=
  .bind (Act.reports_debug _ _) (Act.reports_trace _ _)

theorem finish_of_built {st : Builder × Session σ} {payload returned : Pairs} {s₁ : Session σ} (entities : Nat)
    (hbuild : Builder.build users.process st = (.ok payload, b, s))
    (hafter : runHooks "after_track" Plugin.afterTrack users.callOnPayload t.plugins (payload, s)
      = (.ok (), returned, s₁)) :
    ∃ s₂, t.finish users entities st = (.ok returned, b, s₂) ∧ s₁.Reported s₂ := by
  obtain ⟨s₂, htrace, hs₂⟩ := reports_traceTracked t returned entities s₁
  refine ⟨s₂, ?_, hs₂⟩
  rw [finish, Act.bind_run hbuild, Act.bind_run (Act.besideSubject_run (Act.onSubject_run hafter))]
  dsimp only
  rw [Act.ofExcept_ok, Act.bind_run Act.pure_run, Act.bind_run (Act.besideSubject_run htrace)]
  rfl

def completed (t : Tracker) (s : Session σ) (time : String) (timestamp : Timestamp) (b : Builder)
    (src : Sources) : Builder :=
  (t.prepared (s.identifier s.issued) time timestamp b).attached src.all

theorem readsContexts_completed {time : String} {timestamp : Timestamp} {src : Sources}
    (hds : LeavesContexts b.deferred)
    (hget : ∀ text,
      (Pairs.setAllNonNull t.pairs b.pairs).get? (contextsKey t.base64.truthy) ≠ some (.str text)) :
    ReadsContexts t.base64.truthy (t.completed s time timestamp b src) := by
  apply readsContexts_of_get? (b := t.completed s time timestamp b src) hds
  intro text
  have hkey := get?_prepared t.base64.truthy t (s.identifier s.issued) time timestamp b
  exact fun htext => hget text (hkey.symm.trans htext)

theorem track_run (h : t.Harmless users) {contexts : Value} {given : List Value}
    (hgiven : AreGiven contexts given) (hgivenDocuments : ∀ v ∈ given, v.IsSerializable)
    (hopen : b.built = none) (hdocuments : HasDocuments b) {timestamp : Timestamp} {time : String}
    (htime : (timestamp.milliseconds s.now).bind Value.integerText = .ok time) :
    ∃ src : Sources, src.given = given
      ∧ t.Draws users contexts (t.prepared (s.identifier s.issued) time timestamp b)
          { s with issued := s.issued + 1 } src
      ∧ HasDocuments (t.completed s time timestamp b src)
      ∧ (ReadsContexts t.base64.truthy (t.completed s time timestamp b src) →
          ∃ b' s', t.track users contexts timestamp (b, s)
            = (.ok ((t.completed s time timestamp b src).standardPayload t.base64.truthy), b', s'))
      ∧ (∀ bracket, Overflows t.base64.truthy bracket (t.completed s time timestamp b src) →
          ∃ b' s', t.track users contexts timestamp (b, s) = (.error (.nestedTooDeep bracket), b', s')
            ∧ b'.built = none) := by
  unfold completed
  generalize hp : t.prepared (s.identifier s.issued) time timestamp b = p
  have hpopen : p.built = none := by
    rw [← hp]
    exact hopen
  have hprocessor : p.processor = some (.standard t.base64.truthy) := by
    rw [← hp]
    rfl
  obtain ⟨src, s₁, s₂, s₃, hgather, hhooks, hcallback, hsrcGiven, hdraws, hsrc⟩ :=
    stages_run h hgiven hgivenDocuments hpopen { s with issued := s.issued + 1 }
  have hall : HasDocuments (p.attached src.all) := by
    rw [← hp]
    exact ⟨hdocuments.deferred, List.forall_mem_append.2 ⟨hdocuments.entities, hsrc⟩⟩
  -- One stage after another up to the build, each from the state that the one before has left.
  have hstages : t.track users contexts timestamp (b, s)
      = t.finish users src.entities.length (p.attached src.all, s₃) := by
    rw [track, Act.bind_run (prepare_run t hopen htime), hp, Act.bind_run hgather,
      Act.bind_run (Act.updateSubject_run (attachAll_of_open hpopen src.entities)),
      Act.bind_run hhooks, Act.bind_run hcallback]
  refine ⟨src, hsrcGiven, hdraws, hall, ?_, ?_⟩
  . intro hreads
    obtain ⟨s₄, hbuild, _⟩ := Builder.build_run (b := p.attached src.all) users.process hpopen
      hprocessor ⟨hall, hreads⟩ s₃
    generalize (p.attached src.all).standardPayload t.base64.truthy = payload at hbuild ⊢
    obtain ⟨s₅, hafter⟩ := afterTrack_run (fun p hp => (h.plugins p hp).afterTrack) payload s₄
    obtain ⟨s₆, hfinish, _⟩ := finish_of_built src.entities.length hbuild hafter
    exact ⟨_, s₆, hstages.trans hfinish⟩
  . intro bracket hoverflows
    have hbuild := Builder.build_of_overflow (b := p.attached src.all) users.process hpopen hprocessor
      hall.deferred hoverflows s₃
    exact ⟨_, s₃, hstages.trans (Act.bind_run_error hbuild), hpopen⟩

/--
The contexts document of a tracked event holds the entities that the builder and the pairs of the tracker
came with, then those of the sources in their order; without any entity there is no new document. Only a
text on the payload that is nested too deeply keeps the event from being tracked.
-/
theorem track_contexts (h : t.Harmless users) {contexts : Value} {given : List Value}
    (hgiven : AreGiven contexts given) (hgivenDocuments : ∀ v ∈ given, v.IsSerializable)
    (hopen : b.built = none) (hdocuments : HasDocuments b) (hds : LeavesContexts b.deferred)
    {timestamp : Timestamp} {time : String}
    (htime : (timestamp.milliseconds s.now).bind Value.integerText = .ok time) :
    ∃ src : Sources, src.given = given
      ∧ t.Draws users contexts (t.prepared (s.identifier s.issued) time timestamp b)
          { s with issued := s.issued + 1 } src
      ∧ (ReadsContexts t.base64.truthy (t.completed s time timestamp b src) →
          ∃ payload b' s', t.track users contexts timestamp (b, s) = (.ok payload, b', s')
            ∧ ((∃ d ∈ b.deferred, isContexts d = true) ∨ b.entities ++ src.all ≠ [] →
                HoldsContexts t.base64.truthy payload
                  (carriedEntities t.base64.truthy (Pairs.setAllNonNull t.pairs b.pairs)
                    ++ deferredEntities b.deferred ++ (b.entities ++ src.all)))
            ∧ ((∀ d ∈ b.deferred, isContexts d = false) → b.entities ++ src.all = [] →
                payload.get? (contextsKey t.base64.truthy)
                  = (Pairs.setAllNonNull t.pairs b.pairs).get? (contextsKey t.base64.truthy)))
      ∧ (∀ bracket, Overflows t.base64.truthy bracket (t.completed s time timestamp b src) →
          ∃ b' s', t.track users contexts timestamp (b, s)
            = (.error (.nestedTooDeep bracket), b', s')) := by
  obtain ⟨src, hsrcGiven, hdraws, hall, hreturns, hfails⟩ :=
    track_run h hgiven hgivenDocuments hopen hdocuments htime
  have hkey := get?_prepared t.base64.truthy t (s.identifier s.issued) time timestamp b
  have hentities : (t.completed s time timestamp b src).entities = b.entities ++ src.all := rfl
  have hcarried : carriedEntities t.base64.truthy (t.completed s time timestamp b src).pairs
      = carriedEntities t.base64.truthy (Pairs.setAllNonNull t.pairs b.pairs) :=
    carriedEntities_congr hkey
  refine ⟨src, hsrcGiven, hdraws, ?_, ?_⟩
  . intro hreads
    obtain ⟨b', s', htrack⟩ := hreturns hreads
    refine ⟨_, b', s', htrack, ?_, ?_⟩
    . intro hsome
      rw [← hcarried, ← hentities]
      exact Builder.holdsContexts_standardPayload hall hds hsome
    . intro hnone hempty
      rw [← hkey]
      exact Builder.get?_contextsKey_standardPayload hds hnone (hentities.trans hempty)
  . intro bracket hoverflows
    obtain ⟨b', s', htrack, _⟩ := hfails bracket hoverflows
    exact ⟨b', s', htrack⟩

/-! ### A tracker with all sources -/

def entityNamed (name : String) : Value :=
  .object [(.str "sc", .str name), (.str "dt", .object [(.str "id", .str name)])]

def routineNamed (name : String) (isNamed : Bool) : Callable :=
  .routine ⟨name, [⟨"args", .variadic, false⟩], none, isNamed⟩

def namesakes : Users Unit where
  behave r _ := return if r.isNamed then entityNamed r.name else .bool true
  process _ _ _ := return .null
  onBuilder r := do
    Act.updateSubject (Builder.attach (entityNamed r.name))
    return .null
  onPayload _ := return .null
  onTracker _ := return .null
  onFacade _ := return .null

def allSources : Tracker where
  settings := none
  base64 := .bool false
  pairs := []
  plugins := [⟨none, "plugin", none, some (routineNamed "hook" true), some (routineNamed "after" true),
    some (routineNamed "plugin" true), none⟩]
  registry := ⟨[.generator (routineNamed "generator" true)],
    [.filter (routineNamed "criterion" false) [.fixed (entityNamed "conditional")]]⟩
  callback := .callable (routineNamed "callback" true)

theorem isSerializable_named (name : String) : (entityNamed name).IsSerializable :=
  ⟨.obj [("sc", .str name), ("dt", .obj [("id", .str name)])], rfl⟩

theorem isSerializable_of_mem_named {name : String} {v : Value} (h : v ∈ [entityNamed name]) :
    v.IsSerializable := by
  rw [List.mem_singleton.1 h]
  exact isSerializable_named name

theorem callOnBuilder_routine (name : String) (hopen : b.built = none) (s : Session Unit) :
    namesakes.callOnBuilder (routineNamed name true) (b, s) = (.ok (), b.attached [entityNamed name], s) := by
  have henter : (routineNamed name true).enter [.foreign "PayloadBuilder" 0]
      = .ok (some ⟨name, [⟨"args", .variadic, false⟩], none, true⟩) := rfl
  have hattach := Act.updateSubject_run (s := s) (Builder.attach_of_open hopen (entityNamed name))
  rw [Users.callOnBuilder, henter, Act.ofExcept_ok, Act.bind_run Act.pure_run]
  exact Act.discard_run (Act.bind_run hattach)

theorem onlyAttaches_routine (name : String) :
    OnlyAttaches (namesakes.callOnBuilder (routineNamed name true)) := by
  intro b s hopen
  exact ⟨.ok (), [entityNamed name], s, callOnBuilder_routine name hopen s, by simp [Calm],
    fun _ => isSerializable_of_mem_named⟩

theorem contributes_generator {e : ContextEvent} {s s' : Session Unit} {vs : List Value}
    (h : (Primitive.generator (routineNamed "generator" true)).Contributes namesakes.behave [.event e]
      s vs s') : vs = [entityNamed "generator"] := by
  cases h with
  | returned call =>
    cases call
    rfl
  | failed call => cases call

theorem contributes_criterion {e : ContextEvent} {s s' : Session Unit} {vs : List Value}
    (h : (Provider.filter (routineNamed "criterion" false) [.fixed (entityNamed "conditional")]).Contributes
      namesakes.behave e s vs s') : vs = [entityNamed "conditional"] := by
  cases h with
  | passed _ primitives =>
    cases primitives with
    | cons first rest =>
      cases first
      cases rest
      rfl
  | notPassed call notTrue =>
    cases call
    exact absurd rfl notTrue

theorem contributes_plugin {p : Plugin} (hp : p ∈ allSources.plugins) {s s' : Session Unit}
    {vs : List Value} (h : p.Contributes namesakes.behave s vs s') : vs = [entityNamed "plugin"] := by
  rw [List.mem_singleton.1 hp] at h
  cases h with
  | nothing _ hook => cases hook
  | returned hook call =>
    cases hook
    cases call
    rfl
  | failed hook call =>
    cases hook
    cases call

theorem attached_of_callOnBuilder {name : String} (hopen : b.built = none) {s s' : Session Unit}
    {outcome : Except Fault Unit} {vs : List Value}
    (h : namesakes.callOnBuilder (routineNamed name true) (b, s) = (outcome, b.attached vs, s')) :
    vs = [entityNamed name] := by
  rw [callOnBuilder_routine name hopen] at h
  injection h with _ h
  injection h with h
  injection h with _ _ h
  exact (List.append_cancel_left h).symm

theorem attaches_plugin {p : Plugin} (hp : p ∈ allSources.plugins) (hopen : b.built = none)
    {s : Session Unit} {vs : List Value} {st : Builder × Session Unit}
    (h : p.Attaches namesakes (b, s) vs st) : vs = [entityNamed "hook"] := by
  rw [List.mem_singleton.1 hp] at h
  cases h with
  | nothing hook => cases hook
  | hooked hook call =>
    cases hook
    exact attached_of_callOnBuilder hopen call

theorem harmless_allSources : allSources.Harmless namesakes where
  primitives := by
    simp only [allSources, List.forall_mem_singleton]
    constructor
    . rintro f ⟨⟩ e s
      rintro fault ⟨⟩
    . intro e s vs s' h v hv
      rw [contributes_generator h] at hv
      exact isSerializable_of_mem_named hv
  providers := by
    simp only [allSources, List.forall_mem_singleton]
    constructor
    . rintro f ps ⟨⟩ e s
      rintro fault ⟨⟩
    . simp only [Provider.primitives, List.forall_mem_singleton]
      constructor
      . rintro f ⟨⟩
      . intro e s vs s' h v hv
        cases h
        exact isSerializable_of_mem_named hv
  plugins := by
    intro p hp
    constructor
    . rw [List.mem_singleton.1 hp]
      rintro f ⟨⟩ s fault ⟨⟩
    . intro s vs s' h v hv
      rw [contributes_plugin hp h] at hv
      exact isSerializable_of_mem_named hv
    . rw [List.mem_singleton.1 hp]
      rintro f ⟨⟩
      exact onlyAttaches_routine "hook"
    . rw [List.mem_singleton.1 hp]
      rintro f ⟨⟩ payload s
      exact ⟨.ok (), s, rfl, by simp [Calm]⟩
  callback := Or.inr ⟨routineNamed "callback" true, rfl, onlyAttaches_routine "callback",
    fun b s hopen => by rw [callOnBuilder_routine "callback" hopen]⟩

theorem all_of_draws {s : Session Unit} {src : Sources} (hopen : b.built = none)
    (hgiven : src.given = [entityNamed "given"])
    (h : allSources.Draws namesakes (.list [entityNamed "given"]) b s src) :
    src.all = ["generator", "conditional", "plugin", "given", "hook", "callback"].map entityNamed := by
  obtain ⟨⟨unconditional, conditional, _, contributed⟩, _, hooked, called⟩ := h
  -- Each source has a single member, and what that member contributes is known.
  have hunconditional : src.unconditional = [entityNamed "generator"] := by
    generalize src.unconditional = vs at unconditional
    cases unconditional with
    | cons first rest =>
      cases rest
      rw [contributes_generator first, List.append_nil]
  have hconditional : src.conditional = [entityNamed "conditional"] := by
    generalize src.conditional = vs at conditional
    cases conditional with
    | cons first rest =>
      cases rest
      rw [contributes_criterion first, List.append_nil]
  have hcontributed : src.contributed = [entityNamed "plugin"] := by
    generalize src.contributed = vs at contributed
    cases contributed with
    | cons first rest =>
      cases rest
      rw [contributes_plugin List.mem_cons_self first, List.append_nil]
  have hhooked : src.hooked = [entityNamed "hook"] := by
    generalize src.hooked = vs at hooked
    generalize (b.attached (src.entities ++ vs), _) = st at hooked
    cases hooked with
    | cons first rest =>
      cases rest
      rw [attaches_plugin (b := b.attached src.entities) List.mem_cons_self hopen first,
        List.append_nil]
  have hcalled : src.called = [entityNamed "callback"] := by
    generalize (b.attached src.all, _) = st at called
    cases called with
    | called call =>
      exact attached_of_callOnBuilder (b := b.attached (src.entities ++ src.hooked)) hopen call
  simp [Sources.all, Gathered.entities, hunconditional, hconditional, hcontributed, hgiven, hhooked,
    hcalled]

def epoch : Session Unit := .initial () (.whole 0) "" toString

theorem isWritableInteger_zero : Text.isWritableInteger 0 = true := by
  unfold Text.isWritableInteger Text.tooLongInteger
  -- The power is not to be computed.
  generalize Text.maxDigits = k
  exact decide_eq_true (Nat.pow_pos (by decide))

theorem time_epoch :
    (Timestamp.now.milliseconds epoch.now).bind Value.integerText = .ok (toString (0 : Int)) := by
  have hnow : Timestamp.now.milliseconds epoch.now = .ok 0 := rfl
  rw [hnow, Except.bind, Value.integerText_of_writable isWritableInteger_zero]

theorem track_contexts_allSources :
    ∃ payload b' s',
      allSources.track namesakes (.list [entityNamed "given"]) .now
        (Builder.empty.attached [entityNamed "own"], epoch) = (.ok payload, b', s')
      ∧ HoldsContexts false payload
        (["own", "generator", "conditional", "plugin", "given", "hook", "callback"].map entityNamed) := by
  have hgiven : AreGiven (.list [entityNamed "given"]) [entityNamed "given"] := Or.inr rfl
  have hgivenDocuments : ∀ v ∈ [entityNamed "given"], v.IsSerializable :=
    fun _ => isSerializable_of_mem_named
  have hdocuments : HasDocuments (Builder.empty.attached [entityNamed "own"]) :=
    ⟨by simp [Builder.empty, Builder.attached], fun _ => isSerializable_of_mem_named⟩
  have hds : LeavesContexts (Builder.empty.attached [entityNamed "own"]).deferred := by
    simp [LeavesContexts, Builder.empty, Builder.attached]
  obtain ⟨src, hsrcGiven, hdraws, hreturns, _⟩ :=
    track_contexts harmless_allSources hgiven hgivenDocuments rfl hdocuments hds time_epoch
  have hreads : ReadsContexts allSources.base64.truthy (allSources.completed epoch (toString (0 : Int)) .now
      (Builder.empty.attached [entityNamed "own"]) src) :=
    readsContexts_completed hds fun text htext => by cases htext
  obtain ⟨payload, b', s', htrack, hholds, _⟩ := hreturns hreads
  have hseven := hholds (Or.inr (by simp [Builder.attached]))
  rw [all_of_draws rfl hsrcGiven hdraws] at hseven
  exact ⟨payload, b', s', htrack, hseven⟩

end Tracker

end EventTracking
