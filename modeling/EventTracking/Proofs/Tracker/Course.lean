import EventTracking.Proofs.Context.Isolation
import EventTracking.Proofs.Payload.Frozen
import EventTracking.Proofs.Tracker.Contexts

/-!
This module contains the theorem on the course of tracking: which of the user's callables are called, in which
order, and whether the builder has been built by then.
-/

namespace EventTracking

open Processing (HasDocuments ReadsContexts Overflows hasDocuments_empty)

def Builder.completed (encode : Bool) (b : Builder) : Builder :=
  { b with pairs := b.standardPayload encode, built := some (b.standardPayload encode) }

structure Builder.Ready (encode : Bool) (b : Builder) : Prop where
  opened : b.built = none
  processor : b.processor = some (.standard encode)
  documents : HasDocuments b

inductive Plugin.Hands {σ : Type} (users : Users σ) :
    Plugin → Pairs × Session σ → List Value → Pairs × Session σ → Prop where
  | nothing {p : Plugin} (hook : p.afterTrack = none) (st : Pairs × Session σ) : Hands users p st [] st
  | hooked {p : Plugin} {f : Callable} {outcome : Except Fault Unit} {payload payload' : Pairs}
      {s s' s'' : Session σ} (hook : p.afterTrack = some f)
      (call : users.callOnPayload f (payload, s) = (outcome, payload', s')) (reports : s'.Reported s'') :
      Hands users p (payload, s) [] (payload', s'')

inductive Registry.CallsFor (r : Registry) (schema : String) : Calls → Prop where
  | intro {calls calls' : Calls} {unconditional conditional : List Value}
      (primitives : Each Primitive.Yields r.primitives calls unconditional)
      (providers : Each (Provider.Yields schema) r.providers calls' conditional) :
      CallsFor r schema (calls ++ calls')

namespace Tracker

variable {σ : Type} {users : Users σ} {t : Tracker} {e : ContextEvent} {encode : Bool} {b : Builder}
  {s s' : Session σ}

/-! ### Calls and the course of a run -/

inductive Call where
  | registered (f : Callable) (outcome : Except Fault Value)
  | contexts (f : Callable)
  | beforeTrack (f : Callable)
  | callback (f : Callable) (answer : Except Fault Unit)
  | afterTrack (f : Callable)

/-- Where a run stands. There is a payload to hand out once the builder has been built. -/
structure Scene (σ : Type) where
  builder : Builder
  payload : Option Pairs
  session : Session σ

inductive Proceeds (encode : Bool) : Scene σ → Scene σ → Prop where
  | reports {b : Builder} {payload : Option Pairs} {s s' : Session σ} (h : s.Reported s') :
      Proceeds encode ⟨b, payload, s⟩ ⟨b, payload, s'⟩
  | attaches {b : Builder} {s : Session σ} (opened : b.built = none) (vs : List Value) :
      Proceeds encode ⟨b, none, s⟩ ⟨b.attached vs, none, s⟩
  | builds {b : Builder} {s : Session σ} (opened : b.built = none) :
      Proceeds encode ⟨b, none, s⟩ ⟨b.completed encode, some (b.standardPayload encode), s⟩

inductive Makes (users : Users σ) (e : ContextEvent) : Call → Scene σ → Scene σ → Prop where
  | registered {f : Callable} {outcome : Except Fault Value} {b : Builder} {s s' : Session σ}
      (opened : b.built = none) (call : f.invoke users.behave [.event e] s = (outcome, s')) :
      Makes users e (.registered f outcome) ⟨b, none, s⟩ ⟨b, none, s'⟩
  | contexts {f : Callable} {outcome : Except Fault Value} {b : Builder} {s s' : Session σ}
      (opened : b.built = none) (call : f.call users.behave [] s = (outcome, s')) :
      Makes users e (.contexts f) ⟨b, none, s⟩ ⟨b, none, s'⟩
  | beforeTrack {f : Callable} {outcome : Except Fault Unit} {b b' : Builder} {s s' : Session σ}
      (opened : b.built = none) (call : users.callOnBuilder f (b, s) = (outcome, b', s')) :
      Makes users e (.beforeTrack f) ⟨b, none, s⟩ ⟨b', none, s'⟩
  | callback {f : Callable} {answer : Except Fault Unit} {b b' : Builder} {s s' : Session σ}
      (opened : b.built = none) (call : users.callOnBuilder f (b, s) = (answer, b', s')) :
      Makes users e (.callback f answer) ⟨b, none, s⟩ ⟨b', none, s'⟩
  | afterTrack {f : Callable} {outcome : Except Fault Unit} {b : Builder} {payload payload' : Pairs}
      {s s' : Session σ} (built : b.built.isSome = true)
      (call : users.callOnPayload f (payload, s) = (outcome, payload', s')) :
      Makes users e (.afterTrack f) ⟨b, some payload, s⟩ ⟨b, some payload', s'⟩

inductive Course (users : Users σ) (e : ContextEvent) (encode : Bool) :
    List Call → Scene σ → Scene σ → Prop where
  | done (st : Scene σ) : Course users e encode [] st st
  | proceeds {calls : List Call} {st st' st'' : Scene σ} (own : Proceeds encode st st')
      (rest : Course users e encode calls st' st'') : Course users e encode calls st st''
  | makes {c : Call} {calls : List Call} {st st' st'' : Scene σ} (call : Makes users e c st st')
      (rest : Course users e encode calls st' st'') : Course users e encode (c :: calls) st st''

namespace Course

variable {calls calls' : List Call} {st st' st'' : Scene σ}

theorem append (h : Course users e encode calls st st') (h' : Course users e encode calls' st' st'') :
    Course users e encode (calls ++ calls') st st'' := by
  induction h with
  | done => exact h'
  | proceeds own _ ih => exact .proceeds own (ih h')
  | makes call _ ih => exact .makes call (ih h')

theorem reports {payload : Option Pairs} (h : s.Reported s') :
    Course users e encode [] ⟨b, payload, s⟩ ⟨b, payload, s'⟩ :=
  .proceeds (.reports h) (.done _)

theorem inTurn {ι S : Type} {ran : ι → S → List Value → S → Prop} (scene : S → Scene σ)
    {callOf : ι → Option Call} {is : List ι} {x x' : S} {vs : List Value} (h : InTurn ran is x vs x')
    (hone : ∀ i x vs x', ran i x vs x' → Course users e encode (callOf i).toList (scene x) (scene x')) :
    Course users e encode (is.filterMap callOf) (scene x) (scene x') := by
  induction h with
  | nil => exact .done _
  | @cons i is _ _ _ _ _ first _ ih =>
    have hcons : (i :: is).filterMap callOf = (callOf i).toList ++ is.filterMap callOf := by
      rw [List.filterMap_cons]
      cases callOf i <;> rfl
    rw [hcons]
    exact (hone _ _ _ _ first).append ih

end Course

/-! ### What a tracker calls -/

inductive Answers : Value → Except Fault Unit → List Call → Prop where
  | absent : Answers .null (.ok ()) []
  | called {f : Callable} {answer : Except Fault Unit} : Answers (.callable f) answer [.callback f answer]
  | notCallable {v : Value} (present : v.isNull = false) (other : v.callable? = none) :
      Answers v (.error (.notCallable v.kind)) []

def callsBefore (t : Tracker) (registered : Calls) (called : List Call) : List Call :=
  registered.map (fun (f, outcome) => .registered f outcome)
    ++ t.plugins.filterMap (fun p => p.contexts.map .contexts)
    ++ t.plugins.filterMap (fun p => p.beforeTrack.map .beforeTrack)
    ++ called

def callsAfter (t : Tracker) : List Call :=
  t.plugins.filterMap fun p => p.afterTrack.map .afterTrack

def KeepsReady (call : Act (Builder × Session σ) Unit) : Prop :=
  ∀ encode b s, b.Ready encode → (call (b, s)).2.1.Ready encode

structure Orderly (users : Users σ) (t : Tracker) : Prop extends HarmlessSources users t where
  calm_beforeTrack : ∀ p ∈ t.plugins, ∀ f, p.beforeTrack = some f → ∀ st, Calm (users.callOnBuilder f st).1
  beforeTrack : ∀ p ∈ t.plugins, ∀ f, p.beforeTrack = some f → KeepsReady (users.callOnBuilder f)
  callback : ∀ f, t.callback = .callable f → KeepsReady (users.callOnBuilder f)
  afterTrack : ∀ p ∈ t.plugins, ∀ f, p.afterTrack = some f → ∀ st, Calm (users.callOnPayload f st).1

/-! ### The course of the stages -/

theorem Course.of_made {calls : Calls} (hopen : b.built = none)
    (h : calls.Made users.behave [.event e] s s') :
    Course users e encode (calls.map fun (f, outcome) => .registered f outcome)
      ⟨b, none, s⟩ ⟨b, none, s'⟩ := by
  induction h with
  | none reports => exact .reports reports
  | call reports call _ ih => exact .proceeds (.reports reports) (.makes (.registered hopen call) ih)

theorem Course.of_contributes {p : Plugin} {vs : List Value} (hopen : b.built = none)
    (h : p.Contributes users.behave s vs s') :
    Course users e encode (p.contexts.map Call.contexts).toList ⟨b, none, s⟩ ⟨b, none, s'⟩ := by
  cases h with
  | nothing _ hook =>
    rw [hook]
    exact .done _
  | returned hook call reports | failed hook call reports =>
    rw [hook]
    exact .makes (.contexts hopen call) (.reports reports)

theorem Gathers.course (encode : Bool) {g : Gathered} (hopen : b.built = none)
    (h : t.Gathers users b s g s') :
    ∃ registered, t.registry.CallsFor (ContextEvent.ofBuilder b).schema registered
      ∧ Course users (.ofBuilder b) encode
          (registered.map (fun (f, outcome) => .registered f outcome)
            ++ t.plugins.filterMap fun p => p.contexts.map .contexts)
          ⟨b, none, s⟩ ⟨b, none, s'⟩ := by
  obtain ⟨unconditional, conditional, reports, contributed⟩ := h
  obtain ⟨calls, hyields, hmade⟩ := unconditional.yields Primitive.Contributes.yields
  obtain ⟨calls', hyields', hmade'⟩ := conditional.yields Provider.Contributes.yields
  refine ⟨calls ++ calls', .intro hyields hyields', ?_⟩
  have hall := hmade.append (hmade'.append (.none reports))
  rw [List.append_nil] at hall
  refine (Course.of_made hopen hall).append ?_
  exact Course.inTurn (fun s => ⟨b, none, s⟩) contributed fun _ _ _ _ h => .of_contributes hopen h

theorem runHooks_of_none {T : Type} {name : String} {hook : Plugin → Option Callable}
    {call : Callable → Act (T × Session σ) Unit} {ps : List Plugin} (h : ∀ p ∈ ps, hook p = none) :
    runHooks name hook call ps = pure () := by
  induction ps with
  | nil => rfl
  | cons p ps ih =>
    obtain ⟨hp, hps⟩ := List.forall_mem_cons.1 h
    rw [runHooks, hp, ih hps]

theorem beforeTrack_course (h : t.Orderly users) (hb : b.Ready encode) (e : ContextEvent) (s : Session σ) :
    ∃ b' s', runHooks "before_track" Plugin.beforeTrack users.callOnBuilder t.plugins (b, s)
        = (.ok (), b', s')
      ∧ b'.Ready encode
      ∧ Course users e encode (t.plugins.filterMap fun p => p.beforeTrack.map .beforeTrack)
          ⟨b, none, s⟩ ⟨b', none, s'⟩
      ∧ ((∀ p ∈ t.plugins, p.beforeTrack = none) → b' = b) := by
  obtain ⟨_, b', s', hrun, hb', hran⟩ := runHooks_run "before_track" Plugin.beforeTrack
    users.callOnBuilder (fun b => b.Ready encode)
    (fun p st _ st' => Course users e encode (p.beforeTrack.map Call.beforeTrack).toList
      ⟨st.1, none, st.2⟩ ⟨st'.1, none, st'.2⟩)
    (fun p _ hhook b s => by
      rw [hhook]
      exact .done _)
    (fun p hp f hhook b s hb => by
      refine ⟨_, [], _, _, rfl, h.calm_beforeTrack p hp f hhook (b, s),
        h.beforeTrack p hp f hhook encode b s hb, fun s'' hs'' => ?_⟩
      rw [hhook]
      exact .makes (.beforeTrack hb.opened rfl) (.reports hs''))
    hb s
  refine ⟨b', s', hrun, hb', Course.inTurn (fun st => ⟨st.1, none, st.2⟩) hran fun _ _ _ _ h => h, ?_⟩
  intro hnone
  rw [runHooks_of_none hnone] at hrun
  cases hrun
  rfl

theorem callback_course (h : t.Orderly users) (hb : b.Ready encode) (e : ContextEvent) (s : Session σ) :
    ∃ answer called b' s', runCallback users t.callback (b, s) = (answer, b', s')
      ∧ Answers t.callback answer called
      ∧ b'.Ready encode
      ∧ Course users e encode called ⟨b, none, s⟩ ⟨b', none, s'⟩
      ∧ (t.callback = .null → b' = b) := by
  have hcallback := h.callback
  generalize t.callback = callback at hcallback
  cases callback with
  | null => exact ⟨.ok (), [], b, s, rfl, .absent, hb, .done _, fun _ => rfl⟩
  | callable f =>
    exact ⟨_, _, _, _, rfl, .called, hcallback f rfl encode b s hb,
      .makes (.callback hb.opened rfl) (.done _), nofun⟩
  | _ => exact ⟨_, [], b, s, rfl, .notCallable rfl rfl, hb, .done _, nofun⟩

theorem afterTrack_hands (h : t.Orderly users) (payload : Pairs) (s : Session σ) :
    ∃ vs returned s', runHooks "after_track" Plugin.afterTrack users.callOnPayload t.plugins (payload, s)
        = (.ok (), returned, s')
      ∧ InTurn (Plugin.Hands users) t.plugins (payload, s) vs (returned, s') := by
  obtain ⟨vs, returned, s', hrun, _, hhands⟩ := runHooks_run "after_track" Plugin.afterTrack
    users.callOnPayload (fun _ => True) (Plugin.Hands users)
    (fun p _ hhook payload s => .nothing hhook (payload, s))
    (fun p hp f hhook payload s _ => ⟨_, [], _, _, rfl, h.afterTrack p hp f hhook (payload, s), trivial,
      fun s'' hs'' => .hooked hhook rfl hs''⟩)
    trivial s
  exact ⟨vs, returned, s', hrun, hhands⟩

theorem Course.of_hands {p : Plugin} {payload payload' : Pairs} {vs : List Value}
    (hbuilt : b.built.isSome = true) (h : p.Hands users (payload, s) vs (payload', s')) :
    Course users e encode (p.afterTrack.map Call.afterTrack).toList ⟨b, some payload, s⟩
      ⟨b, some payload', s'⟩ := by
  cases h with
  | nothing hook =>
    rw [hook]
    exact .done _
  | hooked hook call reports =>
    rw [hook]
    exact .makes (.afterTrack hbuilt call) (.reports reports)

/-! ### The course of tracking -/

theorem track_of_built {payload : Pairs} (hbuilt : b.built = some payload) (contexts : Value)
    (timestamp : Timestamp) (s : Session σ) :
    t.track users contexts timestamp (b, s) = (.error (.sealed "with_json_processor"), b, s) := by
  have hinstall : b.install (.standard t.base64.truthy) = .error (.sealed "with_json_processor") :=
    Builder.change_of_built hbuilt "with_json_processor" _
  apply Act.bind_run_error
  exact Act.bind_run_error (Act.updateSubject_run_error hinstall)

theorem finish_run (h : t.Orderly users) (hb : b.Ready t.base64.truthy)
    (hreads : ReadsContexts t.base64.truthy b) (e : ContextEvent) (entities : Nat) (s : Session σ) :
    ∃ returned s', t.finish users entities (b, s) = (.ok returned, b.completed t.base64.truthy, s')
      ∧ Course users e t.base64.truthy t.callsAfter ⟨b, none, s⟩
          ⟨b.completed t.base64.truthy, some returned, s'⟩ := by
  obtain ⟨s₁, hbuild, hs₁, _⟩ :=
    Builder.build_run users.process hb.opened hb.processor ⟨hb.documents, hreads⟩ s
  obtain ⟨vs, returned, s₂, hafter, hhands⟩ := afterTrack_hands h (b.standardPayload t.base64.truthy) s₁
  obtain ⟨s₃, hfinish, hs₃⟩ := finish_of_built entities hbuild hafter
  refine ⟨returned, s₃, hfinish, ?_⟩
  have hcourse : Course users e t.base64.truthy t.callsAfter
      ⟨b.completed t.base64.truthy, some (b.standardPayload t.base64.truthy), s₁⟩
      ⟨b.completed t.base64.truthy, some returned, s₂⟩ :=
    Course.inTurn (fun st => ⟨_, some st.1, st.2⟩) hhands fun _ _ _ _ h => .of_hands rfl h
  have hall := hcourse.append (.reports hs₃)
  rw [List.append_nil] at hall
  exact .proceeds (.reports hs₁) (.proceeds (.builds hb.opened) hall)

theorem stages_of_orderly (h : t.Orderly users) {contexts : Value} {given : List Value}
    (hgiven : AreGiven contexts given) (hgivenDocuments : ∀ v ∈ given, v.IsSerializable)
    (hopen : b.built = none) (hdocuments : HasDocuments b) {timestamp : Timestamp} {time : String}
    (htime : (timestamp.milliseconds s.now).bind Value.integerText = .ok time) :
    let p := t.prepared (s.identifier s.issued) time timestamp b
    let start : Scene σ := ⟨p, none, { s with issued := s.issued + 1 }⟩
    let course := Course users (.ofBuilder p) t.base64.truthy
    ∃ registered answer called b₁ s₁,
      t.registry.CallsFor (ContextEvent.ofBuilder p).schema registered
      ∧ Answers t.callback answer called
      ∧ b₁.Ready t.base64.truthy
      ∧ ((∀ q ∈ t.plugins, q.beforeTrack = none) → t.callback = .null → ∃ vs, b₁ = p.attached vs)
      ∧ course (t.callsBefore registered called) start ⟨b₁, none, s₁⟩
      ∧ (∀ fault, answer = .error fault →
          t.track users contexts timestamp (b, s) = (.error fault, b₁, s₁))
      ∧ (answer = .ok () → ReadsContexts t.base64.truthy b₁ → ∃ returned s',
          t.track users contexts timestamp (b, s) = (.ok returned, b₁.completed t.base64.truthy, s')
          ∧ course (t.callsBefore registered called ++ t.callsAfter) start
              ⟨b₁.completed t.base64.truthy, some returned, s'⟩)
      ∧ (answer = .ok () → ∀ bracket, Overflows t.base64.truthy bracket b₁ → ∃ b',
          t.track users contexts timestamp (b, s) = (.error (.nestedTooDeep bracket), b', s₁)
          ∧ b'.built = none) := by
  intro p start course
  have hp : p.built = none := hopen
  obtain ⟨g, s₁, hgather, rfl, hgathers⟩ :=
    gather_run h.toHarmlessSources hgiven p { s with issued := s.issued + 1 }
  obtain ⟨registered, hregistered, hgathered⟩ := hgathers.course t.base64.truthy hp
  have hready : (p.attached g.entities).Ready t.base64.truthy := by
    refine ⟨hp, rfl, hdocuments.deferred, ?_⟩
    exact List.forall_mem_append.2
      ⟨hdocuments.entities, hgathers.serializable h.toHarmlessSources hgivenDocuments⟩
  obtain ⟨b₂, s₂, hhooks, hb₂, hhooked, hnoHook⟩ := beforeTrack_course h hready (.ofBuilder p) s₁
  obtain ⟨answer, called, b₃, s₃, hcallback, hanswers, hb₃, hcalled, hnoCallback⟩ :=
    callback_course h hb₂ (.ofBuilder p) s₂
  have hcourse : course (t.callsBefore registered called) start ⟨b₃, none, s₃⟩ :=
    (hgathered.append (.proceeds (.attaches hp g.entities) hhooked)).append hcalled
  -- Up to the callback there is one run, which ends in three ways.
  have hstages : t.track users contexts timestamp (b, s)
      = (do
          runCallback users t.callback
          t.finish users g.entities.length) (b₂, s₂) := by
    rw [track, Act.bind_run (prepare_run t hopen htime), Act.bind_run hgather,
      Act.bind_run (Act.updateSubject_run (attachAll_of_open hp g.entities)), Act.bind_run hhooks]
  refine ⟨registered, answer, called, b₃, s₃, hregistered, hanswers, hb₃, ?_, hcourse, ?_, ?_, ?_⟩
  . intro hnone hnull
    exact ⟨g.entities, (hnoCallback hnull).trans (hnoHook hnone)⟩
  . rintro fault rfl
    rw [hstages, Act.bind_run_error hcallback]
  . rintro rfl hreads
    obtain ⟨returned, s₄, hfinish, hfinished⟩ :=
      finish_run h hb₃ hreads (.ofBuilder p) g.entities.length s₃
    refine ⟨returned, s₄, ?_, hcourse.append hfinished⟩
    rw [hstages, Act.bind_run hcallback, hfinish]
  . rintro rfl bracket hoverflows
    have hbuild := Builder.build_of_overflow users.process hb₃.opened hb₃.processor hb₃.documents.deferred
      hoverflows s₃
    refine ⟨{ b₃ with pairs := Processing.pairsAtMerge t.base64.truthy b₃.deferred b₃.pairs }, ?_, hb₃.opened⟩
    rw [hstages, Act.bind_run hcallback, finish, Act.bind_run_error hbuild]

/--
The course of tracking. A builder that has been built is refused before anything is called. An open one is
completed by the calls of the registry, of the plugins and of the callback in this order, each hook once
whatever comes of the others. If the callback fails, the builder stays open and no hook after tracking is
called; and so it is if the build fails, on a text that is nested too deeply.
-/
theorem track_course (users : Users σ) (t : Tracker) (contexts : Value) (timestamp : Timestamp) (b : Builder)
    (s : Session σ) :
    (∀ payload, b.built = some payload →
        t.track users contexts timestamp (b, s) = (.error (.sealed "with_json_processor"), b, s))
      ∧ (t.Orderly users → b.built = none → HasDocuments b →
          ∀ given, AreGiven contexts given → (∀ v ∈ given, v.IsSerializable) →
          ∀ time, (timestamp.milliseconds s.now).bind Value.integerText = .ok time →
          let p := t.prepared (s.identifier s.issued) time timestamp b
          let start : Scene σ := ⟨p, none, { s with issued := s.issued + 1 }⟩
          let course := Course users (.ofBuilder p) t.base64.truthy
          ∃ registered answer called b₁ s₁,
            t.registry.CallsFor (ContextEvent.ofBuilder p).schema registered
            ∧ Answers t.callback answer called
            ∧ b₁.built = none
            ∧ course (t.callsBefore registered called) start ⟨b₁, none, s₁⟩
            ∧ (∀ fault, answer = .error fault →
                t.track users contexts timestamp (b, s) = (.error fault, b₁, s₁))
            ∧ (answer = .ok () → ReadsContexts t.base64.truthy b₁ → ∃ payload returned b' s',
                t.track users contexts timestamp (b, s) = (.ok returned, b', s')
                ∧ b'.built = some payload
                ∧ course (t.callsBefore registered called ++ t.callsAfter) start ⟨b', some returned, s'⟩)
            ∧ (answer = .ok () → ∀ bracket, Overflows t.base64.truthy bracket b₁ → ∃ b',
                t.track users contexts timestamp (b, s) = (.error (.nestedTooDeep bracket), b', s₁)
                ∧ b'.built = none)) := by
  refine ⟨fun payload hbuilt => track_of_built hbuilt contexts timestamp s, ?_⟩
  intro h hopen hdocuments given hgiven hgivenDocuments time htime p start course
  obtain ⟨registered, answer, called, b₁, s₁, hregistered, hanswers, hb₁, -, hcourse, hfailed, hanswered,
    hoverflowed⟩ := stages_of_orderly h hgiven hgivenDocuments hopen hdocuments htime
  refine ⟨registered, answer, called, b₁, s₁, hregistered, hanswers, hb₁.opened, hcourse, hfailed, ?_,
    hoverflowed⟩
  intro hok hreads
  obtain ⟨returned, s', htrack, hcourse'⟩ := hanswered hok hreads
  exact ⟨_, returned, _, s', htrack, rfl, hcourse'⟩

/-! ### A tracker whose callables keep a diary -/

def verdictOf (r : Routine) : Except Fault Value :=
  if r.isNamed then .ok (.bool true) else .error (.raised "RuntimeError" "not ready")

def noted (r : Routine) (s : Session (List String)) : Session (List String) :=
  { s with users := s.users ++ [r.name] }

def diary : Users (List String) where
  behave r _ s := (verdictOf r, noted r s)
  process r _ _ st := (verdictOf r, st.1, noted r st.2)
  onBuilder r st := (verdictOf r, st.1, noted r st.2)
  onPayload r st := (verdictOf r, st.1, noted r st.2)
  onTracker r st := (verdictOf r, st.1, noted r st.2)
  onFacade r s := (verdictOf r, noted r s)

def diarist (name : String) (returns : Bool) : Plugin where
  ownName := some name
  kindName := "diarist"
  activate := none
  beforeTrack := some (routineNamed ("before " ++ name) returns)
  afterTrack := some (routineNamed ("after " ++ name) returns)
  contexts := some (routineNamed ("contexts " ++ name) returns)
  logger := none

def watched (answers : Bool) : Tracker where
  settings := none
  base64 := .bool false
  pairs := []
  plugins := [diarist "one" false, diarist "two" true]
  registry := ⟨[.generator (routineNamed "generator" true)],
    [.filter (routineNamed "passing" true) [.generator (routineNamed "inner" true)],
      .filter (routineNamed "failing" false) [.generator (routineNamed "skipped" true)]]⟩
  callback := .callable (routineNamed "callback" answers)

theorem calm_verdictOf (r : Routine) : Calm (verdictOf r) := by
  unfold verdictOf
  split <;> rintro f ⟨⟩
  rfl

theorem calm_diary (r : Routine) (args : List Argument) (s : Session (List String)) :
    Calm (diary.behave r args s).1 := calm_verdictOf r

theorem calm_call (f : Callable) (s : Session (List String)) : Calm (f.call diary.behave [] s).1 := by
  have hcalm := Callable.calm_invoke calm_diary f [] s
  rwa [Callable.invoke, List.take_nil] at hcalm

theorem callOnBuilder_diary (name : String) (returns : Bool) (b : Builder) (s : Session (List String)) :
    ∃ outcome s', diary.callOnBuilder (routineNamed name returns) (b, s) = (outcome, b, s') ∧ Calm outcome := by
  cases returns with
  | true => exact ⟨.ok (), _, rfl, nofun⟩
  | false =>
    refine ⟨.error (.raised "RuntimeError" "not ready"), _, rfl, ?_⟩
    rintro f ⟨⟩
    rfl

theorem output_diary {r : Routine} {args : List Argument} {output : Value} {s s' : Session (List String)}
    (h : (Callable.routine r).call diary.behave args s = (.ok output, s')) : output = .bool true := by
  unfold Callable.call at h
  dsimp only at h
  cases hfits : r.fits args.length with
  | error fault =>
    rw [hfits] at h
    cases h
  | ok =>
    rw [hfits] at h
    have hverdict : verdictOf r = .ok output := (Prod.mk.inj h).1
    unfold verdictOf at hverdict
    split at hverdict <;> cases hverdict
    rfl

theorem contributes_diary {r : Routine} {args : List Argument} {s s' : Session (List String)} {vs : List Value}
    (h : (Primitive.generator (.routine r)).Contributes diary.behave args s vs s') : vs = [] := by
  cases h with
  | returned call =>
    rw [output_diary call]
    rfl
  | failed => rfl

theorem harmless_diary (r : Routine) : (Primitive.generator (.routine r)).Harmless diary.behave where
  calm := fun f _ e s => Callable.calm_invoke calm_diary f [.event e] s
  serializable := fun e s vs s' h => by
    rw [contributes_diary h]
    simp

theorem callOnPayload_diary (name : String) (returns : Bool) (payload : Pairs) (s : Session (List String)) :
    ∃ outcome s', diary.callOnPayload (routineNamed name returns) (payload, s) = (outcome, payload, s')
      ∧ Calm outcome := by
  cases returns with
  | true => exact ⟨.ok (), _, rfl, nofun⟩
  | false =>
    refine ⟨.error (.raised "RuntimeError" "not ready"), _, rfl, ?_⟩
    rintro f ⟨⟩
    rfl

theorem forall_mem_watched {P : Plugin → Prop} (h : ∀ name returns, P (diarist name returns))
    (answers : Bool) : ∀ p ∈ (watched answers).plugins, P p := by
  rw [watched, List.forall_mem_cons, List.forall_mem_singleton]
  exact ⟨h _ _, h _ _⟩

theorem orderly_watched (answers : Bool) : (watched answers).Orderly diary where
  primitives := by
    rw [watched, List.forall_mem_singleton]
    exact harmless_diary _
  providers := by
    rw [watched, List.forall_mem_cons, List.forall_mem_singleton]
    have hprovider : ∀ r r', (Provider.filter (.routine r) [.generator (.routine r')]).Harmless diary.behave := by
      intro r r'
      refine ⟨fun f _ _ e s => Callable.calm_invoke calm_diary f [.event e] s, ?_⟩
      rw [Provider.primitives, List.forall_mem_singleton]
      exact harmless_diary r'
    exact ⟨hprovider _ _, hprovider _ _⟩
  contexts := forall_mem_watched (fun name returns f _ s => calm_call f s) answers
  serializable := by
    refine forall_mem_watched (fun name returns s vs s' h => ?_) answers
    have hnone : vs = [] := by
      cases h with
      | nothing _ hook | failed hook => rfl
      | returned hook call =>
        cases hook
        rw [output_diary call]
        rfl
    rw [hnone]
    simp
  calm_beforeTrack := by
    refine forall_mem_watched (fun name returns f hf st => ?_) answers
    cases hf
    obtain ⟨outcome, s', hcall, hcalm⟩ := callOnBuilder_diary ("before " ++ name) returns st.1 st.2
    rw [hcall]
    exact hcalm
  beforeTrack := by
    refine forall_mem_watched (fun name returns f hf encode b s hb => ?_) answers
    cases hf
    obtain ⟨outcome, s', hcall, _⟩ := callOnBuilder_diary ("before " ++ name) returns b s
    rw [hcall]
    exact hb
  callback := by
    rintro f ⟨⟩ encode b s hb
    obtain ⟨outcome, s', hcall, _⟩ := callOnBuilder_diary "callback" answers b s
    rw [hcall]
    exact hb
  afterTrack := by
    refine forall_mem_watched (fun name returns f hf st => ?_) answers
    cases hf
    obtain ⟨outcome, s', hcall, hcalm⟩ := callOnPayload_diary ("after " ++ name) returns st.1 st.2
    rw [hcall]
    exact hcalm

def dawn : Session (List String) := .initial [] (.whole 0) "" toString

theorem track_course_watched :
    (∃ registered called payload returned b' s',
      (watched true).track diary .null .now (.empty, dawn) = (.ok returned, b', s')
      ∧ b'.built = some payload
      ∧ Course diary (.ofBuilder ((watched true).prepared "0" "0" .now .empty)) false
          ((watched true).callsBefore registered called ++ (watched true).callsAfter)
          ⟨(watched true).prepared "0" "0" .now .empty, none, { dawn with issued := 1 }⟩
          ⟨b', some returned, s'⟩
      ∧ s'.users = ["generator", "passing", "inner", "failing", "contexts one", "contexts two", "before one",
          "before two", "callback", "after one", "after two"])
      ∧ (∃ fault b' s', (watched false).track diary .null .now (.empty, dawn) = (.error fault, b', s')
        ∧ b'.built = none
        ∧ s'.users = ["generator", "passing", "inner", "failing", "contexts one", "contexts two", "before one",
            "before two", "callback"])
      ∧ (watched true).track diary .null .now ({ Builder.empty with built := some [] }, dawn)
          = (.error (.sealed "with_json_processor"), { Builder.empty with built := some [] }, dawn) := by
  have hcourse := fun answers => (track_course diary (watched answers) .null .now .empty dawn).2
    (orderly_watched answers) rfl hasDocuments_empty [] (Or.inl ⟨rfl, rfl⟩) (by simp) _ time_epoch
  have hanswered : ((watched true).track diary .null .now (.empty, dawn)).1.toOption.isSome = true
      ∧ ((watched true).track diary .null .now (.empty, dawn)).2.2.users
        = ["generator", "passing", "inner", "failing", "contexts one", "contexts two", "before one",
          "before two", "callback", "after one", "after two"] := by
    decide +kernel
  have hfailed : ((watched false).track diary .null .now (.empty, dawn)).1.toOption.isSome = false
      ∧ ((watched false).track diary .null .now (.empty, dawn)).2.2.users
        = ["generator", "passing", "inner", "failing", "contexts one", "contexts two", "before one",
          "before two", "callback"] := by
    decide +kernel
  refine ⟨?_, ?_, ?_⟩
  . obtain ⟨registered, answer, called, b₁, _, _, _, _, _, hfaulty, hanswer, hoverflowed⟩ := hcourse true
    cases answer with
    | error fault =>
      rw [hfaulty fault rfl] at hanswered
      cases hanswered.1
    | ok =>
      obtain hreads | ⟨bracket, hoverflows⟩ := Processing.readsContexts_or_overflows false b₁
      . obtain ⟨payload, returned, b', s', htrack, hbuilt, hcalls⟩ := hanswer rfl hreads
        rw [htrack] at hanswered
        exact ⟨registered, called, payload, returned, b', s', htrack, hbuilt, hcalls, hanswered.2⟩
      . obtain ⟨b', htrack, _⟩ := hoverflowed rfl bracket hoverflows
        rw [htrack] at hanswered
        cases hanswered.1
  . obtain ⟨registered, answer, called, b₁, s₁, _, _, hopen, _, hfaulty, hanswer, hoverflowed⟩ := hcourse false
    cases answer with
    | error fault =>
      have htrack := hfaulty fault rfl
      rw [htrack] at hfailed
      exact ⟨fault, b₁, s₁, htrack, hopen, hfailed.2⟩
    | ok =>
      obtain hreads | ⟨bracket, hoverflows⟩ := Processing.readsContexts_or_overflows false b₁
      . obtain ⟨payload, returned, b', s', htrack, _⟩ := hanswer rfl hreads
        rw [htrack] at hfailed
        cases hfailed.1
      . obtain ⟨b', htrack, hopen'⟩ := hoverflowed rfl bracket hoverflows
        rw [htrack] at hfailed
        exact ⟨_, b', s₁, htrack, hopen', hfailed.2⟩
  . exact (track_course diary (watched true) .null .now { Builder.empty with built := some [] } dawn).1 [] rfl

/-! ### A build that fails -/

theorem Course.users_of_nil {e : ContextEvent} {st st' : Scene σ} (h : Course users e encode [] st st') :
    st'.session.users = st.session.users := by
  generalize hcalls : ([] : List Call) = calls at h
  induction h with
  | done => rfl
  | makes => cases hcalls
  | proceeds own _ ih =>
    rw [ih hcalls]
    cases own with
    | reports h =>
      obtain ⟨_, _, rfl⟩ := h
      rfl
    | attaches => rfl
    | builds => rfl

def lastHook : Tracker where
  settings := none
  base64 := .bool false
  pairs := []
  plugins := [{ diarist "one" true with beforeTrack := none, contexts := none }]
  registry := .empty
  callback := .null

theorem orderly_lastHook : lastHook.Orderly diary where
  primitives := nofun
  providers := nofun
  contexts := by
    rw [lastHook, List.forall_mem_singleton]
    rintro f ⟨⟩
  serializable := by
    rw [lastHook, List.forall_mem_singleton]
    intro s vs s' h
    cases h with
    | nothing => simp
    | returned hook | failed hook => cases hook
  calm_beforeTrack := by
    rw [lastHook, List.forall_mem_singleton]
    rintro f ⟨⟩
  beforeTrack := by
    rw [lastHook, List.forall_mem_singleton]
    rintro f ⟨⟩
  callback := nofun
  afterTrack := by
    rw [lastHook, List.forall_mem_singleton]
    rintro f ⟨⟩ st fault ⟨⟩

theorem overflows_nested (vs : List Value) (id time : String) :
    Overflows false .array ((lastHook.prepared id time .now Builder.nested).attached vs) := by
  refine ⟨Or.inr (List.cons_ne_nil _ _), ?_⟩
  have hget : ((lastHook.prepared id time .now Builder.nested).attached vs).pairs.get? Processing.plainContextsKey
      = some (.str (Json.nestedText 2000)) :=
    get?_prepared false lastHook id time .now Builder.nested
  exact (Processing.overflow?_plain hget).trans (Json.overflow?_nestedText (by decide))

/-- The hook is not called if the builder carries a text that is nested too deeply, though nothing else fails. -/
theorem last_hook_not_called :
    lastHook.Orderly diary ∧ lastHook.callsAfter ≠ [] ∧ Builder.nested.built = none ∧ HasDocuments Builder.nested
      ∧ ∃ b' s', lastHook.track diary .null .now (Builder.nested, dawn) = (.error (.nestedTooDeep .array), b', s')
        ∧ b'.built = none
        ∧ s'.users = [] := by
  refine ⟨orderly_lastHook, List.cons_ne_nil _ _, rfl, Builder.hasDocuments_nested, ?_⟩
  have htime : (Timestamp.now.milliseconds dawn.now).bind Value.integerText = .ok (toString (0 : Int)) := time_epoch
  obtain ⟨registered, answer, called, b₁, s₁, hregistered, hanswers, _, hbuilder, hcourse, _, _, hoverflowed⟩ :=
    stages_of_orderly orderly_lastHook (Or.inl ⟨rfl, rfl⟩) (by simp) rfl Builder.hasDocuments_nested htime
  obtain ⟨vs, rfl⟩ := hbuilder (by rw [lastHook, List.forall_mem_singleton]) rfl
  -- Nothing is registered and there is no callback, so that there is no call.
  obtain ⟨primitives, providers⟩ := hregistered
  cases primitives
  cases providers
  cases hanswers with
  | notCallable present => cases present
  | absent =>
    obtain ⟨b', htrack, hopen⟩ := hoverflowed rfl .array (overflows_nested vs _ _)
    exact ⟨b', s₁, htrack, hopen, hcourse.users_of_nil⟩

end Tracker

end EventTracking
