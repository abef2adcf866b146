import EventTracking.Proofs.Context.Agreement
import EventTracking.Proofs.Payload.Frozen
import EventTracking.Proofs.Tracker.Contexts

/-!
This module contains the theorem on hooks that fail while an event is tracked: the tracker and the payload are
what they would be had those hooks done nothing, and each failure is logged. The hooks that introduce a plugin
are not held back in the same way.
-/

namespace EventTracking

open Act

variable {σ T : Type} {users : Users σ}

/-! ### Runs of hooks -/

theorem Session.sayError_run (message : String) (fault : Fault) (texts : List String) {s : Session σ}
    (hlevel : Level.error.rank ≤ s.facade.level.rank) :
    ∃ text, Session.sayError message fault (texts.map Value.str) s
      = (.ok (), { s with records := s.records ++ [⟨Facade.logger, .error, text⟩] }) := by
  obtain ⟨document, hline, _⟩ := s.facade.exists_jsonLine s.stamp .error message (some (.ofFault fault))
    (Value.isParameter_map_str texts)
  have hrecord : ∃ text, s.facade.record? s.stamp .error message (some (.ofFault fault))
      (texts.map Value.str) = .ok (some ⟨Facade.logger, .error, text⟩) := by
    unfold Facade.record?
    rw [if_neg (by omega)]
    cases s.facade.format with
    | text => exact ⟨_, rfl⟩
    | json =>
      dsimp only
      rw [hline]
      exact ⟨_, rfl⟩
  obtain ⟨text, hrecord⟩ := hrecord
  exact ⟨text, Session.say_run hrecord⟩

theorem Session.trace_run (name : String) (attributes : List (String × Value)) (s : Session σ) :
    ∃ spans, Session.trace name attributes s = (.ok (), { s with spans := s.spans ++ spans }) := by
  rw [Session.trace, modify_run]
  split
  . exact ⟨[⟨name, attributes⟩], rfl⟩
  . exact ⟨[], by simp⟩

theorem Plugin.reportFailure_run (p : Plugin) (fault : Fault) {s : Session σ}
    (hlevel : Level.error.rank ≤ s.facade.level.rank) :
    ∃ text text' spans, p.reportFailure fault s = (.ok (), { s with
      records := s.records ++ [⟨Facade.logger, .error, text⟩, ⟨traceLogger, .warning, text'⟩]
      spans := s.spans ++ spans }) := by
  obtain ⟨text, hsay⟩ := Session.sayError_run "Error adding plugin contexts" fault [] hlevel
  let warning := "Plugin " ++ p.name ++ " contexts() hook failed: " ++ fault.message
  let warned : Session σ := { s with
    records := s.records ++ [⟨Facade.logger, .error, text⟩] ++ [⟨traceLogger, .warning, warning⟩] }
  obtain ⟨spans, htrace⟩ := Session.trace_run "contexts.plugin_failed"
    [("contexts.plugin", .str p.name), ("contexts.error_type", .str fault.kind),
      ("contexts.error", .str fault.message)] warned
  refine ⟨text, warning, spans, (bind_run hsay).trans (htrace.trans ?_)⟩
  simp [warned]

namespace Tracker

variable {name : String} {hook : Plugin → Option Callable}
  {call : Callable → Act (T × Session σ) Unit}

theorem runHooks_cons (p : Plugin) (ps : List Plugin) :
    runHooks name hook call (p :: ps)
      =
    (do
      match ← (Plugin.calling call () (hook p)).isolate with
      | .ok () => pure ()
      | .error fault =>
        besideSubject (Session.sayError ("Plugin " ++ name ++ " error") fault [.str p.name])
      runHooks name hook call ps) := by
  rw [runHooks]
  cases hook p <;> rfl

theorem runHooks_of_failed {p : Plugin} {f : Callable} {fault : Fault} {st st' : T × Session σ}
    (hhook : hook p = some f) (hcall : call f st = (.error fault, st'))
    (hfault : fault.interrupts = false) (ps : List Plugin) :
    runHooks name hook call (p :: ps) st
      =
    (do
      besideSubject (Session.sayError ("Plugin " ++ name ++ " error") fault [.str p.name])
      runHooks name hook call ps) st' := by
  have hisolate : (call f).isolate st = (.ok (.error fault), st') :=
    isolate_run hcall fun g hg => by
      cases hg
      exact hfault
  rw [runHooks, hhook]
  dsimp only
  rw [bind_run hisolate]

theorem agree_runHooks (name : String) {ps ps' : List Plugin}
    (h : List.Forall₂ (fun p p' => Falters (Beside Eq Session.Alike) (fun _ => True)
      (Plugin.calling call () (hook p)) (Plugin.calling call () (hook p'))) ps ps') :
    Agree (Beside Eq Session.Alike) Eq (runHooks name hook call ps) (runHooks name hook call ps') := by
  induction h with
  | nil => exact agree_pure rfl
  | @cons p p' _ _ hp _ ih =>
    rw [runHooks_cons, runHooks_cons]
    refine hp.isolate.bind fun outcome outcome' houtcome => ?_
    have hreports := fun (p : Plugin) fault =>
      reports_sayError (σ := σ) ("Plugin " ++ name ++ " error") fault [p.name]
    cases houtcome with
    | same =>
      cases outcome with
      | ok => exact ih
      | error fault =>
        exact (agree_of_reports (hreports p fault) (hreports p' fault)).besideSubject.bind fun _ _ _ => ih
    | fault f => exact (agree_of_reports (hreports p f) reports_pure).besideSubject.bind fun _ _ _ => ih

end Tracker

/-! ### Plugins, trackers and users -/

/--
Whether a plugin is another one of which some hooks fail at their start where those of the other do nothing.
The hooks that introduce it are the same.
-/
structure Plugin.Falters (users : Users σ) (p p' : Plugin) : Prop where
  logger : p.logger = p'.logger
  activate : p.activate = p'.activate
  contexts : Act.Falters Session.Alike (· = .null) (p.contextsOutput users.behave)
    (p'.contextsOutput users.behave)
  beforeTrack : Act.Falters (Beside Eq Session.Alike) (fun _ => True)
    (calling users.callOnBuilder () p.beforeTrack) (calling users.callOnBuilder () p'.beforeTrack)
  afterTrack : Act.Falters (Beside Eq Session.Alike) (fun _ => True)
    (calling users.callOnPayload () p.afterTrack) (calling users.callOnPayload () p'.afterTrack)

def Tracker.Alike (users : Users σ) (t t' : Tracker) : Prop :=
  ∃ ps, t' = { t with plugins := ps } ∧ List.Forall₂ (Plugin.Falters users) t.plugins ps

structure Users.IgnoreReports (users : Users σ) : Prop where
  behave : users.behave.IgnoresReports
  process : ∀ r ds vs, Agree (Beside Eq Session.Alike) Eq (users.process r ds vs) (users.process r ds vs)
  onBuilder : ∀ r, Agree (Beside Eq Session.Alike) Eq (users.onBuilder r) (users.onBuilder r)
  onTracker : ∀ r, Agree (Beside (Tracker.Alike users) Session.Alike) Eq (users.onTracker r)
    (users.onTracker r)
  onFacade : ∀ r, Agree Session.Alike Eq (users.onFacade r) (users.onFacade r)

theorem agree_logs {ι : Type} (logger : String) (severity : Severity) (text : String) (xs : List ι) :
    Agree (Beside (T := T) Eq (Session.Alike (σ := σ))) Eq
      (forIn xs PUnit.unit fun _ _ => do
        besideSubject (Session.log logger severity text)
        return .yield PUnit.unit)
      (forIn xs PUnit.unit fun _ _ => do
        besideSubject (Session.log logger severity text)
        return .yield PUnit.unit) := by
  rintro ⟨t, s⟩ ⟨t', s'⟩ ⟨ht, hs⟩
  cases ht
  refine ⟨.ok ⟨⟩, .ok ⟨⟩, _, _, forIn_log_run logger severity text xs t s,
    forIn_log_run logger severity text xs t s', .ok rfl, rfl, ?_⟩
  obtain ⟨records, spans, rfl⟩ := hs
  exact ⟨_, spans, rfl⟩

namespace Users.IgnoreReports

variable (h : users.IgnoreReports)
include h

theorem agree_callOnBuilder (f : Callable) :
    Agree (Beside Eq Session.Alike) Eq (users.callOnBuilder f) (users.callOnBuilder f) := by
  refine (agree_ofExcept (outcomes_self _)).bind fun r? r?' hr? => ?_
  cases hr?
  cases r? with
  | none => exact agree_pure rfl
  | some r => exact (h.onBuilder r).discard

theorem agree_callOnTracker (f : Callable) :
    Agree (Beside (Tracker.Alike users) Session.Alike) Eq (users.callOnTracker f)
      (users.callOnTracker f) := by
  refine (agree_ofExcept (outcomes_self _)).bind fun r? r?' hr? => ?_
  cases hr?
  cases r? with
  | none => exact agree_pure rfl
  | some r => exact (h.onTracker r).discard

theorem agree_callOnFacade (f : Callable) :
    Agree Session.Alike Eq (users.callOnFacade f) (users.callOnFacade f) := by
  refine (agree_ofExcept (outcomes_self _)).bind fun r? r?' hr? => ?_
  cases hr?
  cases r? with
  | none => exact agree_pure rfl
  | some r => exact (h.onFacade r).discard

theorem agree_runProcessor (p : Processor) :
    Agree (Beside Eq Session.Alike) Eq (Builder.runProcessor users.process p)
      (Builder.runProcessor users.process p) := by
  refine agree_subject.bind fun b b' hb => ?_
  cases hb
  cases p with
  | standard encode =>
    exact (agree_setSubject rfl).bind fun _ _ _ => (agree_logs _ _ _ _).bind fun _ _ _ =>
      agree_ofExcept (outcomes_self _)
  | custom f =>
    refine (agree_ofExcept (outcomes_self _)).bind fun r? r?' hr? => ?_
    cases hr?
    cases r? with
    | none => exact agree_pure rfl
    | some r => exact (h.process r _ _).discard

theorem agree_build :
    Agree (Beside Eq Session.Alike) Eq (Builder.build users.process) (Builder.build users.process) := by
  rintro ⟨b, s⟩ ⟨b', s'⟩ ⟨hb, hs⟩
  cases hb
  cases hbuilt : b.built with
  | some payload =>
    have hagain : ∀ s : Session σ, Builder.build users.process (b, s) = (.ok payload, b, s) := by
      intro s
      rw [Builder.build, bind_run subject_run, hbuilt]
      rfl
    exact ⟨.ok payload, .ok payload, (b, s), (b, s'), hagain s, hagain s', .ok rfl, rfl, hs⟩
  | none =>
    have hinstalled : Agree (Beside Eq Session.Alike) Eq (Builder.runInstalled users.process b)
        (Builder.runInstalled users.process b) := by
      unfold Builder.runInstalled
      cases b.processor with
      | some p => exact h.agree_runProcessor p
      | none => exact agree_pure rfl
    have hfix : Agree (Beside Eq Session.Alike) Eq (Builder.fixPayload (σ := σ)) Builder.fixPayload := by
      refine agree_subject.bind fun b b' hb => ?_
      cases hb
      have htrace := Builder.reports_traceBuilt (σ := σ) b b.pairs
      exact (agree_setSubject rfl).bind fun _ _ _ =>
        (agree_of_reports htrace htrace).besideSubject.bind fun _ _ _ => agree_pure rfl
    rw [Builder.build_of_open users.process hbuilt, Builder.build_of_open users.process hbuilt]
    exact (hinstalled.bind fun _ _ _ => hfix) (b, s) (b, s') ⟨rfl, hs⟩

theorem agree_runCallback (callback : Value) :
    Agree (Beside Eq Session.Alike) Eq (Tracker.runCallback users callback)
      (Tracker.runCallback users callback) := by
  cases callback with
  | null => exact agree_pure rfl
  | callable f => exact h.agree_callOnBuilder f
  | _ => exact agree_throw _

omit h in
theorem agree_prepare (t : Tracker) (timestamp : Timestamp) :
    Agree (Beside Eq Session.Alike) Eq (t.prepare (σ := σ) timestamp) (t.prepare timestamp) := by
  have hupdate : ∀ operation : Builder → Except Fault Builder,
      Agree (Beside Eq (Session.Alike (σ := σ))) Eq (updateSubject operation) (updateSubject operation) := by
    intro operation
    refine agree_updateSubject fun b b' hb => ?_
    cases hb
    exact outcomes_self _
  have hidentifier : Agree Session.Alike Eq (Session.nextIdentifier (σ := σ)) Session.nextIdentifier := by
    rintro s _ ⟨records, spans, rfl⟩
    exact ⟨_, _, _, _, rfl, rfl, .ok rfl, records, spans, rfl⟩
  refine (hupdate _).bind fun _ _ _ => hidentifier.besideSubject.bind fun id id' hid => ?_
  cases hid
  refine (hupdate _).bind fun _ _ _ => (hupdate _).bind fun _ _ _ => agree_get.bind ?_
  rintro ⟨b, s⟩ ⟨b', s'⟩ ⟨-, records, spans, rfl⟩
  refine (agree_ofExcept (outcomes_self _)).bind fun time time' htime => ?_
  cases htime
  exact hupdate _

theorem agree_track {t t' : Tracker} (ht : t.Alike users t') (contexts : Value) (timestamp : Timestamp) :
    Agree (Beside Eq Session.Alike) Eq (t.track users contexts timestamp)
      (t'.track users contexts timestamp) := by
  obtain ⟨ps, rfl, hps⟩ := ht
  refine (agree_prepare t timestamp).bind fun _ _ _ => Agree.bind (Q := Eq) ?_ fun entities entities' he => ?_
  . -- The entities of the plugins agree, those of the registry are the same.
    refine agree_subject.bind fun b b' hb => ?_
    cases hb
    refine (h.behave.agree_resolve t.registry).besideSubject.bind fun registered registered' hr => ?_
    cases hr
    refine Agree.bind (Q := Eq) (Agree.besideSubject ?_) fun contributed contributed' hc => ?_
    . refine (Plugin.agree_contributions (hps.imp fun p p' hp => hp.contexts)).bind fun vs vs' hvs => ?_
      cases hvs
      split
      . exact agree_pure rfl
      . split
        . exact agree_pure rfl
        . exact agree_throw _
    . cases hc
      exact agree_pure rfl
  . cases he
    refine (agree_updateSubject fun b b' hb => ?_).bind fun _ _ _ => ?_
    . cases hb
      exact outcomes_self _
    have hbefore := Tracker.agree_runHooks "before_track" (hps.imp fun p p' hp => hp.beforeTrack)
    have hafter := Tracker.agree_runHooks "after_track" (hps.imp fun p p' hp => hp.afterTrack)
    refine hbefore.bind fun _ _ _ => (h.agree_runCallback t.callback).bind fun _ _ _ => ?_
    refine h.agree_build.bind fun payload payload' hpayload => ?_
    refine (hafter.onSubject hpayload).besideSubject.bind fun left left' hleft => ?_
    obtain ⟨outcome, payload⟩ := left
    obtain ⟨outcome', payload'⟩ := left'
    obtain ⟨houtcome, hpayload⟩ := hleft
    cases hpayload
    have htrace := Tracker.reports_traceTracked (σ := σ) t payload entities.length
    exact (agree_ofExcept houtcome).bind fun _ _ _ =>
      (agree_of_reports htrace htrace).besideSubject.bind fun _ _ _ => agree_pure rfl

/-! ### Introductions of plugins -/

theorem agree_addPlugin {p p' : Plugin} (hp : p.Falters users p') :
    Agree (Beside (Tracker.Alike users) Session.Alike) Eq (Tracker.addPlugin users p)
      (Tracker.addPlugin users p') := by
  have hgrow : ∀ st st' : Tracker × Session σ, Beside (Tracker.Alike users) Session.Alike st st' →
      Beside (Tracker.Alike users) Session.Alike ({ st.1 with plugins := st.1.plugins ++ [p] }, st.2)
        ({ st'.1 with plugins := st'.1.plugins ++ [p'] }, st'.2) := by
    rintro ⟨t, s⟩ ⟨_, s'⟩ ⟨⟨ps, rfl, hps⟩, hs⟩
    exact ⟨⟨ps ++ [p'], rfl, List.rel_append hps (.cons hp .nil)⟩, hs⟩
  have hdebug := fun p : Plugin => reports_debug (σ := σ) Tracker.logger ("Activated plugin " ++ p.name)
  have hactivated := (agree_of_reports (hdebug p) (hdebug p')).besideSubject (P := Tracker.Alike users)
  unfold Tracker.addPlugin
  rw [hp.logger, hp.activate]
  have hactivate : ∀ f?, Agree (Beside (Tracker.Alike users) Session.Alike) Eq
      (do
        match f? with
        | some f => users.callOnTracker f
        | none => pure ()
        besideSubject (Session.debug Tracker.logger ("Activated plugin " ++ p.name)))
      (do
        match f? with
        | some f => users.callOnTracker f
        | none => pure ()
        besideSubject (Session.debug Tracker.logger ("Activated plugin " ++ p'.name))) := by
    intro f?
    cases f? with
    | none => exact hactivated
    | some f => exact (h.agree_callOnTracker f).bind fun _ _ _ => hactivated
  refine (agree_modify hgrow).bind fun _ _ _ => ?_
  cases p'.logger with
  | none => exact hactivate p'.activate
  | some f => exact (h.agree_callOnFacade f).besideSubject.bind fun _ _ _ => hactivate p'.activate

theorem agree_addPlugins {ps ps' : List Plugin} (hps : List.Forall₂ (Plugin.Falters users) ps ps') :
    Agree (Beside (Tracker.Alike users) Session.Alike) Eq (Tracker.addPlugins users ps)
      (Tracker.addPlugins users ps') := by
  induction hps with
  | nil => exact agree_pure rfl
  | cons hp _ ih => exact (h.agree_addPlugin hp).bind fun _ _ _ => ih

theorem agree_create (settings : Settings) (callback : Value) {ps ps' : List Plugin}
    (hps : List.Forall₂ (Plugin.Falters users) ps ps') :
    Agree Session.Alike (Tracker.Alike users) (Tracker.create users settings callback ps)
      (Tracker.create users settings callback ps') := by
  have hadopt : Agree (Beside (Tracker.Alike users) Session.Alike) Eq (Tracker.adopt (σ := σ) settings)
      (Tracker.adopt settings) := by
    refine agree_modify ?_
    rintro ⟨t, s⟩ ⟨_, _⟩ ⟨⟨ps, rfl, hps⟩, records, spans, rfl⟩
    exact ⟨⟨ps, rfl, hps⟩, records, spans, rfl⟩
  have hblank : Tracker.Alike users ⟨some settings, .bool settings.base64, [], [], .empty, callback⟩
      ⟨some settings, .bool settings.base64, [], [], .empty, callback⟩ := ⟨[], rfl, .nil⟩
  have hrun := (hadopt.bind fun _ _ _ => h.agree_addPlugins hps).onSubject hblank
  refine hrun.bind fun created created' hcreated => ?_
  exact (agree_ofExcept hcreated.1).bind fun _ _ _ => agree_pure hcreated.2

end Users.IgnoreReports

/-! ### Use of a tracker -/

namespace Tracker

inductive Use where
  | addPlugin (p : Plugin)
  | track (b : Builder) (contexts : Value) (timestamp : Timestamp)

inductive Use.Answer where
  | added
  | tracked (outcome : Except Fault Pairs) (b : Builder)

def Use.perform (users : Users σ) : Use → Act (Tracker × Session σ) Use.Answer
  | .addPlugin p => do
    Tracker.addPlugin users p
    return .added
  | .track b contexts timestamp => do
    let t ← Act.subject
    let (outcome, b) ← Act.besideSubject (Act.onSubject b (t.track users contexts timestamp))
    return .tracked outcome b

def useAll (users : Users σ) : List Use → Act (Tracker × Session σ) (List (Except Fault Use.Answer))
  | [] => return []
  | u :: us => do
    let first ← (u.perform users).isolate
    let rest ← useAll users us
    return first :: rest

def createAndUse (users : Users σ) (settings : Settings) (callback : Value) (plugins : List Plugin)
    (uses : List Use) : Act (Session σ) (List (Except Fault Use.Answer) × Tracker) := do
  let t ← create users settings callback plugins
  let (answers, t) ← Act.onSubject t (useAll users uses)
  return (← Act.ofExcept answers, t)

inductive Use.Falters (users : Users σ) : Use → Use → Prop where
  | addPlugin {p p' : Plugin} (h : p.Falters users p') : Falters users (.addPlugin p) (.addPlugin p')
  | track (b : Builder) (contexts : Value) (timestamp : Timestamp) :
      Falters users (.track b contexts timestamp) (.track b contexts timestamp)

theorem agree_perform (h : users.IgnoreReports) {u u' : Use} (hu : u.Falters users u') :
    Agree (Beside (Tracker.Alike users) Session.Alike) Eq (u.perform users) (u'.perform users) := by
  cases hu with
  | addPlugin hp => exact (h.agree_addPlugin hp).bind fun _ _ _ => agree_pure rfl
  | track b contexts timestamp =>
    refine agree_subject.bind fun t t' ht => ?_
    refine ((h.agree_track ht contexts timestamp).onSubject (t := b) rfl).besideSubject.bind ?_
    rintro ⟨outcome, b⟩ ⟨outcome', b'⟩ ⟨houtcome, hb⟩
    cases hb
    cases houtcome with
    | ok hpayload =>
      cases hpayload
      exact agree_pure rfl
    | error f => exact agree_pure rfl

theorem agree_useAll (h : users.IgnoreReports) {us us' : List Use}
    (hus : List.Forall₂ (Use.Falters users) us us') :
    Agree (Beside (Tracker.Alike users) Session.Alike) Eq (useAll users us) (useAll users us') := by
  induction hus with
  | nil => exact agree_pure rfl
  | cons hu _ ih =>
    refine (agree_perform h hu).isolate.bind fun first first' hfirst => ih.bind fun rest rest' hrest => ?_
    cases hrest
    cases hfirst with
    | ok hanswer =>
      cases hanswer
      exact agree_pure rfl
    | error f => exact agree_pure rfl

/-- What the failures of hooks come to while a tracker is created and used. -/
structure HookFailures (users : Users σ) : Prop where
  /-- Tracker and answers are those of plugins whose hooks do nothing in the place of failing. -/
  same (settings : Settings) (callback : Value) {plugins plugins' : List Plugin} {uses uses' : List Use}
    (hplugins : List.Forall₂ (Plugin.Falters users) plugins plugins')
    (huses : List.Forall₂ (Use.Falters users) uses uses') :
    Agree Session.Alike (fun x y => x.1 = y.1 ∧ x.2.Alike users y.2)
      (createAndUse users settings callback plugins uses)
      (createAndUse users settings callback plugins' uses')
  /-- A hook that runs around the build and fails is logged if the facade lets errors through. -/
  hook {T : Type} (name : String) {hook : Plugin → Option Callable}
    {call : Callable → Act (T × Session σ) Unit} {p : Plugin} {f : Callable} {fault : Fault} {t t' : T}
    {s s' : Session σ} (hhook : hook p = some f) (hcall : call f (t, s) = (.error fault, t', s'))
    (hfault : fault.interrupts = false) (hlevel : Level.error.rank ≤ s'.facade.level.rank)
    (ps : List Plugin) :
    ∃ text, runHooks name hook call (p :: ps) (t, s)
      = runHooks name hook call ps
          (t', { s' with records := s'.records ++ [⟨Facade.logger, .error, text⟩] })
  /-- So is a context hook that fails, and a warning and an event on the span besides. -/
  contexts {p : Plugin} {f : Callable} {fault : Fault} {s s' : Session σ} (hhook : p.contexts = some f)
    (hcall : f.call users.behave [] s = (.error fault, s')) (hfault : fault.interrupts = false)
    (hlevel : Level.error.rank ≤ s'.facade.level.rank) (ps : List Plugin) :
    ∃ text text' spans, Plugin.contributions users.behave (p :: ps) s
      = Plugin.contributions users.behave ps
          { s' with
            records := s'.records ++ [⟨Facade.logger, .error, text⟩, ⟨Plugin.traceLogger, .warning, text'⟩]
            spans := s'.spans ++ spans }
  /-- A failure of a hook that introduces a plugin is one of its addition, which leaves the plugin added. -/
  logger {p : Plugin} {f : Callable} {fault : Fault} {s s' : Session σ} (hhook : p.logger = some f)
    (hcall : users.callOnFacade f s = (.error fault, s')) (t : Tracker) :
    addPlugin users p (t, s) = (.error fault, { t with plugins := t.plugins ++ [p] }, s')
  activate {p : Plugin} {f : Callable} {fault : Fault} {t t' : Tracker} {s s' : Session σ}
    (hlogger : p.logger = none) (hhook : p.activate = some f)
    (hcall : users.callOnTracker f ({ t with plugins := t.plugins ++ [p] }, s) = (.error fault, t', s')) :
    addPlugin users p (t, s) = (.error fault, t', s')

theorem hookFailures (h : users.IgnoreReports) : HookFailures users where
  same settings callback _ _ _ _ hplugins huses := by
    refine (h.agree_create settings callback hplugins).bind fun t t' ht => ?_
    refine ((agree_useAll h huses).onSubject ht).bind fun used used' hused => ?_
    refine (agree_ofExcept hused.1).bind fun answers answers' hanswers => ?_
    exact agree_pure ⟨hanswers, hused.2⟩
  hook name _ _ p _ fault _ _ _ _ hhook hcall hfault hlevel ps := by
    obtain ⟨text, hreport⟩ := Session.sayError_run ("Plugin " ++ name ++ " error") fault [p.name] hlevel
    refine ⟨text, ?_⟩
    rw [runHooks_of_failed hhook hcall hfault]
    exact bind_run (besideSubject_run hreport)
  contexts {p _ fault _ _} hhook hcall hfault hlevel ps := by
    obtain ⟨text, text', spans, hreport⟩ := p.reportFailure_run fault hlevel
    refine ⟨text, text', spans, ?_⟩
    rw [Plugin.contributions_of_failed hhook hcall hfault]
    exact bind_run hreport
  logger hhook hcall t := by
    rw [addPlugin, hhook]
    exact (bind_run modify_run).trans (bind_run_error (besideSubject_run hcall))
  activate hlogger hhook hcall := by
    rw [addPlugin, hlogger, hhook]
    exact (bind_run modify_run).trans (bind_run_error hcall)

def clumsy : Users Unit where
  behave r _ := if r.isNamed then return .null else throw (.raised "RuntimeError" "not ready")
  process _ _ _ := return .null
  onBuilder r := if r.isNamed then return .null else throw (.raised "RuntimeError" "not ready")
  onPayload r := if r.isNamed then return .null else throw (.raised "RuntimeError" "not ready")
  onTracker r := if r.isNamed then return .null else throw (.raised "RuntimeError" "not ready")
  onFacade r := if r.isNamed then return .null else throw (.raised "RuntimeError" "not ready")

theorem ignoreReports_clumsy : clumsy.IgnoreReports where
  behave r _ := by
    unfold clumsy
    dsimp only
    split
    . exact agree_pure rfl
    . exact agree_throw _
  process _ _ _ := agree_pure rfl
  onBuilder r := by
    unfold clumsy
    dsimp only
    split
    . exact agree_pure rfl
    . exact agree_throw _
  onTracker r := by
    unfold clumsy
    dsimp only
    split
    . exact agree_pure rfl
    . exact agree_throw _
  onFacade r := by
    unfold clumsy
    dsimp only
    split
    . exact agree_pure rfl
    . exact agree_throw _

def failing : Callable := routineNamed "hook" false

def idle : Callable := routineNamed "hook" true

def hooked (f : Callable) : Plugin := ⟨none, "plugin", none, some f, some f, some f, none⟩

theorem falters_hooked : (hooked failing).Falters clumsy (hooked idle) where
  logger := rfl
  activate := rfl
  contexts _ _ _ := Or.inr ⟨.raised "RuntimeError" "not ready", .null, rfl, rfl, rfl, rfl⟩
  beforeTrack _ _ _ := Or.inr ⟨.raised "RuntimeError" "not ready", (), rfl, rfl, rfl, trivial⟩
  afterTrack _ _ _ := Or.inr ⟨.raised "RuntimeError" "not ready", (), rfl, rfl, rfl, trivial⟩

def plainSettings : Settings := { Settings.defaults with base64 := false }

def twoEvents (f : Callable) : List Use :=
  let event := Use.track (Builder.empty.attached [entityNamed "own"]) .null .now
  [event, .addPlugin (hooked f), event]

def payloadKeys (answers : List (Except Fault Use.Answer)) : List (List String) :=
  answers.filterMap fun
    | .ok (.tracked (.ok payload) _) => some (payload.map Prod.fst)
    | _ => none

theorem hookFailures_clumsy :
    ∃ answers t t' s s',
      createAndUse clumsy plainSettings .null [hooked failing] (twoEvents failing) epoch
          = (.ok (answers, t), s)
      ∧ createAndUse clumsy plainSettings .null [hooked idle] (twoEvents idle) epoch
          = (.ok (answers, t'), s')
      ∧ payloadKeys answers = List.replicate 2 ["eid", "tv", "p", "dtm", "co"]
      -- The first event runs three hooks and the second one six.
      ∧ s.records.countP (·.severity == .error) = 9
      ∧ s'.records.countP (·.severity == .error) = 0 := by
  have huses : List.Forall₂ (Use.Falters clumsy) (twoEvents failing) (twoEvents idle) :=
    .cons (.track _ _ _) (.cons (.addPlugin falters_hooked) (.cons (.track _ _ _) .nil))
  obtain ⟨outcome, outcome', s, s', hrun, hrun', houtcome, -⟩ :=
    (hookFailures ignoreReports_clumsy).same plainSettings .null (.cons falters_hooked .nil) huses epoch
      epoch (.refl epoch)
  have hidle : ((createAndUse clumsy plainSettings .null [hooked idle] (twoEvents idle) epoch).1.map
      fun x => payloadKeys x.1).toOption = some (List.replicate 2 ["eid", "tv", "p", "dtm", "co"]) := by
    decide +kernel
  have hlogged : (createAndUse clumsy plainSettings .null [hooked failing] (twoEvents failing)
      epoch).2.records.countP (·.severity == .error) = 9 := by
    decide +kernel
  have hnotLogged : (createAndUse clumsy plainSettings .null [hooked idle] (twoEvents idle)
      epoch).2.records.countP (·.severity == .error) = 0 := by
    decide +kernel
  rw [hrun] at hlogged
  rw [hrun'] at hidle hnotLogged
  cases houtcome with
  | @ok x y h =>
    obtain ⟨answers, t⟩ := x
    obtain ⟨answers', t'⟩ := y
    cases h.1
    exact ⟨answers, t, t', s, s', hrun, hrun', Option.some.inj hidle, hlogged, hnotLogged⟩
  | error f => cases hidle

def listening (f : Callable) : Plugin := ⟨none, "plugin", none, none, none, none, some f⟩

def activated (f : Callable) : Plugin := ⟨none, "plugin", some f, none, none, none, none⟩

/-- A hook that introduces a plugin and fails at its start keeps the tracker from being created. -/
theorem create_of_introduction_failed :
    ∃ fault, fault.interrupts = false
      ∧ (∀ s, clumsy.callOnFacade failing s = (.error fault, s))
      ∧ (∀ st, clumsy.callOnTracker failing st = (.error fault, st))
      ∧ (∀ s, clumsy.callOnFacade idle s = (.ok (), s))
      ∧ (∀ st, clumsy.callOnTracker idle st = (.ok (), st))
      ∧ ∀ plugin ∈ [listening, activated],
        (create clumsy plainSettings .null [plugin failing] epoch).1 = .error fault
          ∧ ∃ t, (create clumsy plainSettings .null [plugin idle] epoch).1 = .ok t := by
  refine ⟨.raised "RuntimeError" "not ready", rfl, fun _ => rfl, fun _ => rfl, fun _ => rfl,
    fun _ => rfl, ?_⟩
  rw [List.forall_mem_cons, List.forall_mem_singleton]
  exact ⟨⟨rfl, _, rfl⟩, ⟨rfl, _, rfl⟩⟩

end Tracker

end EventTracking
