import EventTracking.Proofs.Context.Direct
import EventTracking.Proofs.Tracker.Contexts

/-!
This module contains the theorem on the entities of plugins: a context hook contributes what a generator without
parameters contributes that has the same outcome, and each hook that fails is told by one warning and one event.
-/

namespace EventTracking

open Act

variable {σ : Type} {behaviour : Behaviour σ} {s s' s₁ : Session σ}

namespace Session

def warnings (s : Session σ) : List Record := s.records.filter (·.severity == .warning)

/--
Whether a session is another one after notes. The warnings among them are the given ones, as are the events that
the span got if it takes any.
-/
def Noted (s : Session σ) (warnings : List Record) (events : List SpanEvent) (s' : Session σ) : Prop :=
  ∃ records, records.filter (·.severity == .warning) = warnings
    ∧ s' = { s with records := s.records ++ records, spans := s.spans ++ if s.recording then events else [] }

theorem Noted.refl (s : Session σ) : s.Noted [] [] s := ⟨[], rfl, by simp⟩

end Session

def Resolution.yielded : Except Fault Value → List Value
  | .ok output => entitiesOf output
  | .error _ => []

/-! ### Generators without parameters -/

namespace Registry

/-- Whether a registered generator without parameters contributes the entities if that is the outcome of its calls. -/
def GeneratorGives (outcome : Except Fault Value) (vs : List Value) : Prop :=
  ∀ (τ : Type) (behaviour : Behaviour τ) (g : Routine) (b : Builder) (s : Session τ),
    g.signature = [] → g.shown = some [] → (∀ s, (behaviour g [] s).1 = outcome) →
      ∃ r s₁ s₂, add (.list [.callable (.routine g)]) .empty s = (.ok r, s₁)
        ∧ applicable behaviour ((r, b), s₁) = (.ok vs, (r, b), s₂)

theorem generate_withoutParameters {g : Routine} (hsignature : g.signature = []) (hshown : g.shown = some [])
    {outcome : Except Fault Value} (hcalm : Calm outcome) (houtcome : ∀ s, (behaviour g [] s).1 = outcome)
    (arg : Argument) (s : Session σ) :
    ∃ s', Resolution.generate behaviour (.routine g) [arg] s = (.ok (Resolution.yielded outcome), s') := by
  have hinvoke : (Callable.routine g).invoke behaviour [arg] s = behaviour g [] s := by
    have haccepted : (Callable.routine g).accepted 1 = 0 := by
      rw [Callable.accepted, hshown]
      rfl
    have hfits : g.fits 0 = .ok () := by
      rw [Routine.fits, hsignature]
      rfl
    rw [Callable.invoke, List.length_singleton, haccepted, List.take_zero, Callable.call, List.length_nil, hfits]
    rfl
  have hcall : (Callable.routine g).invoke behaviour [arg] s = (outcome, (behaviour g [] s).2) := by
    rw [hinvoke, ← houtcome s]
    rfl
  rw [Resolution.generate, bind_run (isolate_run hcall hcalm)]
  cases outcome with
  | ok output =>
    dsimp only [Resolution.expand]
    cases Resolution.dropNote? output _ with
    | none => exact ⟨_, rfl⟩
    | some note => exact ⟨_, rfl⟩
  | error fault =>
    obtain ⟨s', hreport, _⟩ :=
      reports_failure "Exception thrown in context generator" fault (behaviour g [] s).2
    exact ⟨s', bind_run hreport⟩

theorem generatorGives_yielded {outcome : Except Fault Value} (hcalm : Calm outcome) :
    GeneratorGives outcome (Resolution.yielded outcome) := by
  intro τ behaviour g b s hsignature hshown houtcome
  have hcallback : (Callable.routine g).isCallback = true := by
    rw [Callable.isCallback, hshown]
    rfl
  have hinsert : empty.insertAll [.callable (.routine g)] = ⟨[.generator (.routine g)], []⟩ := by
    have hentry : Entry.ofValue? (.callable (.routine g)) = some (.primitive (.generator (.routine g))) := by
      rw [Entry.ofValue?, Primitive.ofValue?_of_writes (.callable hcallback)]
      rfl
    rw [insertAll, List.foldl_cons, List.foldl_nil, insert, hentry]
    rfl
  have helements : (Value.list [.callable (.routine g)]).elements? = some [.callable (.routine g)] := rfl
  obtain ⟨s₁, hadd, _⟩ := add_run helements empty s
  rw [hinsert] at hadd
  obtain ⟨s₂, hgenerate⟩ :=
    generate_withoutParameters hsignature hshown hcalm houtcome (.event (.ofBuilder b)) s₁
  have hall : Primitive.resolveAll behaviour [.event (.ofBuilder b)] [.generator (.routine g)] s₁
      = (.ok (Resolution.yielded outcome), s₂) := by
    rw [Primitive.resolveAll, Primitive.resolve, bind_run hgenerate, Primitive.resolveAll, bind_run pure_run,
      List.append_nil, pure_run]
  obtain ⟨s₃, hresolve, _⟩ := resolve_of_primitives hall
  refine ⟨_, s₁, s₃, hadd, ?_⟩
  rw [applicable, bind_run subject_run]
  exact besideSubject_run hresolve

end Registry

/-! ### Context hooks -/

namespace Plugin

variable {p : Plugin} {asked : List (Plugin × Except Fault Value)}

def warnings (p : Plugin) : Except Fault Value → List Record
  | .ok _ => []
  | .error fault =>
    [⟨traceLogger, .warning, "Plugin " ++ p.name ++ " contexts() hook failed: " ++ fault.message⟩]

def events (p : Plugin) : Except Fault Value → List SpanEvent
  | .ok _ => []
  | .error fault =>
    [⟨"contexts.plugin_failed", [("contexts.plugin", .str p.name),
      ("contexts.error_type", .str fault.kind), ("contexts.error", .str fault.message)]⟩]

inductive Asks (behaviour : Behaviour σ) :
    List (Plugin × Except Fault Value) → Session σ → Session σ → Prop where
  | nil (s : Session σ) : Asks behaviour [] s s
  | cons {p : Plugin} {f : Callable} {outcome : Except Fault Value}
      {asked : List (Plugin × Except Fault Value)} {s s₁ s₂ s' : Session σ} (hook : p.contexts = some f)
      (call : f.call behaviour [] s = (outcome, s₁))
      (notes : s₁.Noted (p.warnings outcome) (p.events outcome) s₂) (rest : Asks behaviour asked s₂ s') :
      Asks behaviour ((p, outcome) :: asked) s s'

theorem reportFailure_noted (p : Plugin) (fault : Fault) (s : Session σ) :
    ∃ s', p.reportFailure fault s = (.ok (), s')
      ∧ s.Noted (p.warnings (.error fault)) (p.events (.error fault)) s' := by
  obtain ⟨records, hsay, hsevere⟩ := exists_sayError_run "Error adding plugin contexts" fault [] s
  refine ⟨_, (bind_run hsay).trans rfl, records ++ p.warnings (.error fault), ?_, ?_⟩
  . have hnone : records.filter (·.severity == .warning) = [] := by
      rw [List.filter_eq_nil_iff]
      intro r hr
      rw [hsevere r hr]
      decide
    rw [List.filter_append, hnone]
    rfl
  . cases hrecording : s.recording with
    | true => simp [warnings, events]
    | false => simp [warnings]

theorem contribution_asks {f : Callable} (hhook : p.contexts = some f)
    (hcalm : Calm (f.call behaviour [] s).1) :
    ∃ outcome s₁ s', f.call behaviour [] s = (outcome, s₁) ∧ Calm outcome
      ∧ p.contribution behaviour s = (.ok (Resolution.yielded outcome), s')
      ∧ s₁.Noted (p.warnings outcome) (p.events outcome) s' := by
  obtain ⟨outcome, s₁, hcall, hisolate⟩ := exists_isolate_run hcalm
  rw [hcall] at hcalm
  unfold contribution
  rw [hhook]
  dsimp only
  rw [bind_run hisolate]
  cases outcome with
  | ok output =>
    dsimp only
    rw [entitiesOf_eq]
    cases p.dropNote? output with
    | none => exact ⟨_, s₁, s₁, hcall, hcalm, rfl, .refl s₁⟩
    | some note =>
      refine ⟨_, s₁, _, hcall, hcalm, rfl, [⟨notesLogger, .debug, note⟩], rfl, ?_⟩
      simp [events]
  | error fault =>
    obtain ⟨s', hreport, hnoted⟩ := p.reportFailure_noted fault s₁
    exact ⟨_, s₁, s', hcall, hcalm, bind_run hreport, hnoted⟩

theorem contributions_asks (hcalm : ∀ (f : Callable) s, Calm (f.call behaviour [] s).1) (ps : List Plugin)
    (s : Session σ) :
    ∃ asked s', contributions behaviour ps s
        = (.ok (asked.map fun call => Resolution.yielded call.2).flatten, s')
      ∧ asked.map Prod.fst = ps.filter (·.contexts.isSome) ∧ (∀ call ∈ asked, Calm call.2)
      ∧ Asks behaviour asked s s' := by
  induction ps generalizing s with
  | nil => exact ⟨[], s, rfl, rfl, by simp, .nil s⟩
  | cons p ps ih =>
    rw [contributions]
    cases hhook : p.contexts with
    | none =>
      have hnothing : p.contribution behaviour s = (.ok [], s) := by
        unfold contribution
        rw [hhook]
        rfl
      obtain ⟨asked, s', hrun, hasked, hcalms, hasks⟩ := ih s
      refine ⟨asked, s', ?_, ?_, hcalms, hasks⟩
      . rw [bind_run hnothing, bind_run hrun]
        rfl
      . rw [List.filter_cons_of_neg (by simp [hhook]), hasked]
    | some f =>
      obtain ⟨outcome, s₁, s₂, hcall, houtcome, hfirst, hnoted⟩ := contribution_asks hhook (hcalm f s)
      obtain ⟨asked, s', hrun, hasked, hcalms, hasks⟩ := ih s₂
      refine ⟨(p, outcome) :: asked, s', ?_, ?_, ?_, .cons hhook hcall hnoted hasks⟩
      . rw [bind_run hfirst, bind_run hrun]
        rfl
      . rw [List.filter_cons_of_pos (by simp [hhook]), List.map_cons, hasked]
      . exact List.forall_mem_cons.2 ⟨houtcome, hcalms⟩

/-! ### What is told in all -/

def IsQuiet (behaviour : Behaviour σ) : Prop :=
  ∀ r args s, (behaviour r args s).2.records = s.records ∧ (behaviour r args s).2.spans = s.spans
    ∧ (behaviour r args s).2.recording = s.recording

theorem IsQuiet.call (hquiet : IsQuiet behaviour) {f : Callable} {args : List Argument}
    {outcome : Except Fault Value} (hcall : f.call behaviour args s = (outcome, s')) :
    s'.records = s.records ∧ s'.spans = s.spans ∧ s'.recording = s.recording := by
  rcases f.call_cases behaviour args s with ⟨r, hroutine⟩ | ⟨_, hnothing, _⟩
  . have hkept := hquiet r args s
    rwa [← hroutine, hcall] at hkept
  . cases hcall.symm.trans hnothing
    exact ⟨rfl, rfl, rfl⟩

theorem Asks.told (h : Asks behaviour asked s s') (hquiet : IsQuiet behaviour) :
    s'.warnings = s.warnings ++ asked.flatMap (fun call => call.1.warnings call.2)
      ∧ s'.spans = s.spans
          ++ (if s.recording then asked.flatMap (fun call => call.1.events call.2) else []) := by
  induction h with
  | nil s => simp
  | @cons p f outcome asked s s₁ s₂ s' _ call notes _ ih =>
    obtain ⟨hrecords, hspans, hrecording⟩ := hquiet.call call
    obtain ⟨records, hwarnings, rfl⟩ := notes
    obtain ⟨hwarned, htraced⟩ := ih
    rw [hwarned, htraced, List.flatMap_cons, List.flatMap_cons]
    dsimp only [Session.warnings]
    rw [List.filter_append, hwarnings, hrecords, hspans, hrecording]
    cases s.recording <;> simp

/--
Plugins contribute by the rules of generators: each plugin that has a context hook contributes what a registered
generator without parameters with the same outcome does, and then come the additional entities as they are. Whatever
the hooks return or raise, this succeeds, and for each hook that has failed there is one warning and, if the
span is recording, one event. Plugins that have been introduced later take part like those before.
-/
theorem entities_like_generators (hcalm : ∀ r args s, Calm (behaviour r args s).1) (plugins later : List Plugin)
    {additional : Value} {given : List Value} (hgiven : Tracker.AreGiven additional given) (s : Session σ) :
    ∃ asked : List (Plugin × Except Fault Value), ∃ contributed : List (List Value), ∃ s',
      entities behaviour (plugins ++ later) additional s = (.ok (contributed.flatten ++ given), s')
      ∧ asked.map Prod.fst = (plugins ++ later).filter (·.contexts.isSome)
      ∧ List.Forall₂ (fun call vs => Registry.GeneratorGives call.2 vs) asked contributed
      ∧ Asks behaviour asked s s'
      ∧ (IsQuiet behaviour →
          s'.warnings = s.warnings ++ asked.flatMap (fun call => call.1.warnings call.2)
            ∧ s'.spans = s.spans
                ++ (if s.recording then asked.flatMap (fun call => call.1.events call.2) else [])) := by
  obtain ⟨asked, s', hrun, hasked, hcalms, hasks⟩ :=
    contributions_asks (fun f s => Callable.calm_call hcalm f [] s) (plugins ++ later) s
  refine ⟨asked, _, s', Tracker.entities_run hrun hgiven, hasked, ?_, hasks, hasks.told⟩
  rw [List.forall₂_map_right_iff, List.forall₂_same]
  exact fun call hcall => Registry.generatorGives_yielded (hcalms call hcall)

open Registry Resolution

def contributors : List Plugin :=
  [⟨some "bare", "plugin", none, none, none, none, none⟩,
    ⟨some "hasty", "plugin", none, none, none, some moodyCallable, none⟩,
    ⟨some "patient", "plugin", none, none, none, some moodyCallable, none⟩]

def latecomer : Plugin := ⟨none, "plugin", none, none, none, some moodyCallable, none⟩

theorem entities_like_generators_contributors :
    (∀ r args s, Calm (moody r args s).1)
      ∧ Tracker.AreGiven (.list [entityOf "given"]) [entityOf "given"]
      ∧ ∃ vs s',
        entities moody (contributors ++ [latecomer]) (.list [entityOf "given"]) quiet = (.ok vs, s')
        ∧ schemas vs = [some "first", some "second", some "third", some "given"]
        ∧ s'.warnings.map Record.text = ["Plugin hasty contexts() hook failed: not now"]
        ∧ s'.spans.map SpanEvent.name = ["contexts.plugin_failed"] := by
  have hcalm : ∀ r args s, Calm (moody r args s).1 := fun r args s => calm_outcomeAfter s.users
  have hgiven : Tracker.AreGiven (.list [entityOf "given"]) [entityOf "given"] := Or.inr rfl
  obtain ⟨asked, contributed, s', hrun, _⟩ :=
    entities_like_generators hcalm contributors [latecomer] hgiven quiet
  have hcomputed :
      let run := entities moody (contributors ++ [latecomer]) (.list [entityOf "given"]) quiet
      (run.1.map schemas).toOption = some [some "first", some "second", some "third", some "given"]
        ∧ run.2.warnings.map Record.text = ["Plugin hasty contexts() hook failed: not now"]
        ∧ run.2.spans.map SpanEvent.name = ["contexts.plugin_failed"] := by
    decide +kernel
  rw [hrun] at hcomputed
  obtain ⟨hschemas, hwarnings, hspans⟩ := hcomputed
  exact ⟨hcalm, hgiven, _, s', hrun, Option.some.inj hschemas, hwarnings, hspans⟩

end Plugin

end EventTracking
