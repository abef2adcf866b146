import EventTracking.Plugin
import EventTracking.Context.Registry
import EventTracking.Proofs.Session

/-!
This module contains what primitives, conditional providers and plugins contribute to an event, as
relations between the sessions before and after, and the theorems that resolution follows them.
-/

namespace EventTracking

inductive InTurn {ι S α : Type} (contributes : ι → S → List α → S → Prop) :
    List ι → S → List α → S → Prop where
  | nil (s : S) : InTurn contributes [] s [] s
  | cons {i : ι} {is : List ι} {s s' s'' : S} {vs ws : List α} (first : contributes i s vs s')
      (rest : InTurn contributes is s' ws s'') : InTurn contributes (i :: is) s (vs ++ ws) s''

namespace InTurn

variable {ι S α : Type} {contributes : ι → S → List α → S → Prop} {is : List ι} {s s' : S}
  {vs : List α}

theorem forall_mem {P : α → Prop} (h : InTurn contributes is s vs s')
    (hP : ∀ i ∈ is, ∀ s vs s', contributes i s vs s' → ∀ v ∈ vs, P v) : ∀ v ∈ vs, P v := by
  induction h with
  | nil => simp
  | cons first _ ih =>
    obtain ⟨hi, his⟩ := List.forall_mem_cons.1 hP
    rw [List.forall_mem_append]
    exact ⟨hi _ _ _ first, ih his⟩

theorem mono {contributes' : ι → S → List α → S → Prop} (h : InTurn contributes is s vs s')
    (himp : ∀ i ∈ is, ∀ s vs s', contributes i s vs s' → contributes' i s vs s') :
    InTurn contributes' is s vs s' := by
  induction h with
  | nil s => exact .nil s
  | cons first _ ih =>
    obtain ⟨hi, his⟩ := List.forall_mem_cons.1 himp
    exact .cons (hi _ _ _ first) (ih his)

def collect (one : ι → Act S (List α)) : List ι → Act S (List α)
  | [] => return []
  | i :: is => do
    let first ← one i
    let rest ← collect one is
    return first ++ rest

theorem collect_run {one : ι → Act S (List α)}
    (h : ∀ i ∈ is, ∀ s, ∃ vs s', one i s = (.ok vs, s') ∧ contributes i s vs s') (s : S) :
    ∃ vs s', collect one is s = (.ok vs, s') ∧ InTurn contributes is s vs s' := by
  induction is generalizing s with
  | nil => exact ⟨[], s, rfl, .nil s⟩
  | cons i is ih =>
    obtain ⟨hi, his⟩ := List.forall_mem_cons.1 h
    obtain ⟨vs, s', hfirst, hvs⟩ := hi s
    obtain ⟨ws, s'', hrest, hws⟩ := ih his s'
    refine ⟨vs ++ ws, s'', ?_, .cons hvs hws⟩
    rw [collect, Act.bind_run hfirst, Act.bind_run hrest]
    rfl

end InTurn

variable {σ : Type}

/-! ### Primitives -/

namespace Primitive

variable {behaviour : Behaviour σ} {args : List Argument}

inductive Contributes (behaviour : Behaviour σ) (args : List Argument) :
    Primitive → Session σ → List Value → Session σ → Prop where
  | fixed (entity : Value) (s : Session σ) : Contributes behaviour args (.fixed entity) s [entity] s
  | returned {f : Callable} {output : Value} {s s' s'' : Session σ}
      (call : f.invoke behaviour args s = (.ok output, s')) (reports : s'.Reported s'') :
      Contributes behaviour args (.generator f) s (Resolution.entitiesOf output) s''
  | failed {f : Callable} {fault : Fault} {s s' s'' : Session σ}
      (call : f.invoke behaviour args s = (.error fault, s')) (reports : s'.Reported s'') :
      Contributes behaviour args (.generator f) s [] s''

structure Harmless (behaviour : Behaviour σ) (p : Primitive) : Prop where
  calm : ∀ f, p = .generator f → ∀ e s, Calm (f.invoke behaviour [.event e] s).1
  serializable : ∀ e s vs s', p.Contributes behaviour [.event e] s vs s' →
    ∀ v ∈ vs, v.IsSerializable

theorem expand_run (output : Value) (source : String) (s : Session σ) :
    ∃ s', Resolution.expand output source s = (.ok (Resolution.entitiesOf output), s')
      ∧ s.Reported s' := by
  unfold Resolution.expand
  cases Resolution.dropNote? output source with
  | none => exact ⟨s, rfl, .refl s⟩
  | some note =>
    obtain ⟨s', hrun, hs'⟩ := Act.reports_debug Resolution.logger note s
    exact ⟨s', Act.bind_run hrun, hs'⟩

theorem resolve_run {p : Primitive}
    (hcalm : ∀ f, p = .generator f → ∀ s, Calm (f.invoke behaviour args s).1) (s : Session σ) :
    ∃ vs s', p.resolve behaviour args s = (.ok vs, s') ∧ p.Contributes behaviour args s vs s' := by
  cases p with
  | fixed entity => exact ⟨[entity], s, rfl, .fixed entity s⟩
  | generator f =>
    obtain ⟨outcome, s', hcall, hisolate⟩ := Act.exists_isolate_run (hcalm f rfl s)
    rw [resolve, Resolution.generate, Act.bind_run hisolate]
    cases outcome with
    | ok output =>
      obtain ⟨s'', hrun, hs''⟩ := expand_run output (f.name?.getD Resolution.anonymous) s'
      exact ⟨_, s'', hrun, .returned hcall hs''⟩
    | error fault =>
      -- A generator that fails contributes nothing; its fault is reported.
      obtain ⟨s'', hrun, hs''⟩ := Act.reports_failure "Exception thrown in context generator" fault s'
      exact ⟨[], s'', Act.bind_run hrun, .failed hcall hs''⟩

theorem resolveAll_eq (ps : List Primitive) :
    resolveAll behaviour args ps = InTurn.collect (resolve behaviour args) ps := by
  induction ps with
  | nil => rfl
  | cons p ps ih => rw [resolveAll, InTurn.collect, ih]

end Primitive

/-! ### Conditional providers -/

namespace Provider

variable {behaviour : Behaviour σ} {e : ContextEvent}

inductive Contributes (behaviour : Behaviour σ) (e : ContextEvent) :
    Provider → Session σ → List Value → Session σ → Prop where
  | passed {f : Callable} {ps : List Primitive} {s s' s'' : Session σ} {vs : List Value}
      (call : f.invoke behaviour [.event e] s = (.ok (.bool true), s'))
      (primitives : InTurn (Primitive.Contributes behaviour [.event e]) ps s' vs s'') :
      Contributes behaviour e (.filter f ps) s vs s''
  | notPassed {f : Callable} {ps : List Primitive} {s s' s'' : Session σ}
      {outcome : Except Fault Value} (call : f.invoke behaviour [.event e] s = (outcome, s'))
      (notTrue : outcome ≠ .ok (.bool true)) (reports : s'.Reported s'') :
      Contributes behaviour e (.filter f ps) s [] s''
  | admitted {r : Schema.RuleSet} {ps : List Primitive} {s s' : Session σ} {vs : List Value}
      (admits : r.admits e.schema = true)
      (primitives : InTurn (Primitive.Contributes behaviour [.event e]) ps s vs s') :
      Contributes behaviour e (.ruled r ps) s vs s'
  | notAdmitted {r : Schema.RuleSet} {ps : List Primitive} (s : Session σ)
      (admits : r.admits e.schema = false) : Contributes behaviour e (.ruled r ps) s [] s

structure Harmless (behaviour : Behaviour σ) (p : Provider) : Prop where
  calm : ∀ f ps, p = .filter f ps → ∀ e s, Calm (f.invoke behaviour [.event e] s).1
  primitives : ∀ q ∈ p.primitives, q.Harmless behaviour

theorem Harmless.serializable {p : Provider} (h : p.Harmless behaviour) {s s' : Session σ}
    {vs : List Value} (hvs : p.Contributes behaviour e s vs s') : ∀ v ∈ vs, v.IsSerializable := by
  cases hvs with
  | passed _ primitives =>
    exact primitives.forall_mem fun q hq => (h.primitives q hq).serializable e
  | notPassed => simp
  | admitted _ primitives =>
    exact primitives.forall_mem fun q hq => (h.primitives q hq).serializable e
  | notAdmitted => simp

theorem passes_run_true {f : Callable} {s s' : Session σ}
    (hisolate : (f.invoke behaviour [.event e]).isolate s = (.ok (.ok (.bool true)), s')) :
    passes behaviour f e s = (.ok true, s') := by
  rw [passes, Act.bind_run hisolate]
  rfl

theorem passes_run_false {f : Callable} {s s' : Session σ} {outcome : Except Fault Value}
    (hisolate : (f.invoke behaviour [.event e]).isolate s = (.ok outcome, s'))
    (hfalse : outcome ≠ .ok (.bool true)) :
    ∃ s'', passes behaviour f e s = (.ok false, s'') ∧ s'.Reported s'' := by
  rw [passes, Act.bind_run hisolate]
  cases outcome with
  | ok v =>
    refine ⟨s', ?_, .refl s'⟩
    cases v with
    | bool b =>
      cases b with
      | true => exact absurd rfl hfalse
      | false => rfl
    | _ => rfl
  | error fault =>
    obtain ⟨s'', hrun, hs''⟩ := Act.reports_failure "Exception thrown in context filter" fault s'
    exact ⟨s'', Act.bind_run hrun, hs''⟩

theorem resolve_run {p : Provider}
    (hcalm : ∀ f ps, p = .filter f ps → ∀ s, Calm (f.invoke behaviour [.event e] s).1)
    (hprimitives : ∀ q ∈ p.primitives, ∀ f, q = .generator f →
      ∀ s, Calm (f.invoke behaviour [.event e] s).1) (s : Session σ) :
    ∃ vs s', p.resolve behaviour e s = (.ok vs, s') ∧ p.Contributes behaviour e s vs s' := by
  have hresolve : ∀ s, ∃ vs s',
      Primitive.resolveAll behaviour [.event e] p.primitives s = (.ok vs, s')
        ∧ InTurn (Primitive.Contributes behaviour [.event e]) p.primitives s vs s' := by
    rw [Primitive.resolveAll_eq]
    exact InTurn.collect_run fun q hq => Primitive.resolve_run (hprimitives q hq)
  cases p with
  | filter f ps =>
    obtain ⟨outcome, s', hcall, hisolate⟩ := Act.exists_isolate_run (hcalm f ps rfl s)
    by_cases htrue : outcome = .ok (.bool true)
    . subst htrue
      obtain ⟨vs, s'', hrun, hvs⟩ := hresolve s'
      refine ⟨vs, s'', ?_, .passed hcall hvs⟩
      rw [resolve, appliesTo, Act.bind_run (passes_run_true hisolate), if_pos rfl, hrun]
    . obtain ⟨s'', hpasses, hs''⟩ := passes_run_false hisolate htrue
      refine ⟨[], s'', ?_, .notPassed hcall htrue hs''⟩
      rw [resolve, appliesTo, Act.bind_run hpasses, if_neg Bool.false_ne_true]
      rfl
  | ruled r ps =>
    cases hadmits : r.admits e.schema with
    | true =>
      obtain ⟨vs, s', hrun, hvs⟩ := hresolve s
      refine ⟨vs, s', ?_, .admitted hadmits hvs⟩
      rw [resolve, appliesTo, hadmits, Act.bind_run Act.pure_run, if_pos rfl, hrun]
    | false =>
      refine ⟨[], s, ?_, .notAdmitted s hadmits⟩
      rw [resolve, appliesTo, hadmits, Act.bind_run Act.pure_run, if_neg Bool.false_ne_true]
      rfl

theorem resolveAll_eq (ps : List Provider) :
    resolveAll behaviour e ps = InTurn.collect (resolve behaviour e) ps := by
  induction ps with
  | nil => rfl
  | cons p ps ih => rw [resolveAll, InTurn.collect, ih]

end Provider

/-! ### Registries -/

namespace Registry

variable {behaviour : Behaviour σ} {e : ContextEvent} {r : Registry}

theorem reports_traceResolved (r : Registry) (e : ContextEvent) (unconditional total : Nat) :
    Act.Reports (r.traceResolved (σ := σ) e unconditional total) :=
  .bind (Act.reports_debug _ _) (Act.reports_trace _ _)

theorem resolve_run
    (hprimitives : ∀ p ∈ r.primitives, ∀ s, ∃ vs s', p.resolve behaviour [.event e] s = (.ok vs, s')
      ∧ p.Contributes behaviour [.event e] s vs s')
    (hproviders : ∀ p ∈ r.providers, ∀ s, ∃ vs s', p.resolve behaviour e s = (.ok vs, s')
      ∧ p.Contributes behaviour e s vs s') (s : Session σ) :
    ∃ unconditional conditional s₁ s₂ s₃,
      r.resolve behaviour e s = (.ok (unconditional ++ conditional), s₃)
      ∧ InTurn (Primitive.Contributes behaviour [.event e]) r.primitives s unconditional s₁
      ∧ InTurn (Provider.Contributes behaviour e) r.providers s₁ conditional s₂
      ∧ s₂.Reported s₃ := by
  obtain ⟨unconditional, s₁, hunconditional, hvs⟩ := InTurn.collect_run hprimitives s
  obtain ⟨conditional, s₂, hconditional, hws⟩ := InTurn.collect_run hproviders s₁
  obtain ⟨s₃, hreport, hs₃⟩ := reports_traceResolved r e unconditional.length
    (unconditional ++ conditional).length s₂
  refine ⟨unconditional, conditional, s₁, s₂, s₃, ?_, hvs, hws, hs₃⟩
  rw [← Primitive.resolveAll_eq] at hunconditional
  rw [← Provider.resolveAll_eq] at hconditional
  rw [resolve, Act.bind_run hunconditional, Act.bind_run hconditional, Act.bind_run hreport]
  rfl

end Registry

/-! ### Plugins -/

namespace Plugin

variable {behaviour : Behaviour σ}

inductive Contributes (behaviour : Behaviour σ) :
    Plugin → Session σ → List Value → Session σ → Prop where
  | nothing {p : Plugin} (s : Session σ) (hook : p.contexts = none) :
      Contributes behaviour p s [] s
  | returned {p : Plugin} {f : Callable} {output : Value} {s s' s'' : Session σ}
      (hook : p.contexts = some f) (call : f.call behaviour [] s = (.ok output, s'))
      (reports : s'.Reported s'') :
      Contributes behaviour p s (Resolution.entitiesOf output) s''
  | failed {p : Plugin} {f : Callable} {fault : Fault} {s s' s'' : Session σ}
      (hook : p.contexts = some f) (call : f.call behaviour [] s = (.error fault, s'))
      (reports : s'.Reported s'') : Contributes behaviour p s [] s''

theorem reports_reportFailure (p : Plugin) (fault : Fault) :
    Act.Reports (reportFailure (σ := σ) p fault) := by
  apply Act.Reports.bind (Act.reports_failure _ fault)
  exact .bind (Act.reports_log _ _ _) (Act.reports_trace _ _)

/-- What counts as false holds no entity, so that the outputs of hooks and of generators hold the same ones. -/
theorem entitiesOf_eq (output : Value) : entitiesOf output = Resolution.entitiesOf output := by
  unfold entitiesOf Resolution.entitiesOf
  cases htruthy : output.truthy with
  | false => cases output <;> simp_all [Value.truthy, Value.isSelfDescribing, Value.field?, Value.items?]
  | true =>
    cases hentity : output.isSelfDescribing with
    | true => simp [Value.items?, hentity]
    | false => simp

theorem contribution_run {p : Plugin}
    (hcalm : ∀ f, p.contexts = some f → ∀ s, Calm (f.call behaviour [] s).1) (s : Session σ) :
    ∃ vs s', p.contribution behaviour s = (.ok vs, s') ∧ p.Contributes behaviour s vs s' := by
  unfold contribution
  cases hhook : p.contexts with
  | none => exact ⟨[], s, rfl, .nothing s hhook⟩
  | some f =>
    obtain ⟨outcome, s', hcall, hisolate⟩ := Act.exists_isolate_run (hcalm f hhook s)
    dsimp only
    rw [Act.bind_run hisolate]
    cases outcome with
    | ok output =>
      dsimp only
      rw [entitiesOf_eq]
      cases p.dropNote? output with
      | none => exact ⟨_, s', rfl, .returned hhook hcall (.refl s')⟩
      | some note =>
        obtain ⟨s'', hrun, hs''⟩ := Act.reports_debug notesLogger note s'
        exact ⟨_, s'', Act.bind_run hrun, .returned hhook hcall hs''⟩
    | error fault =>
      obtain ⟨s'', hrun, hs''⟩ := reports_reportFailure p fault s'
      exact ⟨[], s'', Act.bind_run hrun, .failed hhook hcall hs''⟩

theorem contributions_eq (ps : List Plugin) :
    contributions behaviour ps = InTurn.collect (contribution behaviour) ps := by
  induction ps with
  | nil => rfl
  | cons p ps ih => rw [contributions, InTurn.collect, ih]

end Plugin

end EventTracking
