import EventTracking.Proofs.Agreement
import EventTracking.Proofs.Context.Contributions
import Mathlib.Data.List.Forall2

/-!
This module contains the agreement of resolutions: in related sessions registrations that are alike contribute
entities that are related, so that the entities that apply to an event take no notice of what has been logged and
traced as long as callables do not. A hook of a plugin that fails at its start contributes what one that does
nothing contributes.
-/

namespace EventTracking

open Act

/-! ### Registrations that are alike -/

inductive Primitive.Like (P : Value → Value → Prop) : Primitive → Primitive → Prop where
  | fixed {v w : Value} (h : P v w) : Like P (.fixed v) (.fixed w)
  | generator (f : Callable) : Like P (.generator f) (.generator f)

inductive Provider.Like (P : Value → Value → Prop) : Provider → Provider → Prop where
  | filter (f : Callable) {ps qs : List Primitive} (primitives : List.Forall₂ (Primitive.Like P) ps qs) :
      Like P (.filter f ps) (.filter f qs)
  | ruled (r : Schema.RuleSet) {ps qs : List Primitive}
      (primitives : List.Forall₂ (Primitive.Like P) ps qs) : Like P (.ruled r ps) (.ruled r qs)

section

variable {P : Value → Value → Prop} (hP : ∀ v, P v v)

include hP

theorem Primitive.like_self (p : Primitive) : Like P p p := by
  cases p with
  | fixed entity => exact .fixed (hP entity)
  | generator f => exact .generator f

theorem Provider.like_self (p : Provider) : Like P p p := by
  have hprimitives : ∀ ps : List Primitive, List.Forall₂ (Primitive.Like P) ps ps :=
    fun ps => List.forall₂_same.2 fun q _ => Primitive.like_self hP q
  cases p with
  | filter f ps => exact .filter f (hprimitives ps)
  | ruled r ps => exact .ruled r (hprimitives ps)

end

theorem Provider.Like.primitives_like {P : Value → Value → Prop} {p q : Provider} (h : p.Like P q) :
    List.Forall₂ (Primitive.Like P) p.primitives q.primitives := by
  cases h with
  | filter f primitives => exact primitives
  | ruled r primitives => exact primitives

variable {σ : Type} {behaviour : Behaviour σ} {args : List Argument} {e : ContextEvent}

def Behaviour.Keeps (R : Session σ → Session σ → Prop) (behaviour : Behaviour σ) : Prop :=
  ∀ r args, Agree R Eq (behaviour r args) (behaviour r args)

/-! ### Resolution in related sessions -/

section

variable {R : Session σ → Session σ → Prop} {P : Value → Value → Prop} {p q : Primitive}
  {ps qs : List Primitive}

theorem Behaviour.Keeps.agree_call (h : behaviour.Keeps R) (f : Callable) (args : List Argument) :
    Agree R Eq (f.call behaviour args) (f.call behaviour args) := by
  cases f with
  | routine r => exact (agree_ofExcept (outcomes_self _)).bind fun _ _ _ => h r args
  | constructor c => exact agree_ofExcept (outcomes_self _)

namespace Behaviour.Keeps

variable (h : behaviour.Keeps R) (hR : Session.IsUpToReports R) (hP : ∀ v, P v v)

include h hR

theorem agree_generate (f : Callable) (args : List Argument) :
    Agree R Eq (Resolution.generate behaviour f args) (Resolution.generate behaviour f args) := by
  refine (h.agree_call f _).isolate.bind fun outcome outcome' houtcome => ?_
  cases houtcome with
  | ok houtput =>
    cases houtput
    exact agree_of_returns_upTo hR (Primitive.expand_run _ _) (Primitive.expand_run _ _) rfl
  | error fault =>
    exact (agree_of_reports_upTo hR (reports_failure _ _) (reports_failure _ _)).bind
      fun _ _ _ => agree_pure rfl

theorem agree_passes (f : Callable) :
    Agree R Eq (Provider.passes behaviour f e) (Provider.passes behaviour f e) := by
  refine (h.agree_call f _).isolate.bind fun outcome outcome' houtcome => ?_
  cases houtcome with
  | @ok output _ houtput =>
    cases houtput
    cases output <;> exact agree_pure rfl
  | error fault =>
    exact (agree_of_reports_upTo hR (reports_failure _ _) (reports_failure _ _)).bind
      fun _ _ _ => agree_pure rfl

theorem agree_appliesTo {p q : Provider} (hpq : p.Like P q) :
    Agree R Eq (p.appliesTo behaviour e) (q.appliesTo behaviour e) := by
  cases hpq with
  | filter f => exact h.agree_passes hR f
  | ruled r => exact agree_pure rfl

include hP

theorem agree_primitive (hpq : p.Like P q) :
    Agree R (List.Forall₂ P) (p.resolve behaviour args) (q.resolve behaviour args) := by
  cases hpq with
  | fixed hvw => exact agree_pure (.cons hvw .nil)
  | generator f =>
    refine (h.agree_generate hR f args).mono fun vs ws hvs => ?_
    cases hvs
    exact List.forall₂_same.2 fun v _ => hP v

theorem agree_primitives (hpqs : List.Forall₂ (Primitive.Like P) ps qs) :
    Agree R (List.Forall₂ P) (Primitive.resolveAll behaviour args ps)
      (Primitive.resolveAll behaviour args qs) := by
  induction hpqs with
  | nil => exact agree_pure .nil
  | cons hpq _ ih =>
    refine (h.agree_primitive hR hP hpq).bind fun first first' hfirst => ih.bind fun rest rest' hrest => ?_
    exact agree_pure (List.rel_append hfirst hrest)

theorem agree_provider {p q : Provider} (hpq : p.Like P q) :
    Agree R (List.Forall₂ P) (p.resolve behaviour e) (q.resolve behaviour e) := by
  refine (h.agree_appliesTo hR hpq).bind fun applies applies' happlies => ?_
  cases happlies
  cases applies with
  | true => exact h.agree_primitives hR hP hpq.primitives_like
  | false => exact agree_pure .nil

theorem agree_providers {ps qs : List Provider} (hpqs : List.Forall₂ (Provider.Like P) ps qs) :
    Agree R (List.Forall₂ P) (Provider.resolveAll behaviour e ps)
      (Provider.resolveAll behaviour e qs) := by
  induction hpqs with
  | nil => exact agree_pure .nil
  | cons hpq _ ih =>
    refine (h.agree_provider hR hP hpq).bind fun first first' hfirst => ih.bind fun rest rest' hrest => ?_
    exact agree_pure (List.rel_append hfirst hrest)

theorem agree_resolve {r r' : Registry}
    (hprimitives : List.Forall₂ (Primitive.Like P) r.primitives r'.primitives)
    (hproviders : List.Forall₂ (Provider.Like P) r.providers r'.providers) :
    Agree R (List.Forall₂ P) (r.resolve behaviour e) (r'.resolve behaviour e) := by
  refine (h.agree_primitives hR hP hprimitives).bind fun first first' hfirst => ?_
  refine (h.agree_providers hR hP hproviders).bind fun rest rest' hrest => ?_
  have htrace := agree_of_reports_upTo hR
    (Registry.reports_traceResolved r e first.length (first ++ rest).length)
    (Registry.reports_traceResolved r' e first'.length (first' ++ rest').length)
  exact htrace.bind fun _ _ _ => agree_pure (List.rel_append hfirst hrest)

end Behaviour.Keeps

end

/-! ### Callables that take no notice of reports -/

def Behaviour.IgnoresReports (behaviour : Behaviour σ) : Prop :=
  ∀ r args, Agree Session.Alike Eq (behaviour r args) (behaviour r args)

namespace Behaviour.IgnoresReports

variable (h : behaviour.IgnoresReports)
include h

theorem keeps : behaviour.Keeps Session.Alike := h

theorem agree_resolvePrimitive (p : Primitive) :
    Agree Session.Alike Eq (p.resolve behaviour args) (p.resolve behaviour args) := by
  have hself := Primitive.like_self (P := Eq) (fun _ => rfl) p
  refine (h.keeps.agree_primitive Session.isUpToReports_alike (fun _ => rfl) hself).mono ?_
  exact fun _ _ => List.forall₂_eq_eq_eq ▸ id

theorem agree_resolve (r : Registry) :
    Agree Session.Alike Eq (r.resolve behaviour e) (r.resolve behaviour e) := by
  have hprimitives := List.forall₂_same.2 fun p (_ : p ∈ r.primitives) =>
    Primitive.like_self (P := Eq) (fun _ => rfl) p
  have hproviders := List.forall₂_same.2 fun p (_ : p ∈ r.providers) =>
    Provider.like_self (P := Eq) (fun _ => rfl) p
  refine (h.keeps.agree_resolve Session.isUpToReports_alike (fun _ => rfl) hprimitives hproviders).mono ?_
  exact fun _ _ => List.forall₂_eq_eq_eq ▸ id

end Behaviour.IgnoresReports

/-! ### Hooks of plugins -/

namespace Plugin

def calling {S α : Type} (call : Callable → Act S α) (idle : α) (hook : Option Callable) : Act S α :=
  match hook with
  | some f => call f
  | none => pure idle

def contextsOutput (behaviour : Behaviour σ) (p : Plugin) : Act (Session σ) Value :=
  calling (fun f => f.call behaviour []) .null p.contexts

def digest (p : Plugin) (output : Value) : Act (Session σ) (List Value) := do
  match p.dropNote? output with
  | some note => Session.debug notesLogger note
  | none => pure ()
  return entitiesOf output

theorem digest_run (p : Plugin) (output : Value) (s : Session σ) :
    ∃ s', p.digest output s = (.ok (Resolution.entitiesOf output), s') ∧ s.Reported s' := by
  rw [digest, ← entitiesOf_eq]
  cases p.dropNote? output with
  | none => exact ⟨s, rfl, .refl s⟩
  | some note =>
    obtain ⟨s', hrun, hs'⟩ := reports_debug notesLogger note s
    exact ⟨s', bind_run hrun, hs'⟩

theorem contribution_eq (p : Plugin) :
    p.contribution behaviour
      =
    (do
      match ← (p.contextsOutput behaviour).isolate with
      | .ok output => p.digest output
      | .error fault =>
        p.reportFailure fault
        return []) := by
  unfold contribution contextsOutput calling
  cases p.contexts with
  | none => rfl
  | some f => rfl

theorem agree_contribution {p p' : Plugin}
    (h : Falters Session.Alike (· = .null) (p.contextsOutput behaviour) (p'.contextsOutput behaviour)) :
    Agree Session.Alike Eq (p.contribution behaviour) (p'.contribution behaviour) := by
  rw [contribution_eq, contribution_eq]
  refine h.isolate.bind fun outcome outcome' houtcome => ?_
  cases houtcome with
  | same =>
    cases outcome with
    | ok output => exact agree_of_returns (p.digest_run output) (p'.digest_run output) rfl
    | error fault =>
      exact (agree_of_reports (p.reports_reportFailure fault) (p'.reports_reportFailure fault)).bind
        fun _ _ _ => agree_pure rfl
  | fault f hnull =>
    subst hnull
    have hreported : ∀ s, ∃ s', (do p.reportFailure f; return [] : Act (Session σ) (List Value)) s
        = (.ok [], s') ∧ s.Reported s' := by
      intro s
      obtain ⟨s', hrun, hs'⟩ := p.reports_reportFailure f s
      exact ⟨s', bind_run hrun, hs'⟩
    exact agree_of_returns hreported (p'.digest_run .null) rfl

theorem agree_contributions {ps ps' : List Plugin}
    (h : List.Forall₂ (fun p p' => Falters Session.Alike (· = .null) (contextsOutput behaviour p)
      (contextsOutput behaviour p')) ps ps') :
    Agree Session.Alike Eq (contributions behaviour ps) (contributions behaviour ps') := by
  induction h with
  | nil => exact agree_pure rfl
  | cons hp _ ih =>
    refine (agree_contribution hp).bind fun first first' hfirst => ih.bind fun rest rest' hrest => ?_
    rw [hfirst, hrest]
    exact agree_pure rfl

theorem contributions_of_failed {p : Plugin} {f : Callable} {fault : Fault} {s s' : Session σ}
    (hhook : p.contexts = some f) (hcall : f.call behaviour [] s = (.error fault, s'))
    (hfault : fault.interrupts = false) (ps : List Plugin) :
    contributions behaviour (p :: ps) s
      =
    (do
      p.reportFailure fault
      contributions behaviour ps) s' := by
  have hisolate : (f.call behaviour []).isolate s = (.ok (.error fault), s') :=
    isolate_run hcall fun g hg => by
      cases hg
      exact hfault
  obtain ⟨s'', hreport, _⟩ := p.reports_reportFailure fault s'
  have hfirst : p.contribution behaviour s = (.ok [], s'') := by
    rw [contribution, hhook]
    dsimp only
    rw [bind_run hisolate]
    exact bind_run hreport
  rw [contributions, bind_run hfirst, bind_run hreport]
  simp

end Plugin

end EventTracking
