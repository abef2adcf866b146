import EventTracking.Proofs.Context.Agreement
import EventTracking.Proofs.Context.Arity

/-!
This module contains the theorem that direct resolution agrees with the registry: values that are resolved
directly give the entities that they give once they have been registered. What a registry refuses gives
nothing directly either, as a callable that is refused for what it shows fails when it is called.
-/

namespace EventTracking

open Act

variable {σ : Type} {behaviour : Behaviour σ}

/-! ### Callables that are refused -/

namespace Signature

variable {s shown : Signature} {given : Nat}

theorem required_le_of_bind (h : s.bind given = .ok ()) :
    s.required.length ≤ given ∧ s.requiredKeywords = [] := by
  unfold bind at h
  dsimp only at h
  split at h
  . cases h
  . split at h
    . cases h
    . next hmissing =>
      split at h
      . cases h
      . next hkeywords =>
        simp only [Bool.not_eq_true', Bool.not_eq_false, List.isEmpty_iff, List.map_eq_nil_iff]
          at hmissing hkeywords
        refine ⟨?_, hkeywords⟩
        -- What is required stands among the parameters that the arguments are given for.
        have hrequired : s.required = (s.positional.take given).filter (!·.hasDefault) := by
          rw [required]
          conv_lhs => rw [← List.take_append_drop given s.positional]
          rw [List.filter_append, hmissing, List.append_nil]
        rw [hrequired]
        exact (List.length_filter_le _ _).trans (List.length_take_le _ _)

theorem fitsOneArgument_of_bind (hshown : shown.Sublist s) (hgiven : given ≤ 1)
    (h : s.bind given = .ok ()) : shown.fitsOneArgument = true := by
  obtain ⟨hrequired, hkeywords⟩ := required_le_of_bind h
  have hfewer : shown.required.length ≤ s.required.length :=
    ((hshown.filter _).filter _).length_le
  have hnone : shown.requiredKeywords = [] := by
    rw [← List.sublist_nil, ← hkeywords]
    exact hshown.filter _
  rw [fitsOneArgument, hnone, Bool.and_eq_true, decide_eq_true_iff]
  exact ⟨hfewer.trans (hrequired.trans hgiven), rfl⟩

end Signature

namespace Routine

variable {r : Routine} {args : List Argument}

/-- Whether a routine shows no parameter that its calls do not have. It may show fewer, or no signature. -/
def IsCandid (r : Routine) : Prop := ∀ shown, r.shown = some shown → shown.Sublist r.signature

theorem IsCandid.not_fits (h : r.IsCandid) (hrefused : (Callable.routine r).isCallback = false)
    {given : Nat} (hgiven : given ≤ 1) : r.fits given ≠ .ok () := by
  intro hfits
  rw [fits_eq_ok_iff] at hfits
  unfold Callable.isCallback at hrefused
  dsimp only at hrefused
  cases hshown : r.shown with
  | none =>
    rw [hshown] at hrefused
    cases hrefused
  | some shown =>
    rw [hshown, Option.all_some,
      Signature.fitsOneArgument_of_bind (h shown hshown) hgiven hfits] at hrefused
    cases hrefused

theorem call_of_not_fits (h : r.fits args.length ≠ .ok ()) :
    ∃ e, (Callable.routine r).call behaviour args = throw (.arity r.name e) := by
  unfold Callable.call
  dsimp only
  unfold fits at h ⊢
  cases hbind : r.signature.bind args.length with
  | ok => exact absurd (by rw [hbind]) h
  | error e => exact ⟨e, rfl⟩

theorem IsCandid.invoke_of_refused (h : r.IsCandid) (hrefused : (Callable.routine r).isCallback = false)
    (arg : Argument) :
    ∃ e, (Callable.routine r).invoke behaviour [arg] = throw (.arity r.name e) :=
  call_of_not_fits (h.not_fits hrefused (List.length_take_le' _ _))

end Routine

/-! ### Values that are refused -/

namespace Resolution

variable {arg : Argument} {v : Value} {vs : List Value}

def isClass : Value → Bool
  | .callable (.constructor _) => true
  | _ => false

/--
What direct resolution is given: nothing that a registry takes for more than a primitive, and no callable that
shows a parameter which its calls do not have.
-/
structure IsDirect (v : Value) : Prop where
  noProvider : Provider.recognizes v = false
  noClass : isClass v = false
  candid : ∀ r, v = .callable (.routine r) → r.IsCandid

theorem generate_of_throw {f : Callable} {args : List Argument} {fault : Fault}
    (hinvoke : f.invoke behaviour args = throw fault) (hfault : fault.interrupts = false)
    (s : Session σ) : ∃ s', generate behaviour f args s = (.ok [], s') ∧ s.Reported s' := by
  have hcalm : Calm (.error fault : Except Fault Value) := by
    rintro f ⟨⟩
    exact hfault
  have hraised : f.invoke behaviour args s = (.error fault, s) := by
    rw [hinvoke]
    rfl
  obtain ⟨s', hreport, hs'⟩ := reports_failure "Exception thrown in context generator" fault s
  refine ⟨s', ?_, hs'⟩
  rw [generate, bind_run (isolate_run hraised hcalm)]
  exact bind_run hreport

theorem source?_of_ofValue? {p : Primitive} (h : Primitive.ofValue? v = some p) : source? v = some p := by
  cases Primitive.writes_of_ofValue? h with
  | made | callable => rfl
  | entity valid =>
    cases v with
    | object => exact if_pos valid
    | _ => cases valid

theorem resolveItem_of_refused (hv : IsDirect v) (hrefused : Primitive.ofValue? v = none)
    (s : Session σ) : ∃ s', resolveItem behaviour [arg] v s = (.ok [], s') ∧ s.Reported s' := by
  have hdropped : source? v = none →
      ∃ s', resolveItem behaviour [arg] v s = (.ok [], s') ∧ s.Reported s' := by
    intro hsource
    obtain ⟨s', hnote, hs'⟩ := reports_debug logger "Dropping malformed context: %r" s
    refine ⟨s', ?_, hs'⟩
    rw [resolveItem_eq, hsource]
    exact bind_run hnote
  cases v with
  | callable f =>
    cases f with
    | routine r =>
      have hcallback : (Callable.routine r).isCallback = false := by
        by_contra hcallback
        rw [Bool.not_eq_false] at hcallback
        cases hrefused.symm.trans (Primitive.ofValue?_of_writes (.callable hcallback))
      obtain ⟨e, hinvoke⟩ := (hv.candid r rfl).invoke_of_refused hcallback arg
      exact generate_of_throw hinvoke rfl s
    | constructor => cases hv.noClass
  | primitive p => cases hrefused
  | object es =>
    apply hdropped
    apply if_neg
    intro valid
    cases hrefused.symm.trans (Primitive.ofValue?_of_writes (.entity valid))
  | _ => exact hdropped rfl

theorem agree_resolveItems (h : behaviour.IgnoresReports) (hvs : ∀ v ∈ vs, IsDirect v) :
    Agree Session.Alike Eq (resolveItems behaviour [arg] vs)
      (Primitive.resolveAll behaviour [arg] (vs.filterMap Primitive.ofValue?)) := by
  induction vs with
  | nil => exact agree_pure rfl
  | cons v vs ih =>
    obtain ⟨hv, hvs⟩ := List.forall_mem_cons.1 hvs
    rw [resolveItems]
    cases hp : Primitive.ofValue? v with
    | some p =>
      rw [List.filterMap_cons_some hp, Primitive.resolveAll, resolveItem_eq, source?_of_ofValue? hp]
      refine (h.agree_resolvePrimitive p).bind fun first first' hfirst => ?_
      refine (ih hvs).bind fun rest rest' hrest => ?_
      rw [hfirst, hrest]
      exact agree_pure rfl
    | none =>
      -- What is refused stands for nothing before the rest.
      have hfirst : Agree Session.Alike Eq (resolveItem behaviour [arg] v) (pure []) :=
        agree_of_returns (resolveItem_of_refused hv hp) (fun s => ⟨s, rfl, .refl s⟩) rfl
      have hrest : Primitive.resolveAll behaviour [arg] (vs.filterMap Primitive.ofValue?)
          = (do
            let first ← pure []
            let rest ← Primitive.resolveAll behaviour [arg] (vs.filterMap Primitive.ofValue?)
            return first ++ rest) := by
        simp
      rw [List.filterMap_cons_none hp, hrest]
      refine hfirst.bind fun first first' hfirst => ?_
      refine (ih hvs).bind fun rest rest' hrest => ?_
      rw [hfirst, hrest]
      exact agree_pure rfl

theorem resolveDirectly_list (args : List Argument) (vs : List Value) :
    resolveDirectly behaviour (.list vs) args = resolveItems behaviour args vs := by
  cases vs <;> rfl

theorem resolveDirectly_of_refused {f : Callable} (hf : IsDirect (.callable f)) (hrefused : f.isCallback = false)
    (s : Session σ) :
    ∃ s', resolveDirectly behaviour (.list [.callable f]) [arg] s = (.ok [], s') ∧ s.Reported s' := by
  have hvalue : Primitive.ofValue? (.callable f) = none := if_neg (Bool.eq_false_iff.1 hrefused)
  obtain ⟨s', hitem, hs'⟩ : ∃ s', resolveItem behaviour [arg] (.callable f) s = (.ok [], s') ∧ s.Reported s' :=
    resolveItem_of_refused hf hvalue s
  refine ⟨s', ?_, hs'⟩
  rw [resolveDirectly_list, resolveItems, bind_run hitem]
  rfl

end Resolution

/-! ### Registries -/

namespace Registry

open Resolution

variable {vs : List Value}

theorem insertAll_of_direct (hvs : ∀ v ∈ vs, IsDirect v) :
    empty.insertAll vs = ⟨vs.filterMap Primitive.ofValue?, []⟩ := by
  have hnone : vs.filterMap Provider.ofValue? = [] := by
    rw [List.filterMap_eq_nil_iff]
    intro v hv
    rw [← Option.isNone_iff_eq_none, ← Option.not_isSome, Bool.not_eq_true', ← Provider.recognizes_eq]
    exact (hvs v hv).noProvider
  rw [insertAll_eq_filterMap, hnone]
  rfl

theorem resolve_of_primitives {e : ContextEvent} {ps : List Primitive} {s s' : Session σ}
    {entities : List Value} (h : Primitive.resolveAll behaviour [.event e] ps s = (.ok entities, s')) :
    ∃ s'', resolve behaviour e ⟨ps, []⟩ s = (.ok entities, s'') ∧ s'.Reported s'' := by
  obtain ⟨s'', htrace, hs''⟩ := reports_traceResolved ⟨ps, []⟩ e entities.length entities.length s'
  refine ⟨s'', ?_, hs''⟩
  rw [resolve, bind_run h, Provider.resolveAll, bind_run pure_run, List.append_nil, bind_run htrace]
  rfl

/--
Values of which none is a conditional provider or a class give the same entities whether they are resolved
directly or added to an empty registry that is asked then, whatever the callables among them do, as long as they
show no parameters that their calls do not have. In particular such a callable gives nothing directly if a
registry refuses it for what it shows.
-/
theorem resolved_directly (hcalm : ∀ r args s, Calm (behaviour r args s).1)
    (hreports : behaviour.IgnoresReports) (hvs : ∀ v ∈ vs, IsDirect v) (b : Builder)
    {s s' : Session σ} (hs : s.Alike s') :
    (∃ entities s₁ r s₂ s₃,
      resolveDirectly behaviour (.list vs) [.event (.ofBuilder b)] s = (.ok entities, s₁)
      ∧ add (.list vs) .empty s' = (.ok r, s₂)
      ∧ applicable behaviour ((r, b), s₂) = (.ok entities, (r, b), s₃)
      ∧ s₁.Alike s₃)
    ∧ ∀ f, .callable f ∈ vs → f.isCallback = false →
        ∃ s₁, resolveDirectly behaviour (.list [.callable f]) [.event (.ofBuilder b)] s = (.ok [], s₁)
          ∧ s.Reported s₁ := by
  constructor
  . have helements : (Value.list vs).elements? = some vs := rfl
    obtain ⟨entities, s₁, hdirect⟩ : ∃ entities s₁, resolveDirectly behaviour (.list vs)
        [.event (.ofBuilder b)] s = (.ok entities, s₁) := resolveDirectly_run hcalm helements s
    obtain ⟨s₂, hadd, hs₂⟩ := add_run helements empty s'
    rw [insertAll_of_direct hvs] at hadd
    have hagree : Agree Session.Alike Eq (resolveItems behaviour [.event (.ofBuilder b)] vs)
        (Primitive.resolveAll behaviour [.event (.ofBuilder b)] (vs.filterMap Primitive.ofValue?)) :=
      agree_resolveItems hreports hvs
    obtain ⟨_, _, _, s₃, hrun, hrun', houtcome, hs₃⟩ := hagree s s₂ (hs.trans hs₂.alike)
    rw [resolveDirectly_list] at hdirect
    cases hdirect.symm.trans hrun
    cases houtcome with
    | ok heq =>
      subst heq
      obtain ⟨s₄, hresolve, hs₄⟩ := resolve_of_primitives hrun'
      refine ⟨entities, s₁, _, s₂, s₄, ?_, hadd, ?_, hs₃.trans hs₄.alike⟩
      . rw [resolveDirectly_list, hrun]
      . rw [applicable, bind_run subject_run]
        exact besideSubject_run hresolve
  . exact fun f hf hrefused => resolveDirectly_of_refused (hvs _ hf) hrefused s

theorem ignoresReports_moody : moody.IgnoresReports := by
  rintro r args s s' ⟨records, spans, rfl⟩
  exact ⟨_, _, _, _, rfl, rfl, outcomes_self _, records, spans, rfl⟩

def withRefused : List Value :=
  [.callable pairwise, .callable moodyCallable, entityOf "raw", malformed, .callable moodyCallable,
    .primitive (.generator moodyCallable) 0, .list [entityOf "inner", entityOf "inner"]]

theorem isDirect_withRefused : ∀ v ∈ withRefused, IsDirect v := by
  have hproviders : ∀ v ∈ withRefused, Provider.recognizes v = false := by decide +kernel
  have hclasses : ∀ v ∈ withRefused, isClass v = false := by decide +kernel
  have hcandid : ∀ r, .callable (.routine r) ∈ withRefused → r.IsCandid := by
    intro r hr shown hshown
    simp only [withRefused, pairwise, moodyCallable, entityOf, malformed, List.mem_cons, List.not_mem_nil,
      Value.callable.injEq, Callable.routine.injEq, reduceCtorEq, or_false, false_or] at hr
    rcases hr with rfl | rfl | rfl
    . cases hshown
      exact List.Sublist.refl _
    . cases hshown
    . cases hshown
  intro v hv
  refine ⟨hproviders v hv, hclasses v hv, ?_⟩
  rintro r rfl
  exact hcandid r hv

theorem resolved_directly_withRefused :
    pairwise.isCallback = false
      ∧ ∃ entities s₁ r s₂ s₃,
        resolveDirectly moody (.list withRefused) [.event (.ofBuilder .empty)] quiet = (.ok entities, s₁)
        ∧ add (.list withRefused) .empty quiet = (.ok r, s₂)
        ∧ applicable moody ((r, .empty), s₂) = (.ok entities, (r, .empty), s₃)
        ∧ schemas entities = [some "raw", some "first", some "second", some "third"] := by
  have hcalm : ∀ r args s, Calm (moody r args s).1 := fun r args s => calm_outcomeAfter s.users
  obtain ⟨⟨entities, s₁, r, s₂, s₃, hdirect, hadd, happlicable, _⟩, _⟩ :=
    resolved_directly hcalm ignoresReports_moody isDirect_withRefused .empty (.refl quiet)
  have hschemas : ((resolveDirectly moody (.list withRefused) [.event (.ofBuilder .empty)]
      quiet).1.map schemas).toOption = some [some "raw", some "first", some "second", some "third"] := by
    decide +kernel
  rw [hdirect] at hschemas
  exact ⟨rfl, entities, s₁, r, s₂, s₃, hdirect, hadd, happlicable, Option.some.inj hschemas⟩

end Registry

end EventTracking
