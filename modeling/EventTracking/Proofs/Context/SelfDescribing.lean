import EventTracking.Proofs.Context.Isolation
import EventTracking.Proofs.Context.Registrations

/-!
This module contains the theorem on what resolution lets through: an entity that is resolved is
self-describing unless it was fixed in a primitive before it came in, as such an entity is not checked.
-/

namespace EventTracking

variable {σ : Type} {behaviour : Behaviour σ} {args : List Argument}

/-! ### Resolutions that return -/

namespace InTurn

variable {ι S α : Type} {contributes : ι → S → List α → S → Prop} {is : List ι} {s s' : S}
  {vs : List α}

theorem of_collect {one : ι → Act S (List α)}
    (h : ∀ i ∈ is, ∀ s vs s', one i s = (.ok vs, s') → contributes i s vs s')
    (hrun : collect one is s = (.ok vs, s')) : InTurn contributes is s vs s' := by
  induction is generalizing s vs with
  | nil =>
    cases hrun
    exact .nil _
  | cons i is ih =>
    obtain ⟨hi, his⟩ := List.forall_mem_cons.1 h
    obtain ⟨first, s₁, hfirst, hrun⟩ := Act.exists_bind_run hrun
    obtain ⟨rest, s₂, hrest, hrun⟩ := Act.exists_bind_run hrun
    cases hrun
    exact .cons (hi _ _ _ hfirst) (ih his hrest)

theorem mem_of_mem {i : ι} {v : α} (h : InTurn contributes is s vs s') (hi : i ∈ is)
    (hv : ∀ s ws s', contributes i s ws s' → v ∈ ws) : v ∈ vs := by
  induction h with
  | nil => cases hi
  | cons first _ ih =>
    rw [List.mem_append]
    rcases List.mem_cons.1 hi with rfl | hi
    . exact Or.inl (hv _ _ _ first)
    . exact Or.inr (ih hi)

end InTurn

namespace Primitive

variable {p : Primitive} {ps : List Primitive} {s s' : Session σ} {vs : List Value}

theorem contributes_of_resolve (h : p.resolve behaviour args s = (.ok vs, s')) :
    p.Contributes behaviour args s vs s' := by
  cases p with
  | fixed entity =>
    cases h
    exact .fixed entity s
  | generator f =>
    obtain ⟨outcome, s₁, hisolate, hrun⟩ := Act.exists_bind_run h
    have hcall := Act.run_of_isolate hisolate
    cases outcome with
    | ok output =>
      obtain ⟨s₂, hexpand, hs₂⟩ := expand_run output (f.name?.getD Resolution.anonymous) s₁
      cases hexpand.symm.trans hrun
      exact .returned hcall hs₂
    | error fault =>
      obtain ⟨s₂, hreport, hs₂⟩ := Act.reports_failure "Exception thrown in context generator" fault s₁
      cases (Act.bind_run hreport).symm.trans hrun
      exact .failed hcall hs₂

theorem inTurn_of_resolveAll (h : resolveAll behaviour args ps s = (.ok vs, s')) :
    InTurn (Contributes behaviour args) ps s vs s' := by
  rw [resolveAll_eq] at h
  exact InTurn.of_collect (fun p _ _ _ _ => contributes_of_resolve) h

theorem Contributes.checked (h : p.Contributes behaviour args s vs s') :
    ∀ v ∈ vs, v.isSelfDescribing = true ∨ v ∈ p.entities := by
  intro v hv
  cases h with
  | fixed entity => exact Or.inr hv
  | returned =>
    unfold Resolution.entitiesOf at hv
    split at hv
    . next houtput =>
      cases List.mem_singleton.1 hv
      exact Or.inl houtput
    . exact Or.inl (List.mem_filter.1 hv).2
  | failed => cases hv

theorem Contributes.entities_subset (h : p.Contributes behaviour args s vs s') : p.entities ⊆ vs := by
  cases h with
  | fixed => exact List.Subset.refl _
  | returned | failed => exact List.nil_subset _

end Primitive

namespace Provider

variable {e : ContextEvent} {p : Provider} {s s' : Session σ} {vs : List Value}

theorem checked_of_resolve (h : p.resolve behaviour e s = (.ok vs, s')) :
    ∀ v ∈ vs, v.isSelfDescribing = true ∨ v ∈ p.entities := by
  obtain ⟨applies, s₁, _, hrun⟩ := Act.exists_bind_run h
  cases applies with
  | true =>
    apply (Primitive.inTurn_of_resolveAll hrun).forall_mem
      (P := fun v => v.isSelfDescribing = true ∨ v ∈ p.entities)
    intro q hq s vs s' hcontributes v hv
    exact (hcontributes.checked v hv).imp_right fun hv => List.mem_flatMap.2 ⟨q, hq, hv⟩
  | false =>
    cases hrun
    simp

end Provider

/-! ### Values that are resolved directly -/

namespace Resolution

variable {item : Value} {s s' : Session σ} {vs : List Value}

def source? : Value → Option Primitive
  | .callable f => some (.generator f)
  | .primitive p _ => some p
  | v => if v.isSelfDescribing then some (.fixed v) else none

theorem resolveItem_eq (item : Value) :
    resolveItem behaviour args item
      =
    match source? item with
    | some p => p.resolve behaviour args
    | none => do
      Session.debug logger "Dropping malformed context: %r"
      return [] := by
  cases item with
  | callable | primitive => rfl
  | _ =>
    unfold resolveItem source?
    dsimp only
    split <;> simp_all [Primitive.resolve]

theorem source?_eq_fixed {v : Value} (h : source? item = some (.fixed v)) :
    (∃ n, item = .primitive (.fixed v) n) ∨ v.isSelfDescribing = true := by
  unfold source? at h
  split at h
  . cases h
  . cases h
    exact Or.inl ⟨_, rfl⟩
  . split at h
    . next hitem =>
      cases h
      exact Or.inr hitem
    . cases h

structure Contributes (item : Value) (vs : List Value) : Prop where
  checked : ∀ v ∈ vs, v.isSelfDescribing = true ∨ ∃ n, item = .primitive (.fixed v) n
  fixed : ∀ v n, item = .primitive (.fixed v) n → v ∈ vs

theorem contributes_of_resolveItem (h : resolveItem behaviour args item s = (.ok vs, s')) :
    Contributes item vs := by
  rw [resolveItem_eq] at h
  cases hsource : source? item with
  | none =>
    rw [hsource] at h
    cases h
    refine ⟨by simp, ?_⟩
    rintro v n rfl
    cases hsource
  | some p =>
    rw [hsource] at h
    have hcontributes := Primitive.contributes_of_resolve h
    constructor
    . intro v hv
      rcases hcontributes.checked v hv with hv | hv
      . exact Or.inl hv
      . cases p with
        | fixed entity =>
          cases List.mem_singleton.1 hv
          exact (source?_eq_fixed hsource).symm
        | generator => cases hv
    . rintro v n rfl
      cases hsource
      exact hcontributes.entities_subset List.mem_cons_self

theorem resolveItems_eq (items : List Value) :
    resolveItems behaviour args items = InTurn.collect (resolveItem behaviour args) items := by
  induction items with
  | nil => rfl
  | cons x xs ih => rw [resolveItems, InTurn.collect, ih]

theorem mem_resolveItems_iff {items : List Value} {v : Value} (hv : ¬ v.isSelfDescribing)
    (h : resolveItems behaviour args items s = (.ok vs, s')) :
    v ∈ vs ↔ ∃ n, .primitive (.fixed v) n ∈ items := by
  rw [resolveItems_eq] at h
  have hvs : InTurn (fun item _ vs _ => Contributes item vs) items s vs s' :=
    InTurn.of_collect (fun item _ _ _ _ => contributes_of_resolveItem) h
  constructor
  . have hchecked := hvs.forall_mem
      (P := fun v => v.isSelfDescribing = true ∨ ∃ n, .primitive (.fixed v) n ∈ items) ?_
    . exact fun hmem => (hchecked v hmem).resolve_left hv
    . intro item hitem _ ws _ hws w hw
      refine (hws.checked w hw).imp_right ?_
      rintro ⟨n, rfl⟩
      exact ⟨n, hitem⟩
  . rintro ⟨n, hitem⟩
    exact hvs.mem_of_mem hitem fun _ ws _ hws => hws.fixed v n rfl

theorem resolveItem_run (hcalm : ∀ r args s, Calm (behaviour r args s).1) (item : Value)
    (s : Session σ) : ∃ vs s', resolveItem behaviour args item s = (.ok vs, s') := by
  rw [resolveItem_eq]
  cases source? item with
  | none => exact ⟨[], _, rfl⟩
  | some p =>
    obtain ⟨vs, s', hrun, _⟩ := Primitive.resolve_run
      (fun f _ s => Callable.calm_invoke hcalm f args s) s (p := p)
    exact ⟨vs, s', hrun⟩

theorem elements?_of_not_truthy {v : Value} (h : v.truthy = false) : v.elements?.getD [] = [] := by
  cases v <;> simp_all [Value.truthy, Value.elements?]

theorem mem_resolveDirectly_iff {contexts : Value} {v : Value} (hv : ¬ v.isSelfDescribing)
    (h : resolveDirectly behaviour contexts args s = (.ok vs, s')) :
    v ∈ vs ↔ ∃ n, .primitive (.fixed v) n ∈ contexts.elements?.getD [] := by
  unfold resolveDirectly at h
  cases htruthy : contexts.truthy with
  | false =>
    rw [htruthy] at h
    cases h
    rw [elements?_of_not_truthy htruthy]
    simp
  | true =>
    rw [htruthy] at h
    cases helements : contexts.elements? with
    | none =>
      rw [helements] at h
      cases h
    | some items =>
      rw [helements] at h
      exact mem_resolveItems_iff hv h

theorem resolveDirectly_run (hcalm : ∀ r args s, Calm (behaviour r args s).1) {contexts : Value}
    {items : List Value} (hitems : contexts.elements? = some items) (s : Session σ) :
    ∃ vs s', resolveDirectly behaviour contexts args s = (.ok vs, s') := by
  unfold resolveDirectly
  cases contexts.truthy with
  | false => exact ⟨[], s, rfl⟩
  | true =>
    have hone : ∀ item ∈ items, ∀ s, ∃ vs s', resolveItem behaviour args item s = (.ok vs, s')
        ∧ Contributes item vs := by
      intro item _ s
      obtain ⟨vs, s', hrun⟩ := resolveItem_run hcalm item s
      exact ⟨vs, s', hrun, contributes_of_resolveItem hrun⟩
    obtain ⟨vs, s', hrun, _⟩ := InTurn.collect_run hone s
    rw [hitems]
    refine ⟨vs, s', ?_⟩
    rw [← resolveItems_eq] at hrun
    exact hrun

end Resolution

/-! ### Values that are registered -/

/-- The ways in which an entity comes in ready made: fixed in a primitive, alone, in a provider or in a pair. -/
inductive ReadyMade (entity : Value) : Value → Prop where
  | primitive (object : Nat) : ReadyMade entity (.primitive (.fixed entity) object)
  | provider {p : Provider} (fixed : entity ∈ p.entities) (object : Nat) : ReadyMade entity (.provider p object)
  | pair {v criterion primitives : Value} {object : Nat} (pair : v.pair? = some (criterion, primitives))
      (fixed : .primitive (.fixed entity) object ∈ (primitives.items?).getD [primitives]) : ReadyMade entity v

namespace Primitive

variable {p : Primitive} {v w : Value}

theorem checked_of_ofValue? (h : ofValue? v = some p) (hw : w ∈ p.entities) :
    w.isSelfDescribing = true ∨ ∃ n, v = .primitive (.fixed w) n := by
  unfold ofValue? at h
  split at h
  . cases h
    cases p with
    | fixed entity =>
      cases List.mem_singleton.1 hw
      exact Or.inr ⟨_, rfl⟩
    | generator => cases hw
  . split at h
    . next hv =>
      cases h
      cases List.mem_singleton.1 hw
      exact Or.inl hv
    . split at h
      . split at h
        . cases h
          cases hw
        . cases h
      . cases h

theorem exists_of_allOfValue? {ps : List Primitive} (h : allOfValue? v = some ps) (hp : p ∈ ps) :
    ∃ x ∈ (v.items?).getD [v], ofValue? x = some p := by
  rw [allOfValue?_eq_some_iff] at h
  generalize (v.items?).getD [v] = xs at h
  induction h with
  | nil => cases hp
  | @cons x q xs qs hx _ ih =>
    rcases List.mem_cons.1 hp with rfl | hp
    . exact ⟨x, List.mem_cons_self, hx⟩
    . obtain ⟨y, hy, hofValue⟩ := ih hp
      exact ⟨y, List.mem_cons_of_mem _ hy, hofValue⟩

end Primitive

namespace Provider

variable {p : Provider} {v w : Value}

theorem primitives_of_ofCriterion? {criterion : Value} {ps : List Primitive}
    (h : ofCriterion? criterion ps = some p) : p.primitives = ps := by
  unfold ofCriterion? at h
  split at h
  . split at h
    . cases h
      rfl
    . cases h
  . obtain ⟨r, _, rfl⟩ := Option.map_eq_some_iff.1 h
    rfl

theorem checked_of_ofValue? (h : ofValue? v = some p) (hw : w ∈ p.entities) :
    w.isSelfDescribing = true ∨ ReadyMade w v := by
  unfold ofValue? at h
  split at h
  . cases h
    exact Or.inr (.provider hw _)
  . split at h
    . cases h
    . next criterion primitives hpair =>
      obtain ⟨ps, hps, hcriterion⟩ := Option.bind_eq_some_iff.1 h
      obtain ⟨q, hq, hw⟩ := List.mem_flatMap.1 hw
      rw [primitives_of_ofCriterion? hcriterion] at hq
      obtain ⟨x, hx, hofValue⟩ := Primitive.exists_of_allOfValue? hps hq
      rcases Primitive.checked_of_ofValue? hofValue hw with hw | ⟨n, rfl⟩
      . exact Or.inl hw
      . exact Or.inr (.pair hpair hx)

end Provider

namespace Registry

variable {r : Registry} {v w : Value} {e : Entry}

theorem Entry.checked_of_ofValue? (h : Entry.ofValue? v = some e) (hw : w ∈ e.entities) :
    w.isSelfDescribing = true ∨ ReadyMade w v := by
  unfold Entry.ofValue? at h
  split at h
  . next hp =>
    cases h
    exact Provider.checked_of_ofValue? hp hw
  . obtain ⟨p, hp, rfl⟩ := Option.map_eq_some_iff.1 h
    rcases Primitive.checked_of_ofValue? hp hw with hw | ⟨n, rfl⟩
    . exact Or.inl hw
    . exact Or.inr (.primitive n)

theorem inTurn_of_resolve {event : ContextEvent} {s s' : Session σ} {vs : List Value}
    (h : r.resolve behaviour event s = (.ok vs, s')) :
    ∃ unconditional conditional s₁ s₂, vs = unconditional ++ conditional
      ∧ InTurn (Primitive.Contributes behaviour [.event event]) r.primitives s unconditional s₁
      ∧ InTurn (fun p s vs s' => Provider.resolve behaviour event p s = (.ok vs, s')) r.providers s₁
        conditional s₂ := by
  obtain ⟨unconditional, s₁, hprimitives, h⟩ := Act.exists_bind_run h
  obtain ⟨conditional, s₂, hproviders, h⟩ := Act.exists_bind_run h
  obtain ⟨_, s₃, _, h⟩ := Act.exists_bind_run h
  cases h
  rw [Provider.resolveAll_eq] at hproviders
  exact ⟨unconditional, conditional, s₁, s₂, rfl, Primitive.inTurn_of_resolveAll hprimitives,
    InTurn.of_collect (fun _ _ _ _ _ h => h) hproviders⟩

theorem checked_of_resolve {P : Value → Prop} (hr : r.Every fun e => ∀ v ∈ e.entities, P v)
    (hP : ∀ v, v.isSelfDescribing = true → P v) {event : ContextEvent} {s s' : Session σ}
    {vs : List Value} (h : r.resolve behaviour event s = (.ok vs, s')) : ∀ v ∈ vs, P v := by
  obtain ⟨unconditional, conditional, s₁, s₂, rfl, hunconditional, hconditional⟩ := inTurn_of_resolve h
  rw [List.forall_mem_append]
  constructor
  . apply hunconditional.forall_mem (P := P)
    intro p hp _ _ _ hvs v hv
    exact (hvs.checked v hv).elim (hP v) (hr.primitives p hp v)
  . apply hconditional.forall_mem (P := P)
    intro p hp _ _ _ hvs v hv
    exact (Provider.checked_of_resolve hvs v hv).elim (hP v) (hr.providers p hp v)

theorem fixed_mem_of_resolve (hv : .fixed v ∈ r.primitives) {event : ContextEvent} {s s' : Session σ}
    {vs : List Value} (h : r.resolve behaviour event s = (.ok vs, s')) : v ∈ vs := by
  obtain ⟨unconditional, conditional, s₁, s₂, rfl, hunconditional, _⟩ := inTurn_of_resolve h
  apply List.mem_append_left
  exact hunconditional.mem_of_mem hv fun _ _ _ hvs => hvs.entities_subset List.mem_cons_self

theorem resolve_of_applicable {b : Builder} {s s' : Session σ} {subject : Registry × Builder}
    {vs : List Value} (h : applicable behaviour ((r, b), s) = (.ok vs, subject, s')) :
    r.resolve behaviour (.ofBuilder b) s = (.ok vs, s') := by
  rw [applicable, Act.bind_run Act.subject_run] at h
  dsimp only [Act.besideSubject] at h
  cases hresolve : r.resolve behaviour (.ofBuilder b) s with
  | mk outcome s₁ =>
    rw [hresolve] at h
    cases h
    rfl

/--
Whatever the callables do, an entity that comes out of resolution is self-describing unless it has come in
ready made, as what is fixed in a primitive is not checked. When values are resolved directly these are
exactly the others that come out. In a registry with any history they have been registered so, and those
of its primitives do come out.
-/
theorem resolved_checked (behaviour : Behaviour σ) (contexts : Value) (args : List Argument)
    (changes : List Change) (s : Session σ) :
    (∀ entities s', Resolution.resolveDirectly behaviour contexts args s = (.ok entities, s') →
      ∀ v, ¬ v.isSelfDescribing →
        (v ∈ entities ↔ ∃ n, .primitive (.fixed v) n ∈ contexts.elements?.getD []))
    ∧ ((∀ r args s, Calm (behaviour r args s).1) → ∀ items, contexts.elements? = some items →
      ∃ entities s', Resolution.resolveDirectly behaviour contexts args s = (.ok entities, s'))
    ∧ ∃ r s', performAll changes .empty s = (.ok r, s')
      ∧ ∀ b s entities subject s', applicable behaviour ((r, b), s) = (.ok entities, subject, s') →
        (∀ v ∈ entities, ¬ v.isSelfDescribing →
          ∃ c ∈ changes, ∃ input ∈ c.added, ReadyMade v input)
        ∧ ∀ v, .fixed v ∈ r.primitives → v ∈ entities := by
  refine ⟨fun _ _ h v hv => Resolution.mem_resolveDirectly_iff hv h,
    fun hcalm items hitems => Resolution.resolveDirectly_run hcalm hitems s, ?_⟩
  have hadded : ∀ c ∈ changes, ∀ input ∈ c.added, Describes (fun e => ∀ v ∈ e.entities,
      v.isSelfDescribing = true ∨ ∃ c ∈ changes, ∃ input ∈ c.added, ReadyMade v input) input := by
    intro c hc input hinput e he v hv
    exact (Entry.checked_of_ofValue? he hv).imp_right fun h => ⟨c, hc, input, hinput, h⟩
  obtain ⟨r, s', hrun, hr⟩ := performAll_every hadded .empty s
  refine ⟨r, s', hrun, fun b s entities subject s' happlicable => ?_⟩
  have hresolve := resolve_of_applicable happlicable
  constructor
  . exact fun v hv hnot => (checked_of_resolve hr (fun _ => Or.inl) hresolve v hv).resolve_left hnot
  . exact fun v hv => fixed_mem_of_resolve hv hresolve

def malformed : Value := .object [(.str "a", .int 1)]

def listing : Behaviour Unit := fun _ _ s => (.ok (.list [entityOf "listed", .int 1]), s)

/-- A list with an object that is fixed in a primitive gives that object, whatever it is. -/
theorem readyMade_unchecked :
    ∃ entities s', Resolution.resolveDirectly listing (.list [.primitive (.fixed malformed) 0]) []
        (.initial () (.whole 0) "" toString) = (.ok entities, s')
      ∧ ¬ ∀ v ∈ entities, v.isSelfDescribing :=
  ⟨[malformed], _, rfl, by decide +kernel⟩

def schemas (entities : List Value) : List (Option String) :=
  entities.map fun v => (v.field? "sc").bind Value.text?

def mixedItems : Value :=
  .list [entityOf "raw", malformed, .callable moodyCallable, .primitive (.fixed malformed) 0,
    .primitive (.generator moodyCallable) 0]

theorem resolved_checked_mixed :
    ∃ entities s', Resolution.resolveDirectly listing mixedItems [] (.initial () (.whole 0) "" toString)
        = (.ok entities, s')
      ∧ schemas entities = [some "raw", some "listed", none, some "listed"]
      ∧ malformed ∈ entities
      ∧ ∃ r s', performAll [.add mixedItems] .empty (.initial () (.whole 0) "" toString) = (.ok r, s')
        ∧ ∃ entities subject s'', applicable listing ((r, .empty), s') = (.ok entities, subject, s'')
          ∧ malformed ∈ entities := by
  have hcalm : ∀ r args (s : Session Unit), Calm (listing r args s).1 := by
    rintro r args s f ⟨⟩
  have hnot : ¬ malformed.isSelfDescribing := by decide +kernel
  obtain ⟨hdirect, hreturns, r, s', hrun, happlicable⟩ :=
    resolved_checked listing mixedItems [] [.add mixedItems] (.initial () (.whole 0) "" toString)
  obtain ⟨entities, s₁, hentities⟩ := hreturns hcalm _ rfl
  have hschemas : ((Resolution.resolveDirectly listing mixedItems []
      (.initial () (.whole 0) "" toString)).1.map schemas).toOption
        = some [some "raw", some "listed", none, some "listed"] := by
    decide +kernel
  rw [hentities] at hschemas
  refine ⟨entities, s₁, hentities, Option.some.inj hschemas, ?_, r, s', hrun, ?_⟩
  . rw [hdirect entities s₁ hentities malformed hnot]
    exact ⟨0, List.mem_cons_of_mem _ (List.mem_cons_of_mem _ (List.mem_cons_of_mem _ List.mem_cons_self))⟩
  . obtain ⟨unconditional, conditional, _, _, s₂, hall, _⟩ := applicable_isolated hcalm r .empty s'
    refine ⟨_, _, s₂, hall, (happlicable .empty s' _ _ s₂ hall).2 malformed ?_⟩
    have hregistered : ∃ s'', performAll [.add mixedItems] .empty (.initial () (.whole 0) "" toString)
        = (.ok ⟨[.fixed (entityOf "raw"), .generator moodyCallable, .fixed malformed,
          .generator moodyCallable], []⟩, s'') := ⟨_, rfl⟩
    obtain ⟨s'', hregistered⟩ := hregistered
    cases hrun.symm.trans hregistered
    exact List.mem_cons_of_mem _ (List.mem_cons_of_mem _ List.mem_cons_self)

end Registry

end EventTracking
