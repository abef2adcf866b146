import EventTracking.Proofs.Context.Agreement
import EventTracking.Proofs.Context.SelfDescribing
import EventTracking.Proofs.Context.Spelling

/-!
This module contains the theorem on the equality of registrations: it is an equivalence among those whose
entities are data without NaN, it relates only registrations of one kind, and whatever callables without a
memory do, equal registrations contribute equal entities.
-/

namespace EventTracking

/-! ### Data without NaN -/

namespace Value

variable {v x : Value}

/-- Data as JSON has it, with tuples besides lists, with any such data as keys and without NaN. -/
inductive IsDatum : Value → Prop where
  | null : IsDatum .null
  | bool (b : Bool) : IsDatum (.bool b)
  | int (n : Int) : IsDatum (.int n)
  | float {x : Binary64} (number : x ≠ .nan) : IsDatum (.float x)
  | str (s : String) : IsDatum (.str s)
  | list {xs : List Value} (items : ∀ x ∈ xs, IsDatum x) : IsDatum (.list xs)
  | tuple {xs : List Value} (items : ∀ x ∈ xs, IsDatum x) : IsDatum (.tuple xs)
  | object {es : List (Value × Value)} (different : es.Pairwise fun e f => ¬ sameItem e.1 f.1)
      (keys : ∀ e ∈ es, IsDatum e.1) (values : ∀ e ∈ es, IsDatum e.2) : IsDatum (.object es)

theorem IsDatum.of_isPart (hv : v.IsDatum) (h : IsPart x v) : x.IsDatum := by
  induction h with
  | self => exact hv
  | list mem _ ih =>
    cases hv with
    | list items => exact ih (items _ mem)
  | tuple mem _ ih =>
    cases hv with
    | tuple items => exact ih (items _ mem)
  | key mem _ ih =>
    cases hv with
    | object _ keys _ => exact ih (keys _ mem)
  | value mem _ ih =>
    cases hv with
    | object _ _ values => exact ih (values _ mem)
  | item mem _ ih => cases hv

theorem IsDatum.isWellFormed (h : v.IsDatum) : v.IsWellFormed := by
  constructor
  . intro es hes
    cases h.of_isPart hes with
    | object different _ _ => exact different
  . intro xs hxs
    cases h.of_isPart hxs

theorem IsDatum.isNan_eq (h : v.IsDatum) : v.isNan = false := by
  cases h with
  | @float x number =>
    cases x with
    | nan => exact absurd rfl number
    | _ => rfl
  | _ => rfl

theorem IsDatum.same_self (h : v.IsDatum) : same v v := Value.same_self h.isWellFormed h.isNan_eq

theorem isDatum_ofPairs {ps : Pairs} (hkeys : ps.keys.Nodup) (h : ∀ p ∈ ps, p.2.IsDatum) :
    (ofPairs ps).IsDatum := by
  apply IsDatum.object
  . rw [List.pairwise_map]
    apply (List.pairwise_map.1 hkeys).imp
    intro p q hne
    simpa [sameItem, sameLeaf, exactValue?] using hne
  . rw [List.forall_mem_map]
    exact fun p _ => .str p.1
  . rw [List.forall_mem_map]
    exact h

/--
Whether two values are equal or, where they are not data without NaN and so need not equal even themselves, one
and the same.
-/
def Corresponds (v w : Value) : Prop := same v w = true ∨ ¬ v.IsDatum ∧ v = w

theorem corresponds_self (v : Value) : Corresponds v v := by
  by_cases h : v.IsDatum
  . exact Or.inl h.same_self
  . exact Or.inr ⟨h, rfl⟩

end Value

/-! ### Equal registrations -/

theorem Primitive.like_of_same {p q : Primitive} (h : same p q = true) : Like Value.Corresponds p q := by
  cases p with
  | fixed v =>
    cases q with
    | fixed w => exact .fixed (Or.inl h)
    | generator => cases h
  | generator f =>
    cases q with
    | fixed => cases h
    | generator g =>
      rw [same, beq_iff_eq] at h
      subst h
      exact .generator f

theorem Primitive.forall₂_like_of_sameAll {ps qs : List Primitive} (h : sameAll ps qs = true) :
    List.Forall₂ (Like Value.Corresponds) ps qs :=
  (sameAll_iff.1 h).imp fun _ _ => like_of_same

theorem Provider.like_of_same {p q : Provider} (h : same p q = true) : Like Value.Corresponds p q := by
  cases p with
  | filter f ps =>
    cases q with
    | filter g qs =>
      rw [same, Bool.and_eq_true, beq_iff_eq] at h
      obtain ⟨rfl, hprimitives⟩ := h
      exact .filter f (Primitive.forall₂_like_of_sameAll hprimitives)
    | ruled => cases h
  | ruled r ps =>
    cases q with
    | filter => cases h
    | ruled t qs =>
      rw [same, Bool.and_eq_true, beq_iff_eq] at h
      obtain ⟨rfl, hprimitives⟩ := h
      exact .ruled r (Primitive.forall₂_like_of_sameAll hprimitives)

def Behaviour.IsStateless {σ : Type} (behaviour : Behaviour σ) : Prop :=
  ∀ r args s s', (behaviour r args s).1 = (behaviour r args s').1

theorem Behaviour.IsStateless.keeps {σ : Type} {behaviour : Behaviour σ} (h : behaviour.IsStateless) :
    behaviour.Keeps fun _ _ => True := by
  intro r args s s' _
  refine ⟨_, _, _, _, rfl, rfl, ?_, trivial⟩
  rw [h r args s s']
  exact outcomes_self _

namespace Registry

variable {σ : Type} {behaviour : Behaviour σ} {event : ContextEvent} {d e : Entry}

namespace Entry

def made : Entry → Value
  | .primitive p => .primitive p 0
  | .provider p => .provider p 0

def resolve (behaviour : Behaviour σ) (event : ContextEvent) : Entry → Act (Session σ) (List Value)
  | .primitive p => p.resolve behaviour [.event event]
  | .provider p => p.resolve behaviour event

def HasData (e : Entry) : Prop := ∀ v ∈ e.entities, v.IsDatum

theorem HasData.isOrderly (h : e.HasData) : e.IsOrderly :=
  fun v hv => ⟨(h v hv).isWellFormed, (h v hv).isNan_eq⟩

theorem HasData.isWellFormed (h : e.HasData) : ∀ v ∈ e.entities, v.IsWellFormed :=
  fun v hv => (h v hv).isWellFormed

theorem isPartialEquivalence_same :
    IsPartialEquivalence (fun e : Entry => ∀ v ∈ e.entities, v.IsWellFormed) fun d e => same d e := by
  constructor
  . intro d e hd he h
    cases d <;> cases e
    case primitive.primitive => exact Primitive.isPartialEquivalence_same.symm hd he h
    case provider.provider => exact Provider.isPartialEquivalence_same.symm hd he h
    all_goals cases h
  . intro c d e hc hd he h h'
    cases c <;> cases d <;> cases e
    case primitive.primitive.primitive => exact Primitive.isPartialEquivalence_same.trans hc hd he h h'
    case provider.provider.provider => exact Provider.isPartialEquivalence_same.trans hc hd he h h'
    all_goals first | cases h | cases h'

theorem equivalence_same : Equivalence fun d e : { e : Entry // e.HasData } => same d.1 e.1 = true where
  refl e := e.2.isOrderly.same_self
  symm {d e} h := isPartialEquivalence_same.symm d.2.isWellFormed e.2.isWellFormed h
  trans {c d e} h h' :=
    isPartialEquivalence_same.trans c.2.isWellFormed d.2.isWellFormed e.2.isWellFormed h h'

theorem kind_eq_of_same (h : d.same e = true) : d.made.kind = e.made.kind := by
  cases d with
  | primitive p =>
    cases e with
    | primitive q => cases Primitive.like_of_same h <;> rfl
    | provider => cases h
  | provider p =>
    cases e with
    | primitive => cases h
    | provider q => cases Provider.like_of_same h <;> rfl

theorem agree_resolve (hstateless : behaviour.IsStateless) (h : d.same e = true) :
    Act.Agree (fun _ _ => True) (List.Forall₂ Value.Corresponds) (d.resolve behaviour event)
      (e.resolve behaviour event) := by
  have hany := Session.isUpToReports_any (σ := σ)
  cases d with
  | primitive p =>
    cases e with
    | primitive q =>
      exact hstateless.keeps.agree_primitive hany Value.corresponds_self (Primitive.like_of_same h)
    | provider => cases h
  | provider p =>
    cases e with
    | primitive => cases h
    | provider q =>
      exact hstateless.keeps.agree_provider hany Value.corresponds_self (Provider.like_of_same h)

theorem resolve_run (hcalm : ∀ r args s, Calm (behaviour r args s).1) (e : Entry) (event : ContextEvent)
    (s : Session σ) : ∃ vs s', e.resolve behaviour event s = (.ok vs, s') := by
  have hinvoke : ∀ (f : Callable) s, Calm (f.invoke behaviour [.event event] s).1 :=
    fun f s => Callable.calm_invoke hcalm f _ s
  cases e with
  | primitive p =>
    obtain ⟨vs, s', hrun, _⟩ := Primitive.resolve_run (fun f _ => hinvoke f) s (p := p)
    exact ⟨vs, s', hrun⟩
  | provider p =>
    obtain ⟨vs, s', hrun, _⟩ :=
      Provider.resolve_run (fun f _ _ => hinvoke f) (fun q _ f _ => hinvoke f) s (p := p)
    exact ⟨vs, s', hrun⟩

end Entry

/--
The equality of registrations is an equivalence among those whose entities are data without NaN, and it never
relates registrations of different kinds. To every event equal registrations contribute entities that are equal
one by one, as long as the outcome of a call depends on its arguments only; an entity that is given by a callable
and holds a NaN need not equal anything, but is the same on both sides. If one of the registrations ends in a fault, which
takes a request to stop, so does the other.
-/
theorem same_respected (σ : Type) :
    (Equivalence fun d e : { e : Entry // e.HasData } => d.1.same e.1 = true)
      ∧ (∀ d e : Entry, d.same e = true → d.made.kind = e.made.kind)
      ∧ ∀ d e : Entry, d.same e = true → ∀ behaviour : Behaviour σ, behaviour.IsStateless →
        ∀ (event : ContextEvent) (s s' : Session σ),
          Outcomes (List.Forall₂ Value.Corresponds) (d.resolve behaviour event s).1
            (e.resolve behaviour event s').1
          ∧ ((∀ r args s, Calm (behaviour r args s).1) →
            ∃ vs, (d.resolve behaviour event s).1 = .ok vs) := by
  refine ⟨Entry.equivalence_same, fun _ _ => Entry.kind_eq_of_same, ?_⟩
  intro d e hsame behaviour hstateless event s s'
  refine ⟨(Entry.agree_resolve hstateless hsame).outcomes trivial, ?_⟩
  intro hcalm
  obtain ⟨vs, s₁, hrun⟩ := d.resolve_run hcalm event s
  exact ⟨vs, by rw [hrun]⟩

def written : Value :=
  .ofPairs [("sc", .str "written"),
    ("dt", .ofPairs [("n", .int 1), ("t", .tuple [.bool true, .float (.ofInt 0)])])]

def rewritten : Value :=
  .ofPairs [("dt", .ofPairs [("t", .tuple [.float (.ofInt 1), .bool false]), ("n", .bool true)]),
    ("sc", .str "written")]

def forVendor (entity : Value) : Entry :=
  .provider (.ruled (.ofRules Manifest.everySchema .empty) [.fixed entity, .generator moodyCallable])

def vendorEvent : ContextEvent := ⟨[], "ue", "iglu:com.acme/event/jsonschema/1-0-0"⟩

theorem hasData_forVendor {entity : Value} (h : entity.IsDatum) : (forVendor entity).HasData := by
  intro v hv
  cases List.mem_singleton.1 hv
  exact h

theorem isDatum_written : written.IsDatum := by
  have hzero : (Value.float (.ofInt 0)).IsDatum := .float (by decide +kernel)
  have htuple : (Value.tuple [.bool true, .float (.ofInt 0)]).IsDatum :=
    .tuple (by simp [hzero, Value.IsDatum.bool])
  have hdata : (Value.ofPairs [("n", .int 1), ("t", .tuple [.bool true, .float (.ofInt 0)])]).IsDatum :=
    Value.isDatum_ofPairs (by decide) (by simp [htuple, Value.IsDatum.int])
  exact Value.isDatum_ofPairs (by decide) (by simp [hdata, Value.IsDatum.str])

theorem isDatum_rewritten : rewritten.IsDatum := by
  have hone : (Value.float (.ofInt 1)).IsDatum := .float (by decide +kernel)
  have htuple : (Value.tuple [.float (.ofInt 1), .bool false]).IsDatum :=
    .tuple (by simp [hone, Value.IsDatum.bool])
  have hdata : (Value.ofPairs [("t", .tuple [.float (.ofInt 1), .bool false]), ("n", .bool true)]).IsDatum :=
    Value.isDatum_ofPairs (by decide) (by simp [htuple, Value.IsDatum.bool])
  exact Value.isDatum_ofPairs (by decide) (by simp [hdata, Value.IsDatum.str])

theorem same_respected_forVendor :
    (forVendor written).HasData
      ∧ (forVendor rewritten).HasData
      ∧ (forVendor written).same (forVendor rewritten) = true
      ∧ (forVendor rewritten).same (forVendor written) = true
      ∧ (forVendor written).made.kind = (forVendor rewritten).made.kind
      ∧ listing.IsStateless
      ∧ ∃ vs ws,
        ((forVendor written).resolve listing vendorEvent (.initial () (.whole 0) "" toString)).1 = .ok vs
        ∧ ((forVendor rewritten).resolve listing vendorEvent (.initial () (.whole 0) "" toString)).1 = .ok ws
        ∧ List.Forall₂ Value.Corresponds vs ws
        ∧ schemas vs = [some "written", some "listed"] := by
  have hstateless : listing.IsStateless := fun _ _ _ _ => rfl
  have hcalm : ∀ r args (s : Session Unit), Calm (listing r args s).1 := by
    rintro r args s f ⟨⟩
  have hsame : (forVendor written).same (forVendor rewritten) = true := by decide +kernel
  have hschemas : (((forVendor written).resolve listing vendorEvent
      (.initial () (.whole 0) "" toString)).1.map schemas).toOption = some [some "written", some "listed"] := by
    decide +kernel
  obtain ⟨hequivalence, hkind, hresolve⟩ := same_respected Unit
  have hwritten := hasData_forVendor isDatum_written
  have hrewritten := hasData_forVendor isDatum_rewritten
  have hsymm := hequivalence.symm (x := ⟨_, hwritten⟩) (y := ⟨_, hrewritten⟩) hsame
  obtain ⟨houtcomes, hreturns⟩ := hresolve _ _ hsame listing hstateless vendorEvent
    (.initial () (.whole 0) "" toString) (.initial () (.whole 0) "" toString)
  obtain ⟨vs, hvs⟩ := hreturns hcalm
  rw [hvs] at houtcomes hschemas
  obtain ⟨ws, hws, hcorrespond⟩ := houtcomes.exists_of_ok
  exact ⟨hwritten, hrewritten, hsame, hsymm, hkind _ _ hsame, hstateless, vs, ws, hvs, hws, hcorrespond,
    Option.some.inj hschemas⟩

end Registry

end EventTracking
