import EventTracking.Context.Registry
import EventTracking.Proofs.Session
import EventTracking.Proofs.Value.Equality

/-!
This module contains the laws of the equality of registrations, and what adding to a registry and removing
from it come to as computations.
-/

namespace EventTracking

/-! ### Primitives -/

namespace Primitive

variable {p : Primitive}

def entities : Primitive → List Value
  | .fixed entity => [entity]
  | .generator _ => []

theorem sameAll_iff {ps qs : List Primitive} :
    sameAll ps qs ↔ List.Forall₂ (fun p q => same p q) ps qs := by
  induction ps generalizing qs with
  | nil => cases qs <;> simp [sameAll]
  | cons p ps ih => cases qs <;> simp [sameAll, ih]

theorem isPartialEquivalence_same :
    IsPartialEquivalence (fun p => ∀ v ∈ p.entities, v.IsWellFormed) fun p q => same p q := by
  constructor
  . intro p q hp hq h
    cases p <;> cases q
    case fixed.fixed v w =>
      exact Value.isPartialEquivalence_same.symm (hp v List.mem_cons_self) (hq w List.mem_cons_self) h
    case generator.generator =>
      rw [same, beq_iff_eq] at h ⊢
      exact h.symm
    all_goals cases h
  . intro p q r hp hq hr h h'
    cases p <;> cases q <;> cases r
    case fixed.fixed.fixed v w u =>
      exact Value.isPartialEquivalence_same.trans (hp v List.mem_cons_self) (hq w List.mem_cons_self)
        (hr u List.mem_cons_self) h h'
    case generator.generator.generator =>
      rw [same, beq_iff_eq] at h h' ⊢
      exact h.trans h'
    all_goals first | cases h' | cases h

theorem same_self (h : ∀ v ∈ p.entities, v.IsWellFormed ∧ v.isNan = false) : same p p := by
  cases p with
  | fixed v =>
    obtain ⟨hv, hnan⟩ := h v List.mem_cons_self
    exact Value.same_self hv hnan
  | generator f => exact beq_self_eq_true f

theorem exists_same_entity {p q : Primitive} (h : same p q) : ∀ v ∈ p.entities, ∃ w ∈ q.entities, Value.same v w := by
  intro v hv
  cases p with
  | fixed w =>
    cases List.mem_singleton.1 hv
    cases q with
    | fixed u => exact ⟨u, List.mem_singleton_self u, h⟩
    | generator => cases h
  | generator => cases hv

theorem allOfValue?_eq_some_iff {v : Value} {ps : List Primitive} :
    allOfValue? v = some ps
      ↔
    List.Forall₂ (fun x p => ofValue? x = some p) ((v.items?).getD [v]) ps := by
  unfold allOfValue?
  generalize (v.items?).getD [v] = xs
  induction xs generalizing ps with
  | nil => cases ps <;> simp
  | cons x xs ih =>
    simp only [List.mapM_cons, Option.bind_eq_bind, Option.bind_eq_some_iff, Option.pure_def, ih]
    cases ps with
    | nil => simp
    | cons p ps => simp [List.forall₂_cons]

end Primitive

/-! ### Conditional providers -/

namespace Provider

variable {p : Provider}

def entities (p : Provider) : List Value := p.primitives.flatMap Primitive.entities

theorem forall_mem_entities {P : Value → Prop} :
    (∀ v ∈ p.entities, P v) ↔ ∀ q ∈ p.primitives, ∀ v ∈ q.entities, P v := by
  simp only [entities, List.mem_flatMap]
  exact ⟨fun h q hq v hv => h v ⟨q, hq, hv⟩, fun h v ⟨q, hq, hv⟩ => h q hq v hv⟩

theorem isPartialEquivalence_sameAll :
    IsPartialEquivalence (fun ps => ∀ p ∈ ps, ∀ v ∈ p.entities, v.IsWellFormed)
      fun ps qs => Primitive.sameAll ps qs := by
  have h := Primitive.isPartialEquivalence_same.forall₂
  simp only [Primitive.sameAll_iff]
  exact h

theorem isPartialEquivalence_same :
    IsPartialEquivalence (fun p => ∀ v ∈ p.entities, v.IsWellFormed) fun p q => same p q := by
  constructor
  . intro p q hp hq h
    rw [forall_mem_entities] at hp hq
    cases p <;> cases q
    any_goals cases h
    all_goals
      simp only [same, Bool.and_eq_true, beq_iff_eq] at h ⊢
      exact ⟨h.1.symm, isPartialEquivalence_sameAll.symm hp hq h.2⟩
  . intro p q r hp hq hr h h'
    rw [forall_mem_entities] at hp hq hr
    cases p <;> cases q
    any_goals cases h
    all_goals
      cases r
      any_goals cases h'
      simp only [same, Bool.and_eq_true, beq_iff_eq] at h h' ⊢
      exact ⟨h.1.trans h'.1, isPartialEquivalence_sameAll.trans hp hq hr h.2 h'.2⟩

theorem same_self (h : ∀ v ∈ p.entities, v.IsWellFormed ∧ v.isNan = false) : same p p := by
  rw [forall_mem_entities] at h
  have hall : Primitive.sameAll p.primitives p.primitives := by
    rw [Primitive.sameAll_iff, List.forall₂_same]
    exact fun q hq => Primitive.same_self (h q hq)
  cases p with
  | filter | ruled =>
    rw [same, Bool.and_eq_true, beq_iff_eq]
    exact ⟨rfl, hall⟩

theorem sameAll_primitives {p q : Provider} (h : same p q) : Primitive.sameAll p.primitives q.primitives := by
  cases p <;> cases q
  any_goals cases h
  all_goals
    rw [same, Bool.and_eq_true] at h
    exact h.2

theorem exists_same_entity {p q : Provider} (h : same p q) : ∀ v ∈ p.entities, ∃ w ∈ q.entities, Value.same v w := by
  intro v hv
  obtain ⟨o, ho, hv⟩ := List.mem_flatMap.1 hv
  obtain ⟨o', ho', hsame⟩ := (matched_of_forall₂ (Primitive.sameAll_iff.1 (sameAll_primitives h))).2 o ho
  obtain ⟨w, hw, hvw⟩ := Primitive.exists_same_entity hsame v hv
  exact ⟨w, List.mem_flatMap_of_mem ho' hw, hvw⟩

end Provider

/-! ### Registries -/

namespace Registry

variable {σ : Type} {r : Registry}

def Entry.entities : Entry → List Value
  | .provider p => p.entities
  | .primitive p => p.entities

structure IsWellFormed (r : Registry) : Prop where
  primitives : ∀ p ∈ r.primitives, ∀ v ∈ p.entities, v.IsWellFormed
  providers : ∀ p ∈ r.providers, ∀ v ∈ p.entities, v.IsWellFormed

/-- Whether the entities of the registration that a value describes, if it is one, are well-formed. -/
def DescribesWellFormed (v : Value) : Prop :=
  ∀ e, Entry.ofValue? v = some e → ∀ w ∈ e.entities, w.IsWellFormed

structure Every (P : Entry → Prop) (r : Registry) : Prop where
  primitives : ∀ p ∈ r.primitives, P (.primitive p)
  providers : ∀ p ∈ r.providers, P (.provider p)

def Describes (P : Entry → Prop) (v : Value) : Prop := ∀ e, Entry.ofValue? v = some e → P e

theorem isWellFormed_iff_every :
    r.IsWellFormed ↔ r.Every fun e => ∀ v ∈ e.entities, v.IsWellFormed :=
  ⟨fun h => ⟨h.primitives, h.providers⟩, fun h => ⟨h.primitives, h.providers⟩⟩

theorem isWellFormed_empty : empty.IsWellFormed := ⟨by simp [empty], by simp [empty]⟩

theorem removeFirst_sublist {α : Type} (p : α → Bool) (xs : List α) :
    (removeFirst p xs).Sublist xs := by
  induction xs with
  | nil => exact .slnil
  | cons x xs ih =>
    rw [removeFirst]
    split
    . exact List.sublist_cons_self x xs
    . exact ih.cons_cons x

namespace Every

variable {P : Entry → Prop} {v : Value} {vs : List Value}

theorem empty : Registry.empty.Every P := ⟨by simp [Registry.empty], by simp [Registry.empty]⟩

theorem insert (h : r.Every P) (hv : Describes P v) : (r.insert v).Every P := by
  unfold Registry.insert
  cases he : Entry.ofValue? v with
  | none => exact h
  | some e =>
    have hentry := hv e he
    cases e with
    | provider p =>
      exact ⟨h.primitives, List.forall_mem_append.2 ⟨h.providers, List.forall_mem_singleton.2 hentry⟩⟩
    | primitive p =>
      exact ⟨List.forall_mem_append.2 ⟨h.primitives, List.forall_mem_singleton.2 hentry⟩, h.providers⟩

theorem insertAll (h : r.Every P) (hvs : ∀ v ∈ vs, Describes P v) : (r.insertAll vs).Every P := by
  unfold Registry.insertAll
  induction vs generalizing r with
  | nil => exact h
  | cons v vs ih =>
    obtain ⟨hv, hvs⟩ := List.forall_mem_cons.1 hvs
    exact ih (h.insert hv) hvs

theorem erase (h : r.Every P) (v : Value) : (r.erase v).Every P := by
  unfold Registry.erase
  cases Entry.ofValue? v with
  | none => exact h
  | some e =>
    cases e with
    | provider p =>
      exact ⟨h.primitives, fun q hq => h.providers q ((removeFirst_sublist _ _).subset hq)⟩
    | primitive p =>
      exact ⟨fun q hq => h.primitives q ((removeFirst_sublist _ _).subset hq), h.providers⟩

theorem eraseAll (h : r.Every P) (vs : List Value) : (r.eraseAll vs).Every P := by
  unfold Registry.eraseAll
  induction vs generalizing r with
  | nil => exact h
  | cons v vs ih => exact ih (h.erase v)

end Every

theorem reports_note (text? : Option String) : Act.Reports (note (σ := σ) text?) := by
  cases text? with
  | none => exact fun s => ⟨s, rfl, .refl s⟩
  | some text => exact Act.reports_debug logger text

theorem notes_run (vs : List Value) (s : Session σ) :
    ∃ s', (forIn vs PUnit.unit fun v _ => do
        note (insertNote? v)
        return .yield PUnit.unit : Act (Session σ) PUnit) s = (.ok ⟨⟩, s') ∧ s.Reported s' := by
  induction vs generalizing s with
  | nil => exact ⟨s, rfl, .refl s⟩
  | cons v vs ih =>
    obtain ⟨s₁, hnote, hs₁⟩ := reports_note (insertNote? v) s
    obtain ⟨s₂, hrest, hs₂⟩ := ih s₁
    refine ⟨s₂, ?_, hs₁.trans hs₂⟩
    rw [List.forIn_cons, bind_assoc, Act.bind_run hnote, pure_bind]
    exact hrest

theorem add_run {contexts : Value} {vs : List Value} (h : contexts.elements? = some vs) (r : Registry)
    (s : Session σ) : ∃ s', add contexts r s = (.ok (r.insertAll vs), s') ∧ s.Reported s' := by
  obtain ⟨s', hnotes, hs'⟩ := notes_run vs s
  refine ⟨s', ?_, hs'⟩
  rw [add, h]
  dsimp only
  rw [Act.bind_run hnotes, Act.pure_run]

theorem removeEach_run (vs : List Value) (r : Registry) (s : Session σ) :
    ∃ s', remove.removeEach vs r s = (.ok (r.eraseAll vs), s') ∧ s.Reported s' := by
  induction vs generalizing r s with
  | nil => exact ⟨s, rfl, .refl s⟩
  | cons v vs ih =>
    obtain ⟨s₁, hnote, hs₁⟩ := reports_note (r.eraseNote? v) s
    obtain ⟨s₂, hrest, hs₂⟩ := ih (r.erase v) s₁
    refine ⟨s₂, ?_, hs₁.trans hs₂⟩
    rw [remove.removeEach, Act.bind_run hnote, hrest]
    rfl

theorem remove_run {contexts : Value} {vs : List Value} (h : contexts.elements? = some vs)
    (r : Registry) (s : Session σ) :
    ∃ s', remove contexts r s = (.ok (r.eraseAll vs), s') ∧ s.Reported s' := by
  rw [remove, h]
  exact removeEach_run vs r s

/-! ### Histories of a registry -/

inductive Change where
  | add (contexts : Value)
  | remove (contexts : Value)
  | clear

namespace Change

def perform : Change → Registry → Act (Session σ) Registry
  | .add contexts, r => r.add contexts
  | .remove contexts, r => r.remove contexts
  | .clear, _ => return .empty

def inputs : Change → List Value
  | .add contexts | .remove contexts => contexts.elements?.getD []
  | .clear => []

def added : Change → List Value
  | .add contexts => contexts.elements?.getD []
  | .remove _ | .clear => []

theorem added_subset_inputs (c : Change) : c.added ⊆ c.inputs := by
  cases c with
  | add => exact List.Subset.refl _
  | remove | clear => exact List.nil_subset _

theorem calm_notIterable (contexts : Value) {P : Registry → Prop} :
    Calm (.error (.notIterable contexts.kind) : Except Fault Registry)
      ∧ ∀ r', (.error (.notIterable contexts.kind) : Except Fault Registry) = .ok r' → P r' := by
  constructor
  . rintro f ⟨⟩
    rfl
  . rintro r' ⟨⟩

theorem calm_ok {P : Registry → Prop} (h : P r) :
    Calm (.ok r : Except Fault Registry) ∧ ∀ r', (.ok r : Except Fault Registry) = .ok r' → P r' := by
  constructor
  . rintro f ⟨⟩
  . rintro r' ⟨⟩
    exact h

theorem perform_run {P : Entry → Prop} {c : Change} (hc : ∀ v ∈ c.added, Describes P v)
    (h : r.Every P) (s : Session σ) :
    ∃ outcome s', c.perform r s = (outcome, s') ∧ Calm outcome
      ∧ ∀ r', outcome = .ok r' → r'.Every P := by
  cases c with
  | add contexts =>
    rw [perform]
    cases hvs : contexts.elements? with
    | none =>
      refine ⟨.error (.notIterable contexts.kind), s, ?_, calm_notIterable contexts⟩
      rw [Registry.add, hvs]
      rfl
    | some vs =>
      obtain ⟨s', hrun, _⟩ := add_run hvs r s
      rw [added, hvs] at hc
      exact ⟨_, s', hrun, calm_ok (h.insertAll hc)⟩
  | remove contexts =>
    rw [perform]
    cases hvs : contexts.elements? with
    | none =>
      refine ⟨.error (.notIterable contexts.kind), s, ?_, calm_notIterable contexts⟩
      rw [Registry.remove, hvs]
      rfl
    | some vs =>
      obtain ⟨s', hrun, _⟩ := remove_run hvs r s
      exact ⟨_, s', hrun, calm_ok (h.eraseAll vs)⟩
  | clear => exact ⟨.ok .empty, s, rfl, calm_ok .empty⟩

end Change

/-- Changes one after another. One that fails leaves the registry as it is. -/
def performAll : List Change → Registry → Act (Session σ) Registry
  | [], r => return r
  | c :: cs, r => do
    match ← (c.perform r).isolate with
    | .ok r' => performAll cs r'
    | .error _ => performAll cs r

/-- What holds of everything that is added holds of every registration, whatever else is done. -/
theorem performAll_every {P : Entry → Prop} {cs : List Change}
    (hcs : ∀ c ∈ cs, ∀ v ∈ c.added, Describes P v) (h : r.Every P) (s : Session σ) :
    ∃ r' s', performAll cs r s = (.ok r', s') ∧ r'.Every P := by
  induction cs generalizing r s with
  | nil => exact ⟨r, s, rfl, h⟩
  | cons c cs ih =>
    obtain ⟨hc, hcs⟩ := List.forall_mem_cons.1 hcs
    obtain ⟨outcome, s₁, hrun, hcalm, houtcome⟩ := c.perform_run hc h s
    rw [performAll, Act.bind_run (Act.isolate_run hrun hcalm)]
    cases outcome with
    | ok r' => exact ih hcs (houtcome r' rfl) s₁
    | error _ => exact ih hcs h s₁

theorem performAll_run {cs : List Change} (hcs : ∀ c ∈ cs, ∀ v ∈ c.inputs, DescribesWellFormed v)
    (h : r.IsWellFormed) (s : Session σ) :
    ∃ r' s', performAll cs r s = (.ok r', s') ∧ r'.IsWellFormed := by
  have hadded : ∀ c ∈ cs, ∀ v ∈ c.added, Describes (fun e => ∀ w ∈ e.entities, w.IsWellFormed) v :=
    fun c hc v hv => hcs c hc v (c.added_subset_inputs hv)
  obtain ⟨r', s', hrun, h'⟩ := performAll_every hadded (isWellFormed_iff_every.1 h) s
  exact ⟨r', s', hrun, isWellFormed_iff_every.2 h'⟩

end Registry

end EventTracking
