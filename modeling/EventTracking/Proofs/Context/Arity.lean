import EventTracking.Proofs.Context.SelfDescribing
import EventTracking.Proofs.Context.Spelling

/-!
This module contains the arity of callables: the theorem that one is a callback exactly if it can be called for
an event, so that no callable that has been registered as a callback fails for its arity.
-/

namespace EventTracking

/-! ### Signatures -/

namespace Signature

variable {s : Signature} {given offered : Nat}

/-- No positional parameter without a default stands behind one with a default. -/
def DefaultsLast (s : Signature) : Prop :=
  s.positional.Pairwise fun p q => p.hasDefault = true → q.hasDefault = true

theorem missing_eq_nil_iff {ps : List Parameter}
    (h : ps.Pairwise fun p q => p.hasDefault = true → q.hasDefault = true) :
    (ps.drop given).filter (!·.hasDefault) = [] ↔ (ps.filter (!·.hasDefault)).length ≤ given := by
  induction ps generalizing given with
  | nil => simp
  | cons p ps ih =>
    obtain ⟨hlater, hps⟩ := List.pairwise_cons.1 h
    cases given with
    | zero => rw [List.drop_zero, Nat.le_zero, List.length_eq_zero_iff]
    | succ given =>
      rw [List.drop_succ_cons, ih hps]
      cases hp : p.hasDefault with
      | true =>
        -- Nothing behind a parameter with a default is without one.
        have hnone : ps.filter (!·.hasDefault) = [] := by
          rw [List.filter_eq_nil_iff]
          intro q hq
          simp [hlater q hq hp]
        simp [hp, hnone]
      | false => simp [hp]

theorem bind_eq_ok_iff (h : s.DefaultsLast) :
    s.bind given = .ok ()
      ↔
    (s.isVariadic = false → given ≤ s.positional.length) ∧ s.required.length ≤ given
      ∧ s.requiredKeywords = [] := by
  have hmissing : ((s.positional.drop given).filter (!·.hasDefault)).map (·.name) = []
      ↔ s.required.length ≤ given := by
    rw [List.map_eq_nil_iff]
    exact missing_eq_nil_iff h
  have hkeywords : s.requiredKeywords.map (·.name) = [] ↔ s.requiredKeywords = [] := List.map_eq_nil_iff
  rw [bind, ← hmissing, ← hkeywords]
  generalize ((s.positional.drop given).filter (!·.hasDefault)).map (·.name) = missing
  generalize s.requiredKeywords.map (·.name) = keywords
  split
  . next hmany =>
    rw [Bool.and_eq_true, decide_eq_true_iff, Bool.not_eq_true'] at hmany
    simp [hmany.2, Nat.not_le.2 hmany.1]
  . next hmany =>
    have hfew : s.isVariadic = false → given ≤ s.positional.length := by
      intro hvariadic
      simpa [hvariadic] using hmany
    cases missing with
    | cons => simp
    | nil =>
      cases keywords with
      | cons => simp
      | nil => exact ⟨fun _ => ⟨hfew, rfl, rfl⟩, fun _ => rfl⟩

theorem accepted_le (s : Signature) (offered : Nat) : s.accepted offered ≤ offered := by
  unfold accepted
  split
  . exact Nat.le_refl offered
  . exact Nat.min_le_right _ _

theorem accepted_le_positional (hvariadic : s.isVariadic = false) (offered : Nat) :
    s.accepted offered ≤ s.positional.length := by
  rw [accepted, if_neg (by simp [hvariadic])]
  exact Nat.min_le_left _ _

theorem required_le_accepted_iff : s.required.length ≤ s.accepted offered ↔ s.required.length ≤ offered := by
  have hrequired : s.required.length ≤ s.positional.length := List.length_filter_le _ _
  unfold accepted
  split
  . rfl
  . omega

theorem bind_accepted_iff (h : s.DefaultsLast) :
    s.bind (s.accepted offered) = .ok () ↔ s.required.length ≤ offered ∧ s.requiredKeywords = [] := by
  rw [bind_eq_ok_iff h, required_le_accepted_iff]
  exact and_iff_right fun hvariadic => accepted_le_positional hvariadic offered

end Signature

/-! ### Calls -/

variable {σ : Type} {behaviour : Behaviour σ}

namespace Routine

variable {r : Routine} {offered : Nat}

/--
Whether a routine shows the signature that its calls have to fit. As in any signature, the positional parameters
with a default come last.
-/
structure IsInspectable (r : Routine) : Prop where
  shown : r.shown = some r.signature
  defaultsLast : r.signature.DefaultsLast

theorem fits_eq_ok_iff {given : Nat} : r.fits given = .ok () ↔ r.signature.bind given = .ok () := by
  unfold fits
  cases r.signature.bind given <;> simp

def passed (r : Routine) (offered : Nat) : Nat := (Callable.routine r).accepted offered

theorem IsInspectable.passed_eq (h : r.IsInspectable) (offered : Nat) :
    r.passed offered = r.signature.accepted offered := by
  rw [passed, Callable.accepted, h.shown]
  rfl

theorem IsInspectable.fits_iff (h : r.IsInspectable) :
    r.fits (r.passed offered) = .ok ()
      ↔
    r.signature.required.length ≤ offered ∧ r.signature.requiredKeywords = [] := by
  rw [fits_eq_ok_iff, h.passed_eq, Signature.bind_accepted_iff h.defaultsLast]

theorem IsInspectable.isCallback_iff (h : r.IsInspectable) :
    (Callable.routine r).isCallback = true ↔ r.fits (r.passed 1) = .ok () := by
  rw [h.fits_iff, Callable.isCallback, h.shown, Option.all_some, Signature.fitsOneArgument,
    Bool.and_eq_true, decide_eq_true_iff, List.isEmpty_iff]

theorem IsInspectable.passed_le (h : r.IsInspectable) (offered : Nat) : r.passed offered ≤ offered := by
  rw [h.passed_eq]
  exact Signature.accepted_le _ _

theorem IsInspectable.passed_le_positional (h : r.IsInspectable) (hvariadic : r.signature.isVariadic = false)
    (offered : Nat) : r.passed offered ≤ r.signature.positional.length := by
  rw [h.passed_eq]
  exact Signature.accepted_le_positional hvariadic offered

theorem IsInspectable.invoke_eq (h : r.IsInspectable) (args : List Argument) :
    (Callable.routine r).invoke behaviour args
      =
    (do
      Act.ofExcept (r.fits (r.passed args.length))
      behaviour r (args.take (r.passed args.length))) := by
  have hlength : (args.take (r.passed args.length)).length = r.passed args.length := by
    rw [List.length_take, Nat.min_eq_left (h.passed_le args.length)]
  have hcall : (Callable.routine r).invoke behaviour args
      = (Callable.routine r).call behaviour (args.take (r.passed args.length)) := rfl
  rw [hcall, Callable.call, hlength]

theorem IsInspectable.invoke_of_fits (h : r.IsInspectable) {args : List Argument}
    (hfits : r.fits (r.passed args.length) = .ok ()) :
    (Callable.routine r).invoke behaviour args = behaviour r (args.take (r.passed args.length)) := by
  rw [h.invoke_eq, hfits]
  rfl

theorem IsInspectable.invoke_of_not_fits (h : r.IsInspectable) {args : List Argument}
    (hfits : r.fits (r.passed args.length) ≠ .ok ()) :
    ∃ e, (Callable.routine r).invoke behaviour args = throw (.arity r.name e) := by
  rw [h.invoke_eq]
  unfold fits at hfits ⊢
  cases hbind : r.signature.bind (r.passed args.length) with
  | ok =>
    rw [hbind] at hfits
    exact absurd rfl hfits
  | error e => exact ⟨e, rfl⟩

end Routine

/-! ### Callables that are registered -/

/--
The ways in which a callable comes in without being looked at: in a generator or a provider that has been made
before, the generator alone or in a pair.
-/
inductive MadeWith (f : Callable) : Value → Prop where
  | generator (object : Nat) : MadeWith f (.primitive (.generator f) object)
  | provider {p : Provider} (mem : f ∈ p.callables) (object : Nat) : MadeWith f (.provider p object)
  | pair {v criterion primitives : Value} {object : Nat} (items : v.items? = some [criterion, primitives])
      (made : .primitive (.generator f) object ∈ (primitives.items?).getD [primitives]) : MadeWith f v

variable {f : Callable} {v : Value}

theorem Primitive.Writes.isCallback (h : Writes (.generator f) v) :
    f.isCallback = true ∨ ∃ n, v = .primitive (.generator f) n := by
  cases h with
  | made _ n => exact Or.inr ⟨n, rfl⟩
  | callable valid => exact Or.inl valid

theorem Primitive.WritesAll.isCallback {ps : List Primitive} (h : WritesAll ps v)
    (hf : f ∈ ps.filterMap generator?) :
    f.isCallback = true ∨ ∃ n, .primitive (.generator f) n ∈ (v.items?).getD [v] := by
  obtain ⟨p, hp, hf⟩ := List.mem_filterMap.1 hf
  obtain ⟨x, hx, hofValue⟩ := exists_of_allOfValue? (allOfValue?_eq_some_iff_writesAll.2 h) hp
  cases p with
  | fixed => cases hf
  | generator g =>
    cases hf
    rcases (writes_of_ofValue? hofValue).isCallback with hcallback | ⟨n, rfl⟩
    . exact Or.inl hcallback
    . exact Or.inr ⟨n, hx⟩

theorem Provider.Writes.isCallback {p : Provider} (h : p.Writes v) (hf : f ∈ p.callables) :
    f.isCallback = true ∨ MadeWith f v := by
  cases h with
  | made _ n => exact Or.inr (.provider hf n)
  | filter items valid each =>
    rcases List.mem_cons.1 hf with rfl | hf
    . exact Or.inl valid
    . exact (each.isCallback hf).imp_right fun ⟨_, hmade⟩ => .pair items hmade
  | ruled items criterion each => exact (each.isCallback hf).imp_right fun ⟨_, hmade⟩ => .pair items hmade

namespace Registry

theorem Entry.Writes.isCallback {e : Entry} (h : e.Writes v) (hf : f ∈ e.callables) :
    f.isCallback = true ∨ MadeWith f v := by
  cases e with
  | provider p => exact Provider.Writes.isCallback h hf
  | primitive p =>
    cases p with
    | fixed => cases hf
    | generator g =>
      cases List.mem_singleton.1 hf
      rcases Primitive.Writes.isCallback h with hcallback | ⟨n, rfl⟩
      . exact Or.inl hcallback
      . exact Or.inr (.generator n)

def callables (r : Registry) : List Callable := r.entries.flatMap Entry.callables

theorem performAll_callables (changes : List Change) (s : Session σ) :
    ∃ registry s', performAll changes .empty s = (.ok registry, s')
      ∧ ∀ f ∈ registry.callables, f.isCallback = true
        ∨ ∃ c ∈ changes, ∃ input ∈ c.added, MadeWith f input := by
  have hadded : ∀ c ∈ changes, ∀ input ∈ c.added, Describes (fun e => ∀ f ∈ e.callables,
      f.isCallback = true ∨ ∃ c ∈ changes, ∃ input ∈ c.added, MadeWith f input) input := by
    intro c hc input hinput e he f hf
    exact ((Entry.ofValue?_eq_some_iff.1 he).isCallback hf).imp_right fun h => ⟨c, hc, input, hinput, h⟩
  obtain ⟨registry, s', hrun, hr⟩ := performAll_every hadded .empty s
  refine ⟨registry, s', hrun, ?_⟩
  intro f hf
  obtain ⟨e, he, hf⟩ := List.mem_flatMap.1 hf
  exact hr.forall_mem_entries e he f hf

/--
As many arguments are passed on to a callable as it has places for, and its call fits exactly if they are enough
for its positional parameters and no keyword is required. It then does what it does, and else fails for its arity.
So it is a callback exactly if it can be called for an event, and a callable in a registry with any history, unless
it has come in with a generator or a provider that had been made before, never fails for its arity.
-/
theorem arity_checked (behaviour : Behaviour σ) (changes : List Change) (s : Session σ) :
    (∀ r : Routine, r.IsInspectable → ∀ args : List Argument,
      r.passed args.length ≤ args.length
        ∧ (r.signature.isVariadic = false → r.passed args.length ≤ r.signature.positional.length)
        ∧ (r.fits (r.passed args.length) = .ok ()
            ↔
          r.signature.required.length ≤ args.length ∧ r.signature.requiredKeywords = [])
        ∧ (r.fits (r.passed args.length) = .ok () →
          (Callable.routine r).invoke behaviour args = behaviour r (args.take (r.passed args.length)))
        ∧ (r.fits (r.passed args.length) ≠ .ok () →
          ∃ e, (Callable.routine r).invoke behaviour args = throw (.arity r.name e)))
      ∧ (∀ r : Routine, r.IsInspectable →
          ((Callable.routine r).isCallback = true ↔ r.fits (r.passed 1) = .ok ()))
      ∧ ∃ registry s', performAll changes .empty s = (.ok registry, s')
        ∧ ∀ r : Routine, r.IsInspectable → .routine r ∈ registry.callables →
          (∀ c ∈ changes, ∀ input ∈ c.added, ¬ MadeWith (.routine r) input) →
            ∀ e : ContextEvent, (Callable.routine r).invoke behaviour [.event e]
              = behaviour r ([Argument.event e].take (r.passed 1)) := by
  refine ⟨?_, fun _ h => h.isCallback_iff, ?_⟩
  . intro r h args
    exact ⟨h.passed_le _, fun hvariadic => h.passed_le_positional hvariadic _, h.fits_iff,
      h.invoke_of_fits, h.invoke_of_not_fits⟩
  . obtain ⟨registry, s', hrun, hregistry⟩ := performAll_callables changes s
    refine ⟨registry, s', hrun, ?_⟩
    intro r h hr hmade e
    have hcallback : (Callable.routine r).isCallback = true := by
      rcases hregistry _ hr with hcallback | ⟨c, hc, input, hinput, hinputMade⟩
      . exact hcallback
      . exact absurd hinputMade (hmade c hc input hinput)
    have hfits : r.fits (r.passed [Argument.event e].length) = .ok () := h.isCallback_iff.1 hcallback
    exact h.invoke_of_fits hfits

def lenient : Routine :=
  let signature : Signature :=
    [⟨"event", .positionalOnly, false⟩, ⟨"limit", .positionalOrKeyword, true⟩,
      ⟨"strict", .keywordOnly, true⟩, ⟨"options", .keywords, false⟩]
  ⟨"lenient", signature, some signature, true⟩

theorem lenient_isInspectable : lenient.IsInspectable where
  shown := rfl
  defaultsLast := by simp [Signature.DefaultsLast, lenient, Signature.positional, Parameter.isPositional]

theorem arity_checked_lenient :
    lenient.IsInspectable
      ∧ (Callable.routine lenient).isCallback = true
      ∧ (∀ (behaviour : Behaviour Unit) (a b c : Argument),
        (Callable.routine lenient).invoke behaviour [a, b, c] = behaviour lenient [a, b])
      ∧ ∃ registry s', performAll [.add (.list [.callable (.routine lenient)])] .empty
          (.initial () (.whole 0) "" toString) = (.ok registry, s')
        ∧ .routine lenient ∈ registry.callables
        ∧ ∀ (behaviour : Behaviour Unit) (e : ContextEvent),
          (Callable.routine lenient).invoke behaviour [.event e] = behaviour lenient [.event e] := by
  have hchecked := fun behaviour : Behaviour Unit =>
    arity_checked behaviour [.add (.list [.callable (.routine lenient)])] (.initial () (.whole 0) "" toString)
  obtain ⟨-, hcallback, -⟩ := hchecked fun _ _ => pure .null
  have hmem : .routine lenient ∈ callables ⟨[.generator (.routine lenient)], []⟩ := by
    simp [callables, entries, Entry.callables, Primitive.generator?]
  refine ⟨lenient_isInspectable, (hcallback _ lenient_isInspectable).2 rfl, ?_, _, _, rfl, hmem, ?_⟩
  . intro behaviour a b c
    obtain ⟨_, _, _, hinvoke, _⟩ := (hchecked behaviour).1 lenient lenient_isInspectable [a, b, c]
    exact hinvoke rfl
  . intro behaviour e
    obtain ⟨registry, s', hrun, hregistry⟩ := (hchecked behaviour).2.2
    cases hrun
    refine hregistry lenient lenient_isInspectable hmem ?_ e
    rintro c hc input hinput hmade
    cases List.mem_singleton.1 hc
    cases List.mem_singleton.1 hinput
    rcases hmade with _ | _ | ⟨hitems, _⟩
    cases hitems

/-- Shows fewer parameters than its calls have to be given. -/
def secretive : Routine :=
  ⟨"secretive", [⟨"event", .positionalOrKeyword, false⟩, ⟨"session", .positionalOrKeyword, false⟩],
    some [⟨"event", .positionalOrKeyword, false⟩], true⟩

/--
A generator that was made of something else than a callback fails for its arity, and so does a callback whose
calls have to fit another signature than it shows.
-/
theorem arity_unchecked :
    (∃ registry s', performAll [.add (.list [.primitive (.generator pairwise) 0])] .empty
        (.initial () (.whole 0) "" toString) = (.ok registry, s')
      ∧ pairwise ∈ registry.callables
      ∧ (∃ r : Routine, pairwise = .routine r ∧ r.IsInspectable)
      ∧ ∀ (behaviour : Behaviour Unit) (e : ContextEvent) (s : Session Unit),
        pairwise.invoke behaviour [.event e] s = (.error (.arity "pairwise" (.missingPositional ["b"])), s))
    ∧ ∃ registry s', performAll [.add (.list [.callable (.routine secretive)])] .empty
        (.initial () (.whole 0) "" toString) = (.ok registry, s')
      ∧ .routine secretive ∈ registry.callables
      ∧ secretive.shown.isSome = true ∧ (Callable.routine secretive).isCallback = true
      ∧ ∀ (behaviour : Behaviour Unit) (e : ContextEvent) (s : Session Unit),
        (Callable.routine secretive).invoke behaviour [.event e] s
          = (.error (.arity "secretive" (.missingPositional ["session"])), s) := by
  constructor
  . refine ⟨⟨[.generator pairwise], []⟩, _, rfl, ?_, ⟨_, rfl, rfl, ?_⟩, fun _ _ _ => rfl⟩
    . simp [callables, entries, Entry.callables, Primitive.generator?]
    . simp [Signature.DefaultsLast, Signature.positional, Parameter.isPositional]
  . refine ⟨⟨[.generator (.routine secretive)], []⟩, _, rfl, ?_, rfl, rfl, fun _ _ _ => rfl⟩
    simp [callables, entries, Entry.callables, Primitive.generator?]

end Registry

end EventTracking
