import EventTracking.Proofs.Context.Contributions

/-!
This module contains the theorem on the isolation of failures in resolution: whatever the callables of a
registry return or raise, each of them that is due is called once, and the entities are exactly those that
the outcomes yield.
-/

namespace EventTracking

variable {σ : Type} {behaviour : Behaviour σ} {args : List Argument}

/-! ### Faults of calls -/

theorem Container.calm_fill (xs : List (Nat × Value)) :
    ∀ entries, Calm (Container.fill entries xs) := by
  induction xs with
  | nil =>
    intro entries f hf
    cases hf
  | cons x xs ih =>
    intro entries
    unfold Container.fill
    split
    . rintro f ⟨⟩
      rfl
    . split
      . exact ih _
      . rintro f ⟨⟩
        rfl
    . rintro f ⟨⟩
      rfl

theorem Container.calm_construct (c : Container) (vs : List Value) : Calm (c.construct vs) := by
  unfold Container.construct
  split
  . intro f hf
    cases c <;> cases hf
  . split
    . rintro f ⟨⟩
    . rintro f ⟨⟩
      rfl
    . rintro f ⟨⟩
      rfl
    . intro f hf
      generalize hfill : Container.fill [] _ = filled at hf
      cases filled with
      | ok entries => cases hf
      | error fault =>
        cases hf
        exact Container.calm_fill _ _ _ hfill
    . rintro f ⟨⟩
  . rintro f ⟨⟩
    rfl

theorem Callable.call_cases (behaviour : Behaviour σ) (f : Callable) (args : List Argument) (s : Session σ) :
    (∃ r, f.call behaviour args s = behaviour r args s)
      ∨ ∃ outcome, f.call behaviour args s = (outcome, s) ∧ Calm outcome := by
  unfold Callable.call
  cases f with
  | routine r =>
    cases hfits : r.fits args.length with
    | ok _ =>
      refine .inl ⟨r, ?_⟩
      dsimp only
      rw [hfits, Act.ofExcept_ok, Act.bind_run Act.pure_run]
    | error fault =>
      have hraised : (Act.ofExcept (.error fault) : Act (Session σ) Unit) s = (.error fault, s) := rfl
      refine .inr ⟨.error fault, ?_, ?_⟩
      . dsimp only
        rw [hfits, Act.bind_run_error hraised]
      . rintro f ⟨⟩
        unfold Routine.fits at hfits
        split at hfits
        . cases hfits
        . cases hfits
          rfl
  | constructor c =>
    refine .inr ⟨c.construct (args.map Argument.toValue), ?_, Container.calm_construct c _⟩
    dsimp only
    cases c.construct (args.map Argument.toValue) <;> rfl

theorem Callable.calm_call (hcalm : ∀ r args s, Calm (behaviour r args s).1) (f : Callable)
    (args : List Argument) (s : Session σ) : Calm (f.call behaviour args s).1 := by
  obtain ⟨r, hcall⟩ | ⟨outcome, hcall, houtcome⟩ := f.call_cases behaviour args s
  . rw [hcall]
    exact hcalm r args s
  . rwa [hcall]

theorem Callable.calm_invoke (hcalm : ∀ r args s, Calm (behaviour r args s).1) (f : Callable)
    (args : List Argument) (s : Session σ) : Calm (f.invoke behaviour args s).1 :=
  Callable.calm_call hcalm f _ s

/-! ### Calls and what they yield -/

abbrev Calls := List (Callable × Except Fault Value)

/-- Calls with the same arguments, one after another, with nothing but reports between them. -/
inductive Calls.Made (behaviour : Behaviour σ) (args : List Argument) :
    Calls → Session σ → Session σ → Prop where
  | none {s s' : Session σ} (reports : s.Reported s') : Made behaviour args [] s s'
  | call {f : Callable} {outcome : Except Fault Value} {calls : Calls} {s s₁ s₂ s' : Session σ}
      (reports : s.Reported s₁) (call : f.invoke behaviour args s₁ = (outcome, s₂))
      (rest : Made behaviour args calls s₂ s') : Made behaviour args ((f, outcome) :: calls) s s'

namespace Calls.Made

variable {calls calls' : Calls} {s s' s'' : Session σ}

theorem once {f : Callable} {outcome : Except Fault Value}
    (call : f.invoke behaviour args s = (outcome, s')) (reports : s'.Reported s'') :
    Made behaviour args [(f, outcome)] s s'' :=
  .call (.refl s) call (.none reports)

theorem after (reports : s.Reported s') (h : Made behaviour args calls s' s'') :
    Made behaviour args calls s s'' := by
  cases h with
  | none reports' => exact .none (reports.trans reports')
  | call reports' call rest => exact .call (reports.trans reports') call rest

theorem append (h : Made behaviour args calls s s') (h' : Made behaviour args calls' s' s'') :
    Made behaviour args (calls ++ calls') s s'' := by
  induction h with
  | none reports => exact after reports h'
  | call reports call _ ih => exact .call reports call (ih h')

end Calls.Made

inductive Each {ι : Type} (yields : ι → Calls → List Value → Prop) :
    List ι → Calls → List Value → Prop where
  | nil : Each yields [] [] []
  | cons {i : ι} {is : List ι} {calls calls' : Calls} {vs ws : List Value}
      (first : yields i calls vs) (rest : Each yields is calls' ws) :
      Each yields (i :: is) (calls ++ calls') (vs ++ ws)

theorem InTurn.yields {ι : Type} {contributes : ι → Session σ → List Value → Session σ → Prop}
    {yields : ι → Calls → List Value → Prop} {is : List ι} {s s' : Session σ} {vs : List Value}
    (h : InTurn contributes is s vs s')
    (hone : ∀ {i s vs s'}, contributes i s vs s' →
      ∃ calls : Calls, yields i calls vs ∧ calls.Made behaviour args s s') :
    ∃ calls : Calls, Each yields is calls vs ∧ calls.Made behaviour args s s' := by
  induction h with
  | nil s => exact ⟨[], .nil, .none (.refl s)⟩
  | cons first _ ih =>
    obtain ⟨calls, hyields, hmade⟩ := hone first
    obtain ⟨calls', hyields', hmade'⟩ := ih
    exact ⟨calls ++ calls', .cons hyields hyields', hmade.append hmade'⟩

namespace Primitive

inductive Yields : Primitive → Calls → List Value → Prop where
  | fixed (entity : Value) : Yields (.fixed entity) [] [entity]
  | single {f : Callable} {output : Value} (isEntity : output.isSelfDescribing = true) :
      Yields (.generator f) [(f, .ok output)] [output]
  | several {f : Callable} {output : Value} {vs : List Value} (items : output.items? = some vs) :
      Yields (.generator f) [(f, .ok output)] (vs.filter Value.isSelfDescribing)
  | other {f : Callable} {output : Value} (isEntity : output.isSelfDescribing = false)
      (items : output.items? = none) : Yields (.generator f) [(f, .ok output)] []
  | failed {f : Callable} {fault : Fault} : Yields (.generator f) [(f, .error fault)] []

theorem yields_returned (f : Callable) (output : Value) :
    Yields (.generator f) [(f, .ok output)] (Resolution.entitiesOf output) := by
  unfold Resolution.entitiesOf
  cases hentity : output.isSelfDescribing with
  | true => exact .single hentity
  | false =>
    cases hitems : output.items? with
    | none => exact .other hentity hitems
    | some vs => exact .several hitems

theorem Contributes.yields {p : Primitive} {s s' : Session σ} {vs : List Value}
    (h : p.Contributes behaviour args s vs s') :
    ∃ calls : Calls, p.Yields calls vs ∧ calls.Made behaviour args s s' := by
  cases h with
  | fixed entity => exact ⟨[], .fixed entity, .none (.refl s)⟩
  | returned call reports => exact ⟨_, yields_returned _ _, .once call reports⟩
  | failed call reports => exact ⟨_, .failed, .once call reports⟩

def generator? : Primitive → Option Callable
  | .fixed _ => none
  | .generator f => some f

/-- Each callable among primitives is called once, in their order. -/
theorem callables_of_yields {ps : List Primitive} {calls : Calls} {vs : List Value}
    (h : Each Yields ps calls vs) : calls.map Prod.fst = ps.filterMap generator? := by
  induction h with
  | nil => rfl
  | cons first _ ih =>
    rw [List.map_append, ih]
    cases first with
    | fixed => rfl
    | _ => rfl

end Primitive

namespace Provider

inductive Yields (schema : String) : Provider → Calls → List Value → Prop where
  | passed {f : Callable} {ps : List Primitive} {calls : Calls} {vs : List Value}
      (primitives : Each Primitive.Yields ps calls vs) :
      Yields schema (.filter f ps) ((f, .ok (.bool true)) :: calls) vs
  | notPassed {f : Callable} {ps : List Primitive} {outcome : Except Fault Value}
      (notTrue : outcome ≠ .ok (.bool true)) : Yields schema (.filter f ps) [(f, outcome)] []
  | admitted {r : Schema.RuleSet} {ps : List Primitive} {calls : Calls} {vs : List Value}
      (admits : r.admits schema = true) (primitives : Each Primitive.Yields ps calls vs) :
      Yields schema (.ruled r ps) calls vs
  | notAdmitted {r : Schema.RuleSet} {ps : List Primitive} (admits : r.admits schema = false) :
      Yields schema (.ruled r ps) [] []

theorem Contributes.yields {e : ContextEvent} {p : Provider} {s s' : Session σ} {vs : List Value}
    (h : p.Contributes behaviour e s vs s') :
    ∃ calls : Calls, p.Yields e.schema calls vs ∧ calls.Made behaviour [.event e] s s' := by
  cases h with
  | passed call primitives =>
    obtain ⟨calls, hyields, hmade⟩ := primitives.yields Primitive.Contributes.yields
    exact ⟨_, .passed hyields, .call (.refl s) call hmade⟩
  | notPassed call notTrue reports => exact ⟨_, .notPassed notTrue, .once call reports⟩
  | admitted admits primitives =>
    obtain ⟨calls, hyields, hmade⟩ := primitives.yields Primitive.Contributes.yields
    exact ⟨calls, .admitted admits hyields, hmade⟩
  | notAdmitted _ admits => exact ⟨[], .notAdmitted admits, .none (.refl s)⟩

end Provider

/-! ### Resolution -/

namespace Registry

def applicable (behaviour : Behaviour σ) : Act ((Registry × Builder) × Session σ) (List Value) := do
  let (r, b) ← Act.subject
  Act.besideSubject (r.resolve behaviour (.ofBuilder b))

/--
Whatever the callables of a registry return or raise, a registry gives the entities that its primitives
yield and then those that its providers yield, and it and the builder stay as they are. The yields are
those of the calls that were made, each in the session that the calls before have left.
-/
theorem applicable_isolated (hcalm : ∀ r args s, Calm (behaviour r args s).1) (r : Registry)
    (b : Builder) (s : Session σ) :
    ∃ unconditional conditional, ∃ calls calls' : Calls, ∃ s',
      applicable behaviour ((r, b), s) = (.ok (unconditional ++ conditional), (r, b), s')
      ∧ Each Primitive.Yields r.primitives calls unconditional
      ∧ Each (Provider.Yields (ContextEvent.ofBuilder b).schema) r.providers calls' conditional
      ∧ Calls.Made behaviour [.event (.ofBuilder b)] (calls ++ calls') s s'
      ∧ calls.map Prod.fst = r.primitives.filterMap Primitive.generator? := by
  have hinvoke : ∀ (f : Callable) s, Calm (f.invoke behaviour [.event (.ofBuilder b)] s).1 :=
    fun f s => Callable.calm_invoke hcalm f _ s
  obtain ⟨unconditional, conditional, s₁, s₂, s₃, hresolve, hunconditional, hconditional, hs₃⟩ :=
    resolve_run (r := r) (fun p _ => Primitive.resolve_run fun f _ => hinvoke f)
      (fun p _ => Provider.resolve_run (fun f _ _ => hinvoke f) fun q _ f _ => hinvoke f) s
  obtain ⟨calls, hyields, hmade⟩ :=
    hunconditional.yields Primitive.Contributes.yields
  obtain ⟨calls', hyields', hmade'⟩ :=
    hconditional.yields Provider.Contributes.yields
  refine ⟨unconditional, conditional, calls, calls', s₃, ?_, hyields, hyields', ?_,
    Primitive.callables_of_yields hyields⟩
  . rw [applicable, Act.bind_run Act.subject_run]
    exact Act.besideSubject_run hresolve
  . have hall := (hmade.append hmade').append (.none hs₃)
    rwa [List.append_nil] at hall

def entityOf (schema : String) : Value :=
  .object [(.str "sc", .str schema), (.str "dt", .object [(.str "id", .int 1)])]

def outcomeAfter : Nat → Except Fault Value
  | 0 | 4 => .error (.raised "ValueError" "not now")
  | 1 => .ok (.list [entityOf "first", .int 1, entityOf "second"])
  | 2 => .ok (entityOf "third")
  | 3 => .ok (.int 1)
  | 5 => .ok (.bool true)
  | _ => .ok .null

def moody : Behaviour Nat := fun _ _ s => (outcomeAfter s.users, { s with users := s.users + 1 })

theorem calm_outcomeAfter (n : Nat) : Calm (outcomeAfter n) := by
  unfold outcomeAfter
  split <;> rintro f ⟨⟩ <;> rfl

def moodyCallable : Callable := .routine ⟨"moody", [⟨"args", .variadic, false⟩], none, true⟩

/-- Three generators and three filters. The first filter returns a number that only counts as true. -/
def mixed : Registry :=
  ⟨List.replicate 3 (.generator moodyCallable),
    [.filter moodyCallable [.fixed (entityOf "truthy")], .filter moodyCallable [.fixed (entityOf "raised")],
      .filter moodyCallable [.generator moodyCallable, .fixed (entityOf "fourth")]]⟩

def quiet : Session Nat :=
  { Session.initial 0 (.whole 0) "" toString with facade := { Facade.initial with level := .silent } }

theorem applicable_isolated_moody :
    (∀ r args s, Calm (moody r args s).1)
      ∧ ∃ entities, ∃ calls : Calls, ∃ s',
        applicable moody ((mixed, .empty), quiet) = (.ok entities, (mixed, .empty), s')
        ∧ entities.filterMap (fun v => (v.field? "sc").bind Value.text?)
            = ["first", "second", "third", "fourth"]
        ∧ Calls.Made moody [.event (.ofBuilder .empty)] calls quiet s' := by
  have hcalm : ∀ r args s, Calm (moody r args s).1 := fun r args s => calm_outcomeAfter s.users
  obtain ⟨unconditional, conditional, calls, calls', s', hrun, _, _, hmade, _⟩ :=
    applicable_isolated hcalm mixed .empty quiet
  have hentities : ((applicable moody ((mixed, .empty), quiet)).1.map fun vs =>
      vs.filterMap fun v => (v.field? "sc").bind Value.text?).toOption
        = some ["first", "second", "third", "fourth"] := by
    decide +kernel
  rw [hrun] at hentities
  exact ⟨hcalm, _, _, s', hrun, Option.some.inj hentities, hmade⟩

end Registry

end EventTracking
