import EventTracking.Proofs.Session

/-!
This module contains the comparison of two runs: computations that, started in related states, come to
related results, or to the same fault, and to related states. Sessions are mostly compared apart from what
has been logged and traced.
-/

namespace EventTracking

inductive Outcomes {α β : Type} (Q : α → β → Prop) : Except Fault α → Except Fault β → Prop where
  | ok {a : α} {b : β} (h : Q a b) : Outcomes Q (.ok a) (.ok b)
  | error (f : Fault) : Outcomes Q (.error f) (.error f)

theorem outcomes_self {α : Type} (outcome : Except Fault α) : Outcomes Eq outcome outcome := by
  cases outcome with
  | ok a => exact .ok rfl
  | error f => exact .error f

theorem Outcomes.exists_of_ok {α β : Type} {Q : α → β → Prop} {a : α} {outcome : Except Fault β}
    (h : Outcomes Q (.ok a) outcome) : ∃ b, outcome = .ok b ∧ Q a b := by
  cases h with
  | ok hab => exact ⟨_, rfl, hab⟩

def Beside {T U S S' : Type} (P : T → U → Prop) (R : S → S' → Prop) : T × S → U × S' → Prop :=
  fun (t, s) (u, s') => P t u ∧ R s s'

namespace Act

variable {S S' T U α β γ δ : Type} {R : S → S' → Prop} {P : T → U → Prop} {Q : α → β → Prop}
  {Q' : γ → δ → Prop}

def Agree (R : S → S' → Prop) (Q : α → β → Prop) (act : Act S α) (act' : Act S' β) : Prop :=
  ∀ s s', R s s' → ∃ outcome outcome' r r', act s = (outcome, r) ∧ act' s' = (outcome', r')
    ∧ Outcomes Q outcome outcome' ∧ R r r'

variable {act : Act S α} {act' : Act S' β}

theorem agree_ofExcept {e : Except Fault α} {e' : Except Fault β} (h : Outcomes Q e e') :
    Agree R Q (ofExcept e) (ofExcept e') := by
  intro s s' hs
  refine ⟨e, e', s, s', ?_, ?_, h, hs⟩
  . cases e <;> rfl
  . cases e' <;> rfl

theorem agree_pure {a : α} {b : β} (h : Q a b) : Agree R Q (pure a) (pure b) :=
  fun s s' hs => ⟨.ok a, .ok b, s, s', rfl, rfl, .ok h, hs⟩

theorem agree_throw (f : Fault) : Agree R Q (throw f) (throw f) :=
  fun s s' hs => ⟨.error f, .error f, s, s', rfl, rfl, .error f, hs⟩

theorem Agree.mono {Q' : α → β → Prop} (h : Agree R Q act act') (himp : ∀ a b, Q a b → Q' a b) :
    Agree R Q' act act' := by
  intro s s' hs
  obtain ⟨_, _, r, r', hrun, hrun', houtcome, hr⟩ := h s s' hs
  cases houtcome with
  | ok hab => exact ⟨_, _, r, r', hrun, hrun', .ok (himp _ _ hab), hr⟩
  | error f => exact ⟨_, _, r, r', hrun, hrun', .error f, hr⟩

theorem Agree.outcomes {s : S} {s' : S'} (h : Agree R Q act act') (hs : R s s') :
    Outcomes Q (act s).1 (act' s').1 := by
  obtain ⟨_, _, r, r', hrun, hrun', houtcome, _⟩ := h s s' hs
  rw [hrun, hrun']
  exact houtcome

theorem Agree.bind {next : α → Act S γ} {next' : β → Act S' δ} (h : Agree R Q act act')
    (hnext : ∀ a b, Q a b → Agree R Q' (next a) (next' b)) :
    Agree R Q' (act >>= next) (act' >>= next') := by
  intro s s' hs
  obtain ⟨_, _, r, r', hrun, hrun', houtcome, hr⟩ := h s s' hs
  cases houtcome with
  | ok hab =>
    rw [bind_run hrun, bind_run hrun']
    exact hnext _ _ hab r r' hr
  | error f => exact ⟨.error f, .error f, r, r', bind_run_error hrun, bind_run_error hrun', .error f, hr⟩

theorem Agree.discard {act act' : Act S α} {R : S → S → Prop} (h : Agree R Eq act act') :
    Agree R Eq (discard act : Act S Unit) (Functor.discard act' : Act S Unit) := by
  simp only [Functor.discard, LawfulFunctor.map_const, Function.comp, map_eq_pure_bind]
  exact h.bind fun _ _ _ => agree_pure rfl

theorem agree_get : Agree R R get get :=
  fun s s' hs => ⟨.ok s, .ok s', s, s', rfl, rfl, .ok hs, hs⟩

theorem agree_modify {f : S → S} {f' : S' → S'} (h : ∀ s s', R s s' → R (f s) (f' s')) :
    Agree R Eq (modify f : Act S PUnit) (modify f' : Act S' PUnit) :=
  fun s s' hs => ⟨.ok ⟨⟩, .ok ⟨⟩, f s, f' s', rfl, rfl, .ok rfl, h s s' hs⟩

theorem Agree.isolate (h : Agree R Q act act') : Agree R (Outcomes Q) act.isolate act'.isolate := by
  intro s s' hs
  obtain ⟨_, _, r, r', hrun, hrun', houtcome, hr⟩ := h s s' hs
  unfold Act.isolate
  rw [hrun, hrun']
  cases houtcome with
  | ok hab => exact ⟨_, _, r, r', rfl, rfl, .ok (.ok hab), hr⟩
  | error f =>
    cases hf : f.interrupts with
    | true => exact ⟨.error f, .error f, r, r', by simp [hf], by simp [hf], .error f, hr⟩
    | false => exact ⟨.ok (.error f), .ok (.error f), r, r', by simp [hf], by simp [hf], .ok (.error f), hr⟩

/-! ### Subjects -/

theorem Agree.besideSubject (h : Agree R Q act act') :
    Agree (Beside P R) Q (besideSubject act) (Act.besideSubject act') := by
  rintro ⟨t, s⟩ ⟨u, s'⟩ ⟨ht, hs⟩
  obtain ⟨outcome, outcome', r, r', hrun, hrun', houtcome, hr⟩ := h s s' hs
  exact ⟨outcome, outcome', (t, r), (u, r'), besideSubject_run hrun, besideSubject_run hrun', houtcome,
    ht, hr⟩

theorem Agree.onSubject {t : T} {u : U} {act : Act (T × S) α} {act' : Act (U × S') β}
    (h : Agree (Beside P R) Q act act') (ht : P t u) :
    Agree R (fun x y => Outcomes Q x.1 y.1 ∧ P x.2 y.2) (onSubject t act) (Act.onSubject u act') := by
  intro s s' hs
  obtain ⟨outcome, outcome', ⟨t', r⟩, ⟨u', r'⟩, hrun, hrun', houtcome, ht', hr⟩ := h (t, s) (u, s') ⟨ht, hs⟩
  exact ⟨.ok (outcome, t'), .ok (outcome', u'), r, r', onSubject_run hrun, onSubject_run hrun',
    .ok ⟨houtcome, ht'⟩, hr⟩

theorem agree_subject : Agree (Beside P R) P subject subject :=
  fun (t, s) (u, s') h => ⟨.ok t, .ok u, (t, s), (u, s'), rfl, rfl, .ok h.1, h⟩

theorem agree_setSubject {t : T} {u : U} (h : P t u) :
    Agree (Beside P R) Eq (setSubject t) (setSubject u) :=
  fun (_, s) (_, s') hs => ⟨.ok (), .ok (), (t, s), (u, s'), rfl, rfl, .ok rfl, h, hs.2⟩

theorem agree_updateSubject {operation : T → Except Fault T} {operation' : U → Except Fault U}
    (h : ∀ t u, P t u → Outcomes P (operation t) (operation' u)) :
    Agree (Beside P R) Eq (updateSubject operation) (updateSubject operation') := by
  refine agree_subject.bind fun t u htu => ?_
  have hafter := h t u htu
  generalize operation t = outcome at hafter
  generalize operation' u = outcome' at hafter
  cases hafter with
  | ok hab => exact agree_setSubject hab
  | error f => exact agree_throw f

/-! ### Failures at the start -/

variable {R : S → S → Prop} {nothing : α → Prop} {act act' : Act S α}

/--
Whether a computation does what another one does, except that it may fail at its start where the other does
nothing.
-/
def Falters (R : S → S → Prop) (nothing : α → Prop) (act act' : Act S α) : Prop :=
  ∀ s s', R s s' →
    (∃ outcome r r', act s = (outcome, r) ∧ act' s' = (outcome, r') ∧ R r r')
      ∨ ∃ f a, act s = (.error f, s) ∧ f.interrupts = false ∧ act' s' = (.ok a, s') ∧ nothing a

inductive Pardoned (nothing : α → Prop) : Except Fault α → Except Fault α → Prop where
  | same (outcome : Except Fault α) : Pardoned nothing outcome outcome
  | fault {a : α} (f : Fault) (h : nothing a) : Pardoned nothing (.error f) (.ok a)

theorem Falters.isolate (h : Falters R nothing act act') :
    Agree R (Pardoned nothing) act.isolate act'.isolate := by
  intro s s' hs
  unfold Act.isolate
  rcases h s s' hs with ⟨outcome, r, r', hrun, hrun', hr⟩ | ⟨f, a, hrun, hf, hrun', ha⟩
  . rw [hrun, hrun']
    cases outcome with
    | ok a => exact ⟨_, _, r, r', rfl, rfl, .ok (.same _), hr⟩
    | error f =>
      cases hf : f.interrupts with
      | true => exact ⟨.error f, .error f, r, r', by simp [hf], by simp [hf], .error f, hr⟩
      | false => exact ⟨.ok (.error f), .ok (.error f), r, r', by simp [hf], by simp [hf], .ok (.same _), hr⟩
  . rw [hrun, hrun']
    exact ⟨.ok (.error f), .ok (.ok a), s, s', by simp [hf], rfl, .ok (.fault f ha), hs⟩

end Act

/-! ### Sessions apart from reports -/

namespace Session

variable {σ : Type} {s s' s'' : Session σ}

def Alike (s s' : Session σ) : Prop :=
  ∃ records spans, s' = { s with records := records, spans := spans }

theorem Alike.refl (s : Session σ) : s.Alike s := ⟨s.records, s.spans, rfl⟩

theorem Alike.symm (h : s.Alike s') : s'.Alike s := by
  obtain ⟨records, spans, rfl⟩ := h
  exact ⟨s.records, s.spans, rfl⟩

theorem Alike.trans (h : s.Alike s') (h' : s'.Alike s'') : s.Alike s'' := by
  obtain ⟨records, spans, rfl⟩ := h
  obtain ⟨records', spans', rfl⟩ := h'
  exact ⟨records', spans', rfl⟩

theorem Reported.alike (h : s.Reported s') : s.Alike s' := by
  obtain ⟨records, spans, rfl⟩ := h
  exact ⟨_, _, rfl⟩

/-- Whether reports in either of two sessions make no difference to how they are related. -/
def IsUpToReports (R : Session σ → Session σ → Prop) : Prop :=
  ∀ s s' r r', R s s' → s.Reported r → s'.Reported r' → R r r'

theorem isUpToReports_alike : IsUpToReports (σ := σ) Alike :=
  fun _ _ _ _ hs hr hr' => hr.alike.symm.trans (hs.trans hr'.alike)

theorem isUpToReports_any : IsUpToReports (σ := σ) fun _ _ => True :=
  fun _ _ _ _ _ _ _ => trivial

end Session

namespace Act

variable {σ : Type} {R : Session σ → Session σ → Prop}

theorem reports_pure : Reports (σ := σ) (pure ()) := fun s => ⟨s, rfl, .refl s⟩

theorem agree_of_returns_upTo {α β : Type} {Q : α → β → Prop} {act : Act (Session σ) α}
    {act' : Act (Session σ) β} {a : α} {b : β} (hR : Session.IsUpToReports R)
    (h : ∀ s, ∃ s', act s = (.ok a, s') ∧ s.Reported s')
    (h' : ∀ s, ∃ s', act' s = (.ok b, s') ∧ s.Reported s') (hab : Q a b) : Agree R Q act act' := by
  intro s s' hs
  obtain ⟨r, hrun, hr⟩ := h s
  obtain ⟨r', hrun', hr'⟩ := h' s'
  exact ⟨.ok a, .ok b, r, r', hrun, hrun', .ok hab, hR s s' r r' hs hr hr'⟩

theorem agree_of_reports_upTo {act act' : Act (Session σ) Unit} (hR : Session.IsUpToReports R)
    (h : Reports act) (h' : Reports act') : Agree R Eq act act' :=
  agree_of_returns_upTo hR h h' rfl

theorem agree_of_returns {α β : Type} {Q : α → β → Prop} {act : Act (Session σ) α}
    {act' : Act (Session σ) β} {a : α} {b : β} (h : ∀ s, ∃ s', act s = (.ok a, s') ∧ s.Reported s')
    (h' : ∀ s, ∃ s', act' s = (.ok b, s') ∧ s.Reported s') (hab : Q a b) :
    Agree Session.Alike Q act act' :=
  agree_of_returns_upTo Session.isUpToReports_alike h h' hab

theorem agree_of_reports {act act' : Act (Session σ) Unit} (h : Reports act) (h' : Reports act') :
    Agree Session.Alike Eq act act' :=
  agree_of_reports_upTo Session.isUpToReports_alike h h'

end Act

end EventTracking
