import EventTracking.Session

/-!
This module contains what running a computation over a state comes to.
-/

namespace EventTracking

/-- Whether an outcome is no request to stop. -/
def Calm {α : Type} (outcome : Except Fault α) : Prop :=
  ∀ f, outcome = .error f → f.interrupts = false

namespace Act

variable {S T α β : Type} {s s' : S} {a : α} {t : T}

@[simp]
theorem pure_run : (pure a : Act S α) s = (.ok a, s) := rfl

@[simp]
theorem get_run : (get : Act S S) s = (.ok s, s) := rfl

@[simp]
theorem modify_run {f : S → S} : (modify f : Act S PUnit) s = (.ok ⟨⟩, f s) := rfl

theorem bind_run {act : Act S α} {next : α → Act S β} (h : act s = (.ok a, s')) :
    (act >>= next) s = next a s' := by
  have : (act >>= next) s = (ExceptT.bindCont next (act s).1) (act s).2 := rfl
  rw [this, h]
  rfl

theorem bind_run_error {act : Act S α} {next : α → Act S β} {f : Fault} (h : act s = (.error f, s')) :
    (act >>= next) s = (.error f, s') := by
  have : (act >>= next) s = (ExceptT.bindCont next (act s).1) (act s).2 := rfl
  rw [this, h]
  rfl

theorem exists_bind_run {act : Act S α} {next : α → Act S β} {b : β} {s'' : S}
    (h : (act >>= next) s = (.ok b, s'')) : ∃ a s', act s = (.ok a, s') ∧ next a s' = (.ok b, s'') := by
  rcases hact : act s with ⟨outcome, s'⟩
  cases outcome with
  | error f =>
    rw [bind_run_error hact] at h
    cases h
  | ok a =>
    rw [bind_run hact] at h
    exact ⟨a, s', rfl, h⟩

theorem discard_run {act : Act S α} (h : act s = (.ok a, s')) :
    (discard act : Act S Unit) s = (.ok (), s') := by
  rw [discard, LawfulFunctor.map_const, Function.comp, map_eq_pure_bind, bind_run h]
  rfl

theorem discard_run_state (act : Act S α) (s : S) : ((discard act : Act S Unit) s).2 = (act s).2 := by
  rw [discard, LawfulFunctor.map_const, Function.comp, map_eq_pure_bind]
  rcases h : act s with ⟨outcome, s'⟩
  cases outcome with
  | ok a => rw [bind_run h, pure_run]
  | error f => rw [bind_run_error h]

@[simp]
theorem ofExcept_ok : ofExcept (.ok a) = (pure a : Act S α) := rfl

@[simp]
theorem subject_run : (subject : Act (T × S) T) (t, s) = (.ok t, t, s) := rfl

@[simp]
theorem setSubject_run {t' : T} : (setSubject t' : Act (T × S) Unit) (t, s) = (.ok (), t', s) := rfl

theorem besideSubject_run {act : Act S α} {outcome : Except Fault α} (h : act s = (outcome, s')) :
    besideSubject act (t, s) = (outcome, t, s') := by
  rw [besideSubject, h]

theorem onSubject_run {act : Act (T × S) α} {outcome : Except Fault α} {t' : T}
    (h : act (t, s) = (outcome, t', s')) : onSubject t act s = (.ok (outcome, t'), s') := by
  rw [onSubject, h]

theorem updateSubject_run {operation : T → Except Fault T} {t' : T} (h : operation t = .ok t') :
    updateSubject operation (t, s) = (.ok (), t', s) := by
  rw [updateSubject, bind_run subject_run, h]
  rfl

theorem updateSubject_run_error {operation : T → Except Fault T} {f : Fault}
    (h : operation t = .error f) : updateSubject operation (t, s) = (.error f, t, s) := by
  rw [updateSubject, bind_run subject_run, h]
  rfl

theorem isolate_run {act : Act S α} {outcome : Except Fault α} (h : act s = (outcome, s'))
    (hcalm : Calm outcome) : act.isolate s = (.ok outcome, s') := by
  rw [isolate, h]
  cases outcome with
  | ok => rfl
  | error f => simp [hcalm f rfl]

theorem run_of_isolate {act : Act S α} {outcome : Except Fault α} (h : act.isolate s = (.ok outcome, s')) :
    act s = (outcome, s') := by
  unfold isolate at h
  split at h
  . next hact =>
    cases h
    exact hact
  . next hact =>
    split at h
    . cases h
    . cases h
      exact hact

theorem exists_isolate_run {act : Act S α} (hcalm : Calm (act s).1) :
    ∃ outcome s', act s = (outcome, s') ∧ act.isolate s = (.ok outcome, s') :=
  ⟨(act s).1, (act s).2, rfl, isolate_run rfl hcalm⟩

end Act

end EventTracking
