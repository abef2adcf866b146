import EventTracking.Proofs.Context.Contributions
import EventTracking.Proofs.Payload.Builder
import EventTracking.Tracker.Track

/-!
This module contains the runs of hooks and of the callback of a tracker: which entities those that only
attach entities add to a builder, and that hooks that leave the payload alone do so one after another.
-/

namespace EventTracking

variable {σ : Type} {users : Users σ} {ps : List Plugin}

namespace Tracker

theorem runHooks_run {T : Type} (name : String) (hook : Plugin → Option Callable)
    (call : Callable → Act (T × Session σ) Unit) (I : T → Prop)
    (ran : Plugin → T × Session σ → List Value → T × Session σ → Prop)
    (hnone : ∀ p ∈ ps, hook p = none → ∀ t s, ran p (t, s) [] (t, s))
    (hcall : ∀ p ∈ ps, ∀ f, hook p = some f → ∀ t s, I t →
      ∃ outcome vs t' s', call f (t, s) = (outcome, t', s') ∧ Calm outcome ∧ I t'
        ∧ ∀ s'', s'.Reported s'' → ran p (t, s) vs (t', s''))
    {t : T} (ht : I t) (s : Session σ) :
    ∃ vs t' s', runHooks name hook call ps (t, s) = (.ok (), t', s') ∧ I t'
      ∧ InTurn ran ps (t, s) vs (t', s') := by
  induction ps generalizing t s with
  | nil => exact ⟨[], t, s, rfl, ht, .nil (t, s)⟩
  | cons p ps ih =>
    obtain ⟨hnone, hnones⟩ := List.forall_mem_cons.1 hnone
    obtain ⟨hcall, hcalls⟩ := List.forall_mem_cons.1 hcall
    rw [runHooks]
    cases hhook : hook p with
    | none =>
      obtain ⟨vs, t', s', hrun, ht', hvs⟩ := ih hnones hcalls ht s
      exact ⟨vs, t', s', hrun, ht', .cons (hnone hhook t s) hvs⟩
    | some f =>
      obtain ⟨outcome, vs, t', s', hf, hcalm, ht', hran⟩ := hcall f hhook t s ht
      dsimp only
      rw [Act.bind_run (Act.isolate_run hf hcalm)]
      cases outcome with
      | ok =>
        obtain ⟨ws, t'', s'', hrun, ht'', hws⟩ := ih hnones hcalls ht' s'
        exact ⟨vs ++ ws, t'', s'', hrun, ht'', .cons (hran s' (.refl s')) hws⟩
      | error fault =>
        -- What the hook has done before it failed stays done.
        obtain ⟨s₁, hreport, hs₁⟩ :=
          Act.reports_sayError ("Plugin " ++ name ++ " error") fault [p.name] s'
        obtain ⟨ws, t'', s'', hrun, ht'', hws⟩ := ih hnones hcalls ht' s₁
        refine ⟨vs ++ ws, t'', s'', ?_, ht'', .cons (hran s₁ hs₁) hws⟩
        exact (Act.bind_run (Act.besideSubject_run hreport)).trans hrun

end Tracker

/-! ### Hooks before tracking -/

def OnlyAttaches (call : Act (Builder × Session σ) Unit) : Prop :=
  ∀ b s, b.built = none → ∃ outcome vs s', call (b, s) = (outcome, b.attached vs, s')
    ∧ Calm outcome ∧ ∀ v ∈ vs, v.IsSerializable

inductive Plugin.Attaches (users : Users σ) :
    Plugin → Builder × Session σ → List Value → Builder × Session σ → Prop where
  | nothing {p : Plugin} {b : Builder} {s : Session σ} (hook : p.beforeTrack = none) :
      Attaches users p (b, s) [] (b, s)
  | hooked {p : Plugin} {f : Callable} {outcome : Except Fault Unit} {b : Builder}
      {vs : List Value} {s s' s'' : Session σ} (hook : p.beforeTrack = some f)
      (call : users.callOnBuilder f (b, s) = (outcome, b.attached vs, s'))
      (reports : s'.Reported s'') : Attaches users p (b, s) vs (b.attached vs, s'')

theorem InTurn.attached {st st' : Builder × Session σ} {vs : List Value}
    (h : InTurn (Plugin.Attaches users) ps st vs st') : st'.1 = st.1.attached vs := by
  induction h with
  | nil => simp
  | cons first _ ih =>
    rw [ih]
    cases first <;> simp

theorem Tracker.beforeTrack_run {b : Builder} (hopen : b.built = none)
    (h : ∀ p ∈ ps, ∀ f, p.beforeTrack = some f → OnlyAttaches (users.callOnBuilder f))
    (s : Session σ) :
    ∃ vs s', runHooks "before_track" Plugin.beforeTrack users.callOnBuilder ps (b, s)
        = (.ok (), b.attached vs, s')
      ∧ InTurn (Plugin.Attaches users) ps (b, s) vs (b.attached vs, s')
      ∧ ∀ v ∈ vs, v.IsSerializable := by
  obtain ⟨vs, b', s', hrun, _, hran⟩ := runHooks_run "before_track" Plugin.beforeTrack
    users.callOnBuilder (fun b => b.built = none)
    (fun p st vs st' => p.Attaches users st vs st' ∧ ∀ v ∈ vs, v.IsSerializable)
    (fun p _ hhook _ _ => ⟨.nothing hhook, by simp⟩)
    (fun p hp f hhook b s hopen => by
      obtain ⟨outcome, vs, s', hcall, hcalm, hvs⟩ := h p hp f hhook b s hopen
      exact ⟨outcome, vs, b.attached vs, s', hcall, hcalm, hopen,
        fun s'' hs'' => ⟨.hooked hhook hcall hs'', hvs⟩⟩)
    hopen s
  have hattaches := hran.mono fun _ _ _ _ _ h => h.1
  have hb' : b' = b.attached vs := hattaches.attached
  subst hb'
  exact ⟨vs, s', hrun, hattaches, hran.forall_mem fun _ _ _ _ _ h => h.2⟩

/-! ### Hooks after tracking -/

def LeavesPayload (call : Act (Pairs × Session σ) Unit) : Prop :=
  ∀ payload s, ∃ outcome s', call (payload, s) = (outcome, payload, s') ∧ Calm outcome

theorem Tracker.afterTrack_run
    (h : ∀ p ∈ ps, ∀ f, p.afterTrack = some f → LeavesPayload (users.callOnPayload f))
    (payload : Pairs) (s : Session σ) :
    ∃ s', runHooks "after_track" Plugin.afterTrack users.callOnPayload ps (payload, s)
      = (.ok (), payload, s') := by
  obtain ⟨_, payload', s', hrun, rfl, _⟩ := runHooks_run "after_track" Plugin.afterTrack
    users.callOnPayload (fun q => q = payload) (fun _ _ _ _ => True)
    (fun _ _ _ _ _ => trivial)
    (fun p hp f hhook q s hq => by
      obtain ⟨outcome, s', hcall, hcalm⟩ := h p hp f hhook q s
      exact ⟨outcome, [], q, s', hcall, hcalm, hq, fun _ _ => trivial⟩)
    rfl s
  exact ⟨s', hrun⟩

/-! ### The callback -/

inductive Tracker.CallbackAttaches (users : Users σ) :
    Value → Builder × Session σ → List Value → Builder × Session σ → Prop where
  | absent {b : Builder} {s : Session σ} : CallbackAttaches users .null (b, s) [] (b, s)
  | called {f : Callable} {b : Builder} {vs : List Value} {s s' : Session σ}
      (call : users.callOnBuilder f (b, s) = (.ok (), b.attached vs, s')) :
      CallbackAttaches users (.callable f) (b, s) vs (b.attached vs, s')

/-- Whether the hooks of a plugin never stop the program and do no more than they are meant to. -/
structure Plugin.Harmless (users : Users σ) (p : Plugin) : Prop where
  contexts : ∀ f, p.contexts = some f → ∀ s, Calm (f.call users.behave [] s).1
  serializable : ∀ s vs s', p.Contributes users.behave s vs s' → ∀ v ∈ vs, v.IsSerializable
  beforeTrack : ∀ f, p.beforeTrack = some f → OnlyAttaches (users.callOnBuilder f)
  afterTrack : ∀ f, p.afterTrack = some f → LeavesPayload (users.callOnPayload f)

end EventTracking
