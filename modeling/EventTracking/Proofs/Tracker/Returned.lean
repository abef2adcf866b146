import EventTracking.Proofs.Tracker.Course

/-!
This module contains the theorem on the payload that tracking returns: the hooks that run after the build are
given one payload to share, and what they make of it is returned, while the builder keeps the one that was built.
-/

namespace EventTracking

open Processing (HasDocuments hasDocuments_empty)

namespace Tracker

variable {σ : Type} {users : Users σ} {t : Tracker} {b : Builder} {s : Session σ}

def CallbackReturns (users : Users σ) (t : Tracker) : Prop :=
  t.callback = .null
    ∨ ∃ f, t.callback = .callable f ∧ ∀ st, (users.callOnBuilder f st).1 = .ok ()

theorem Course.exists_of_callback {e : ContextEvent} {encode : Bool} {calls : List Call} {st st' : Scene σ}
    {f : Callable} {answer : Except Fault Unit} (h : Course users e encode calls st st')
    (hmem : Call.callback f answer ∈ calls) : ∃ x, (users.callOnBuilder f x).1 = answer := by
  induction h with
  | done => cases hmem
  | proceeds _ _ ih => exact ih hmem
  | makes call _ ih =>
    rcases List.mem_cons.1 hmem with rfl | hmem
    . cases call with
      | callback _ call => exact ⟨_, congrArg Prod.fst call⟩
    . exact ih hmem

theorem CallbackReturns.answer_eq {e : ContextEvent} {encode : Bool} {registered : Calls} {called : List Call}
    {st st' : Scene σ} {answer : Except Fault Unit} (h : t.CallbackReturns users)
    (hanswers : Answers t.callback answer called)
    (hcourse : Course users e encode (t.callsBefore registered called) st st') : answer = .ok () := by
  rcases h with hnull | ⟨f, hcallable, hreturns⟩
  . rw [hnull] at hanswers
    cases hanswers with
    | absent => rfl
    | notCallable present => cases present
  . rw [hcallable] at hanswers
    cases hanswers with
    | called =>
      obtain ⟨x, hx⟩ := hcourse.exists_of_callback (List.mem_append_right _ (List.mem_singleton_self _))
      rw [← hx, hreturns]
    | notCallable _ other => cases other

theorem hands_of_runHooks {ps : List Plugin} {st st' : Pairs × Session σ}
    (h : runHooks "after_track" Plugin.afterTrack users.callOnPayload ps st = (.ok (), st')) :
    ∃ vs, InTurn (Plugin.Hands users) ps st vs st' := by
  induction ps generalizing st with
  | nil =>
    cases h
    exact ⟨[], .nil _⟩
  | cons p ps ih =>
    rw [runHooks] at h
    cases hhook : p.afterTrack with
    | none =>
      rw [hhook] at h
      obtain ⟨vs, hvs⟩ := ih h
      exact ⟨vs, .cons (.nothing hhook st) hvs⟩
    | some f =>
      rw [hhook] at h
      obtain ⟨outcome, ⟨payload, s⟩, hcall, hrest⟩ := Act.exists_bind_run h
      have hcall := Act.run_of_isolate hcall
      cases outcome with
      | ok =>
        obtain ⟨vs, hvs⟩ := ih hrest
        exact ⟨vs, .cons (.hooked hhook hcall (.refl s)) hvs⟩
      | error fault =>
        obtain ⟨s₁, hreport, hs₁⟩ := Act.reports_sayError "Plugin after_track error" fault [p.name] s
        dsimp only at hrest
        obtain ⟨_, st₁, hsaid, hrest⟩ := Act.exists_bind_run hrest
        cases hsaid.symm.trans (Act.besideSubject_run hreport)
        obtain ⟨vs, hvs⟩ := ih hrest
        exact ⟨vs, .cons (.hooked hhook hcall hs₁) hvs⟩

theorem payload_of_hands {ps : List Plugin} {st st' : Pairs × Session σ} {vs : List Value}
    (h : InTurn (Plugin.Hands users) ps st vs st')
    (hleaves : ∀ p ∈ ps, ∀ f, p.afterTrack = some f → ∀ st, (users.callOnPayload f st).2.1 = st.1) :
    st'.1 = st.1 := by
  induction h with
  | nil => rfl
  | cons first _ ih =>
    obtain ⟨hp, hps⟩ := List.forall_mem_cons.1 hleaves
    rw [ih hps]
    cases first with
    | nothing => rfl
    | @hooked f _ payload _ s _ _ hook call =>
      have hsame := hp f hook (payload, s)
      rw [call] at hsame
      exact hsame

theorem hands_of_track {contexts : Value} {timestamp : Timestamp} {returned : Pairs} {b' : Builder}
    {s' : Session σ} (h : t.track users contexts timestamp (b, s) = (.ok returned, b', s')) :
    ∃ payload, b'.built = some payload
      ∧ ∃ vs s₁ s₂, InTurn (Plugin.Hands users) t.plugins (payload, s₁) vs (returned, s₂) := by
  unfold track at h
  obtain ⟨_, _, _, h⟩ := Act.exists_bind_run h
  obtain ⟨entities, _, _, h⟩ := Act.exists_bind_run h
  obtain ⟨_, _, _, h⟩ := Act.exists_bind_run h
  obtain ⟨_, _, _, h⟩ := Act.exists_bind_run h
  obtain ⟨_, ⟨b₁, s₁⟩, _, h⟩ := Act.exists_bind_run h
  unfold finish at h
  obtain ⟨payload, ⟨b₂, s₂⟩, hbuild, h⟩ := Act.exists_bind_run h
  rcases hhooks : runHooks "after_track" Plugin.afterTrack users.callOnPayload t.plugins (payload, s₂)
    with ⟨outcome, left, s₃⟩
  rw [Act.bind_run (Act.besideSubject_run (Act.onSubject_run hhooks))] at h
  dsimp only at h
  cases outcome with
  | error f =>
    obtain ⟨_, _, hfailed, _⟩ := Act.exists_bind_run h
    cases hfailed
  | ok =>
    rw [Act.ofExcept_ok, pure_bind] at h
    obtain ⟨s₄, htrace, _⟩ := reports_traceTracked t left entities.length s₃
    rw [Act.bind_run (Act.besideSubject_run htrace)] at h
    cases h
    obtain ⟨vs, hhands⟩ := hands_of_runHooks hhooks
    exact ⟨payload, Builder.built_of_build hbuild, vs, s₂, s₃, hhands⟩

/--
Whatever the hooks do, the builder keeps the payload that was built. The first hook after tracking is given
that payload, each further one what those before it have left, and what the last one has left is returned. The
two are the same if no hook writes into the payload.
-/
theorem track_returned (users : Users σ) (t : Tracker) (contexts : Value) (timestamp : Timestamp)
    (b : Builder) (s : Session σ) :
    (∀ returned b' s', t.track users contexts timestamp (b, s) = (.ok returned, b', s') →
        ∃ payload, b'.built = some payload
          ∧ (∀ s'', Builder.build users.process (b', s'') = (.ok payload, b', s''))
          ∧ (∃ vs s₁ s₂, InTurn (Plugin.Hands users) t.plugins (payload, s₁) vs (returned, s₂))
          ∧ ((∀ p ∈ t.plugins, ∀ f, p.afterTrack = some f →
                ∀ st, (users.callOnPayload f st).2.1 = st.1) →
              returned = payload))
      ∧ (t.Orderly users → t.CallbackReturns users → b.built = none → HasDocuments b →
          ∀ given, AreGiven contexts given → (∀ v ∈ given, v.IsSerializable) →
          ∀ time, (timestamp.milliseconds s.now).bind Value.integerText = .ok time →
          (∃ returned b' s', t.track users contexts timestamp (b, s) = (.ok returned, b', s'))
          ∨ ∃ bracket b' s', t.track users contexts timestamp (b, s) = (.error (.nestedTooDeep bracket), b', s')
            ∧ b'.built = none) := by
  constructor
  . intro returned b' s' htrack
    obtain ⟨payload, hbuilt, hhands⟩ := hands_of_track htrack
    refine ⟨payload, hbuilt, fun s'' => Builder.build_of_built hbuilt, hhands, fun hleaves => ?_⟩
    obtain ⟨vs, s₁, s₂, hhands⟩ := hhands
    exact payload_of_hands hhands hleaves
  . intro h hcallback hopen hdocuments given hgiven hgivenDocuments time htime
    obtain ⟨registered, answer, called, b₁, s₁, _, hanswers, _, _, hcourse, _, hanswered, hoverflowed⟩ :=
      stages_of_orderly h hgiven hgivenDocuments hopen hdocuments htime
    have hanswer := hcallback.answer_eq hanswers hcourse
    obtain hreads | ⟨bracket, hoverflows⟩ := Processing.readsContexts_or_overflows t.base64.truthy b₁
    . obtain ⟨returned, s', htrack, _⟩ := hanswered hanswer hreads
      exact .inl ⟨returned, _, s', htrack⟩
    . obtain ⟨b', htrack, hopen'⟩ := hoverflowed hanswer bracket hoverflows
      exact .inr ⟨bracket, b', s₁, htrack, hopen'⟩

/-! ### Hooks that write into the payload -/

def scribbler : Users (List (List String)) where
  behave _ _ := return .null
  process _ _ _ := return .null
  onBuilder _ := return .null
  onPayload r st := (.ok .null, st.1.set r.name (.str "seen"), { st.2 with users := st.2.users ++ [st.1.keys] })
  onTracker _ := return .null
  onFacade _ := return .null

def scribbled (names : List String) : Tracker where
  settings := none
  base64 := .bool false
  pairs := []
  plugins := names.map fun name => ⟨some name, "plugin", none, none, some (routineNamed name true), none, none⟩
  registry := .empty
  callback := .null

def midnight : Session (List (List String)) := .initial [] (.whole 0) "" toString

theorem orderly_scribbled (names : List String) : (scribbled names).Orderly scribbler where
  primitives := nofun
  providers := nofun
  contexts := by
    rw [scribbled, List.forall_mem_map]
    rintro name _ f ⟨⟩
  serializable := by
    rw [scribbled, List.forall_mem_map]
    intro name _ s vs s' h
    cases h with
    | nothing => simp
    | returned hook | failed hook => cases hook
  calm_beforeTrack := by
    rw [scribbled, List.forall_mem_map]
    rintro name _ f ⟨⟩
  beforeTrack := by
    rw [scribbled, List.forall_mem_map]
    rintro name _ f ⟨⟩
  callback := nofun
  afterTrack := by
    rw [scribbled, List.forall_mem_map]
    rintro name _ f ⟨⟩ st fault ⟨⟩

theorem keys_scribbled :
    let run := (scribbled ["one", "two"]).track scribbler .null .now (.empty, midnight)
    run.1.toOption.map Pairs.keys = some ["eid", "dtm", "one", "two"]
      ∧ run.2.1.built.map Pairs.keys = some ["eid", "dtm"]
      ∧ run.2.2.users = [["eid", "dtm"], ["eid", "dtm", "one"]] := by
  decide +kernel

theorem track_returned_scribbled :
    (∃ payload returned b' s',
      (scribbled ["one", "two"]).track scribbler .null .now (.empty, midnight) = (.ok returned, b', s')
      ∧ (∀ s'', Builder.build scribbler.process (b', s'') = (.ok payload, b', s''))
      ∧ payload.keys = ["eid", "dtm"]
      ∧ s'.users = [["eid", "dtm"], ["eid", "dtm", "one"]]
      ∧ returned.keys = ["eid", "dtm", "one", "two"])
      ∧ ∃ payload b' s', (watched true).track diary .null .now (.empty, dawn) = (.ok payload, b', s')
        ∧ ∀ s'', Builder.build diary.process (b', s'') = (.ok payload, b', s'') := by
  constructor
  . obtain ⟨hends, hreturns⟩ :=
      track_returned scribbler (scribbled ["one", "two"]) .null .now .empty midnight
    have hkeys := keys_scribbled
    obtain ⟨returned, b', s', htrack⟩ | ⟨bracket, b', s', hfailed, _⟩ :=
      hreturns (orderly_scribbled _) (Or.inl rfl) rfl hasDocuments_empty [] (Or.inl ⟨rfl, rfl⟩) (by simp) _
        time_epoch
    . obtain ⟨payload, hbuilt, hbuild, -, -⟩ := hends returned b' s' htrack
      rw [htrack] at hkeys
      obtain ⟨hreturned, hpayload, hgiven⟩ := hkeys
      dsimp only at hpayload
      rw [hbuilt] at hpayload
      exact ⟨payload, returned, b', s', htrack, hbuild, Option.some.inj hpayload, hgiven,
        Option.some.inj hreturned⟩
    . rw [hfailed] at hkeys
      cases hkeys.1
  . obtain ⟨hends, hreturns⟩ := track_returned diary (watched true) .null .now .empty dawn
    have hreturned : ((watched true).track diary .null .now (.empty, dawn)).1.toOption.isSome = true := by
      decide +kernel
    obtain ⟨returned, b', s', htrack⟩ | ⟨bracket, b', s', hfailed, _⟩ :=
      hreturns (orderly_watched true) (Or.inr ⟨_, rfl, fun _ => rfl⟩) rfl hasDocuments_empty []
        (Or.inl ⟨rfl, rfl⟩) (by simp) _ time_epoch
    . obtain ⟨payload, hbuilt, hbuild, -, hsame⟩ := hends returned b' s' htrack
      have hleaves : returned = payload := by
        apply hsame
        refine forall_mem_watched (fun name returns f hf st => ?_) true
        cases hf
        obtain ⟨outcome, s'', hcall, _⟩ := callOnPayload_diary ("after " ++ name) returns st.1 st.2
        rw [hcall]
      rw [hleaves] at htrack
      exact ⟨payload, b', s', htrack, hbuild⟩
    . rw [hfailed] at hreturned
      cases hreturned

/-- What tracking returns need not be what building again returns, nor what a hook has been given. -/
theorem returned_not_built :
    ∃ returned payload b' s',
      (scribbled ["one", "two"]).track scribbler .null .now (.empty, midnight) = (.ok returned, b', s')
      ∧ Builder.build scribbler.process (b', s') = (.ok payload, b', s')
      ∧ payload.keys ∈ s'.users
      ∧ returned.keys ≠ payload.keys
      ∧ ∃ keys ∈ s'.users, keys ≠ payload.keys := by
  obtain ⟨hreturned, hpayload, hgiven⟩ := keys_scribbled
  rcases hrun : (scribbled ["one", "two"]).track scribbler .null .now (.empty, midnight) with ⟨outcome, b', s'⟩
  rw [hrun] at hreturned hpayload hgiven
  dsimp only at hreturned hpayload hgiven
  cases outcome with
  | error fault => cases hreturned
  | ok returned =>
    obtain ⟨payload, hbuilt, hkeys⟩ := Option.map_eq_some_iff.1 hpayload
    have hreturned : returned.keys = ["eid", "dtm", "one", "two"] := Option.some.inj hreturned
    refine ⟨returned, payload, b', s', rfl, Builder.build_of_built hbuilt, ?_, ?_, ?_⟩
    . rw [hgiven, hkeys]
      decide
    . rw [hreturned, hkeys]
      decide
    . rw [hgiven, hkeys]
      decide

end Tracker

end EventTracking
