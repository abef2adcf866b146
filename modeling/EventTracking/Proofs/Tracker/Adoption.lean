import EventTracking.Proofs.Agreement
import EventTracking.Proofs.Context.Registrations
import EventTracking.Proofs.Pairs
import EventTracking.Proofs.Payload.Builder
import EventTracking.Tracker.Track

/-!
This module contains the theorem on the adoption of settings: the ones adopted last count, whatever has been adopted
and done before, and nothing but what settings tell changes.
-/

namespace EventTracking

open Act

variable {σ : Type}

/-! ### Pairs that are replaced -/

namespace Pairs

variable {key : String} {replacement ps : Pairs}

theorem replacePairs_cons (k : String) (v : Value) (replacement ps : Pairs) :
    Tracker.replacePairs ((k, v) :: replacement) ps
      = Tracker.replacePairs replacement (if v.isNull then ps.erase k else ps.set k v) :=
  rfl

theorem get?_replacePairs_of_not_mem (h : key ∉ replacement.keys) (ps : Pairs) :
    (Tracker.replacePairs replacement ps).get? key = ps.get? key := by
  induction replacement generalizing ps with
  | nil => rfl
  | cons p replacement ih =>
    obtain ⟨k, v⟩ := p
    obtain ⟨hk, hrest⟩ := not_or.1 (mt List.mem_cons.2 h)
    rw [replacePairs_cons, ih hrest]
    split
    . exact get?_erase_of_ne hk ps
    . exact get?_set_of_ne hk v ps

theorem get?_replacePairs (hkeys : replacement.keys.Nodup) (hmem : key ∈ replacement.keys) (ps : Pairs) :
    (Tracker.replacePairs replacement ps).get? key = (get? key replacement).filter fun v => !v.isNull := by
  induction replacement generalizing ps with
  | nil => cases hmem
  | cons p replacement ih =>
    obtain ⟨k, v⟩ := p
    obtain ⟨hk, hrest⟩ := List.nodup_cons.1 hkeys
    rw [replacePairs_cons, get?_cons]
    by_cases hkey : key = k
    . rw [if_pos hkey, hkey, get?_replacePairs_of_not_mem hk]
      cases hv : v.isNull with
      | true => simp [Option.filter, hv, get?_erase_self]
      | false => simp [Option.filter, hv, get?_set_self]
    . rw [if_neg hkey]
      exact ih hrest ((List.mem_cons.1 hmem).resolve_left hkey) _

theorem IsKept.replacePairs {P : Pairs → Prop} (hP : IsKept P) (replacement : Pairs) (h : P ps) :
    P (Tracker.replacePairs replacement ps) := by
  induction replacement generalizing ps with
  | nil => exact h
  | cons p replacement ih =>
    obtain ⟨k, v⟩ := p
    rw [replacePairs_cons]
    apply ih
    split
    . exact hP.erase k h
    . next hv =>
      rw [Bool.not_eq_true] at hv
      exact hP.set k hv h

end Pairs

namespace Tracker

/-! ### Operations on a tracker -/

inductive Operation where
  | adopt (settings : Settings)
  | call (setter : String) (args : List Value)
  | change (c : Registry.Change)

namespace Operation

def perform : Operation → Act (Tracker × Session σ) Unit
  | .adopt settings => Tracker.adopt settings
  | .call setter args => Tracker.call setter args
  | .change (.add contexts) => addContexts contexts
  | .change (.remove contexts) => removeContexts contexts
  | .change .clear => modify fun (t, s) => (t.clearContexts, s)

end Operation

def performAll (ops : List Operation) (st : Tracker × Session σ) : Tracker × Session σ :=
  ops.foldl (fun st op => (op.perform st).2) st

theorem performAll_cons (op : Operation) (ops : List Operation) (st : Tracker × Session σ) :
    performAll (op :: ops) st = performAll ops (op.perform st).2 :=
  rfl

theorem performAll_append (ops ops' : List Operation) (st : Tracker × Session σ) :
    performAll (ops ++ ops') st = performAll ops' (performAll ops st) :=
  List.foldl_append

/-! ### Trackers up to settings -/

def identityKeys : List String := ["tv", "tna", "aid", "p"]

theorem keys_identity (c : Settings) : (identity c).keys = identityKeys := rfl

structure UpToSettings (P : Pairs → Prop) (t t' : Tracker) : Prop where
  kept : P t.pairs
  kept' : P t'.pairs
  pairs : ∀ key ∉ identityKeys, t.pairs.get? key = t'.pairs.get? key
  plugins : t.plugins = t'.plugins
  registry : t.registry = t'.registry
  callback : t.callback = t'.callback

def Matches (t t' : Tracker) : Prop :=
  ∃ ps, t' = { t with pairs := ps } ∧ ∀ key, t.pairs.get? key = ps.get? key

end Tracker

namespace Session

def UpToFacade (s s' : Session σ) : Prop :=
  ∃ level format, s' = { s with facade := { s.facade with level := level, format := format } }

end Session

namespace Registry

theorem agree_note (text? : Option String) :
    Agree (Session.UpToFacade (σ := σ)) Eq (note text?) (note text?) := by
  cases text? with
  | none => exact agree_pure rfl
  | some text =>
    refine agree_modify ?_
    rintro s _ ⟨level, format, rfl⟩
    exact ⟨level, format, rfl⟩

theorem agree_add (contexts : Value) (r : Registry) :
    Agree (Session.UpToFacade (σ := σ)) Eq (add contexts r) (add contexts r) := by
  unfold add
  cases contexts.elements? with
  | none => exact agree_throw _
  | some vs =>
    refine Agree.bind (Q := Eq) ?_ fun _ _ _ => agree_pure rfl
    induction vs with
    | nil => exact agree_pure rfl
    | cons v vs ih =>
      rw [List.forIn_cons, bind_assoc]
      refine (agree_note (insertNote? v)).bind fun _ _ _ => ?_
      rw [pure_bind]
      exact ih

theorem agree_remove (contexts : Value) (r : Registry) :
    Agree (Session.UpToFacade (σ := σ)) Eq (remove contexts r) (remove contexts r) := by
  unfold remove
  cases contexts.elements? with
  | none => exact agree_throw _
  | some vs =>
    dsimp only
    induction vs generalizing r with
    | nil => exact agree_pure rfl
    | cons v vs ih =>
      rw [remove.removeEach]
      exact (agree_note (r.eraseNote? v)).bind fun _ _ _ => ih (r.erase v)

end Registry

namespace Tracker

variable {P : Pairs → Prop} {t t' : Tracker} {s s' : Session σ}

namespace UpToSettings

theorem refl (h : P t.pairs) : UpToSettings P t t := ⟨h, h, fun _ _ => rfl, rfl, rfl, rfl⟩

theorem withPairs (h : UpToSettings P t t') {ps ps' : Pairs} (hps : P ps) (hps' : P ps')
    (hpairs : ∀ key ∉ identityKeys, ps.get? key = ps'.get? key) :
    UpToSettings P { t with pairs := ps } { t' with pairs := ps' } :=
  ⟨hps, hps', hpairs, h.plugins, h.registry, h.callback⟩

theorem withRegistry (h : UpToSettings P t t') (r : Registry) :
    UpToSettings P { t with registry := r } { t' with registry := r } :=
  ⟨h.kept, h.kept', h.pairs, h.plugins, rfl, h.callback⟩

variable (hP : Pairs.IsKept P)
include hP

theorem addPair (h : UpToSettings P t t') (key : String) (v : Value) :
    UpToSettings P (t.addPair key v) (t'.addPair key v) :=
  h.withPairs (hP.setNonNull h.kept key v) (hP.setNonNull h.kept' key v)
    fun k hk => Pairs.get?_setNonNull_congr (h.pairs k hk) key v

theorem addPairs (h : UpToSettings P t t') (more : Pairs) :
    UpToSettings P (t.addPairs more) (t'.addPairs more) :=
  h.withPairs (hP.setAllNonNull more h.kept) (hP.setAllNonNull more h.kept')
    fun k hk => Pairs.get?_setAllNonNull_congr (h.pairs k hk) more

theorem resetPairs (h : UpToSettings P t t') (more : Pairs) :
    UpToSettings P (t.resetPairs more) (t'.resetPairs more) :=
  h.withPairs (hP.setAllNonNull more hP.nil) (hP.setAllNonNull more hP.nil) fun _ _ => rfl

theorem set (h : UpToSettings P t t') (setting : Setting) :
    UpToSettings P (t.set setting) (t'.set setting) := by
  cases setting with
  | base64 v => exact ⟨h.kept, h.kept', h.pairs, h.plugins, h.registry, h.callback⟩
  | pair key v => exact h.addPair hP key v
  | pairs more => exact h.addPairs hP more
  | reset more => exact h.resetPairs hP more
  | screenResolution w h' => exact h.addPair hP "res" (dimensions w h')
  | viewport w h' => exact h.addPair hP "vp" (dimensions w h')
  | colorDepth v => exact h.addPair hP "cd" (.str v.text)

theorem withSettings (h : UpToSettings P t t') (c c' : Settings) :
    UpToSettings P (t.withSettings c) (t'.withSettings c') := by
  refine ⟨hP.replacePairs _ h.kept, hP.replacePairs _ h.kept', fun key hkey => ?_, h.plugins, h.registry,
    h.callback⟩
  rw [Tracker.withSettings, Tracker.withSettings, Pairs.get?_replacePairs_of_not_mem hkey,
    Pairs.get?_replacePairs_of_not_mem hkey, h.pairs key hkey]

end UpToSettings

namespace Operation

theorem agree_perform (hP : Pairs.IsKept P) (op : Operation) :
    Agree (Beside (UpToSettings P) (Session.UpToFacade (σ := σ))) Eq op.perform op.perform := by
  cases op with
  | adopt settings =>
    refine agree_modify ?_
    rintro ⟨t, s⟩ ⟨t', _⟩ ⟨ht, level, format, rfl⟩
    exact ⟨ht.withSettings hP settings settings, _, _, rfl⟩
  | call setter args =>
    have hset : Agree (Beside (UpToSettings P) (Session.UpToFacade (σ := σ))) Eq
        (Act.ofExcept (Setting.ofCall setter args) >>= fun setting =>
          modify fun (t, s) => (t.set setting, s))
        (Act.ofExcept (Setting.ofCall setter args) >>= fun setting =>
          modify fun (t, s) => (t.set setting, s)) := by
      refine (agree_ofExcept (outcomes_self _)).bind fun setting _ hsetting => ?_
      subst hsetting
      exact agree_modify fun _ _ h => ⟨h.1.set hP setting, h.2⟩
    have hreset : Agree (Beside (UpToSettings P) (Session.UpToFacade (σ := σ))) Eq
        (modify fun (t, s) => (t.resetPairs [], s)) (modify fun (t, s) => (t.resetPairs [], s)) :=
      agree_modify fun _ _ h => ⟨h.1.resetPairs hP [], h.2⟩
    rw [perform]
    unfold Tracker.call
    split
    . exact hreset.bind fun _ _ _ => hset
    . exact hset
  | change c =>
    cases c with
    | add contexts =>
      refine agree_subject.bind fun t t' ht => ?_
      rw [← ht.registry]
      refine (Registry.agree_add contexts t.registry).besideSubject.bind fun r _ hr => ?_
      subst hr
      exact agree_setSubject (ht.withRegistry r)
    | remove contexts =>
      refine agree_subject.bind fun t t' ht => ?_
      rw [← ht.registry]
      refine (Registry.agree_remove contexts t.registry).besideSubject.bind fun r _ hr => ?_
      subst hr
      exact agree_setSubject (ht.withRegistry r)
    | clear => exact agree_modify fun _ _ h => ⟨h.1.withRegistry .empty, h.2⟩

end Operation

theorem beside_performAll (hP : Pairs.IsKept P) (ops : List Operation) {st st' : Tracker × Session σ}
    (h : Beside (UpToSettings P) Session.UpToFacade st st') :
    Beside (UpToSettings P) Session.UpToFacade (performAll ops st) (performAll ops st') := by
  induction ops generalizing st st' with
  | nil => exact h
  | cons op ops ih =>
    obtain ⟨_, _, r, r', hrun, hrun', _, hr⟩ := op.agree_perform hP st st' h
    rw [performAll_cons, performAll_cons, hrun, hrun']
    exact ih hr

theorem kept_performAll (hP : Pairs.IsKept P) (ops : List Operation) (h : P t.pairs) (s : Session σ) :
    P (performAll ops (t, s)).1.pairs :=
  (beside_performAll hP ops ⟨.refl h, s.facade.level, s.facade.format, rfl⟩).1.kept

/-! ### Trackers that have adopted settings -/

structure HasAdopted (before : Tracker) (c : Settings) (after : Tracker) : Prop where
  version : after.pairs.get? "tv" = some (.str c.trackerVersion)
  trackerNamespace : after.pairs.get? "tna" = c.trackerNamespace.map .str
  appId : after.pairs.get? "aid" = c.appId.map .str
  platform : after.pairs.get? "p" = some (.str c.platform)
  others : ∀ key ∉ identityKeys, after.pairs.get? key = before.pairs.get? key
  rest : after = { before with settings := some c, base64 := .bool c.base64, pairs := after.pairs }

theorem get?_withSettings (c : Settings) (t : Tracker) {key : String} (hkey : key ∈ identityKeys) :
    (t.withSettings c).pairs.get? key = (Pairs.get? key (identity c)).filter fun v => !v.isNull := by
  have hkeys : (identity c).keys.Nodup := by
    rw [keys_identity]
    decide
  exact Pairs.get?_replacePairs hkeys hkey t.pairs

theorem filter_optional (text : Option String) :
    (some ((text.map Value.str).getD .null)).filter (fun v => !v.isNull) = text.map Value.str := by
  cases text <;> rfl

theorem hasAdopted_withSettings (c : Settings) (t : Tracker) : t.HasAdopted c (t.withSettings c) where
  version := get?_withSettings c t (by decide)
  trackerNamespace := (get?_withSettings c t (by decide)).trans (filter_optional c.trackerNamespace)
  appId := (get?_withSettings c t (by decide)).trans (filter_optional c.appId)
  platform := get?_withSettings c t (by decide)
  others _ hkey := Pairs.get?_replacePairs_of_not_mem hkey t.pairs
  rest := rfl

theorem upToSettings_withSettings (hP : Pairs.IsKept P) (h : P t.pairs) (c : Settings) :
    UpToSettings P (t.withSettings c) t :=
  ⟨hP.replacePairs _ h, h, fun _ hkey => Pairs.get?_replacePairs_of_not_mem hkey t.pairs, rfl, rfl, rfl⟩

/-- What trackers up to settings still differ in is gone once they have adopted the same ones. -/
theorem UpToSettings.matches_withSettings (h : UpToSettings P t t') (c : Settings) :
    (t.withSettings c).Matches (t'.withSettings c) := by
  refine ⟨(t'.withSettings c).pairs, ?_, fun key => ?_⟩
  . unfold Tracker.withSettings
    rw [h.plugins, h.registry, h.callback]
  . by_cases hkey : key ∈ identityKeys
    . rw [get?_withSettings c t hkey, get?_withSettings c t' hkey]
    . exact (Pairs.get?_replacePairs_of_not_mem hkey t.pairs).trans
        ((h.pairs key hkey).trans (Pairs.get?_replacePairs_of_not_mem hkey t'.pairs).symm)

theorem adopt_run (c : Settings) (t : Tracker) (s : Session σ) :
    adopt c (t, s) = (.ok (), t.withSettings c,
      { s with facade := { s.facade with level := c.logLevel, format := c.logFormat } }) :=
  rfl

end Tracker

/-! ### Builders that are prepared -/

structure Builder.Matches (b b' : Builder) : Prop where
  opened : b.built = none
  rest : b' = { b with pairs := b'.pairs }
  pairs : ∀ key, b.pairs.get? key = b'.pairs.get? key

namespace Builder

variable {b b' : Builder}

theorem Matches.opened' (h : Matches b b') : b'.built = none := by
  rw [h.rest]
  exact h.opened

theorem Matches.withPairs (h : Matches b b') {ps ps' : Pairs} (hps : ∀ key, ps.get? key = ps'.get? key) :
    Matches { b with pairs := ps } { b' with pairs := ps' } := by
  refine ⟨h.opened, ?_, hps⟩
  rw [h.rest]

theorem Matches.install (h : Matches b b') (p : Processor) : Outcomes Matches (b.install p) (b'.install p) := by
  rw [install_of_open h.opened, install_of_open h.opened']
  refine .ok ⟨h.opened, ?_, h.pairs⟩
  rw [h.rest]

theorem Matches.add (h : Matches b b') (key : String) (v : Value) :
    Outcomes Matches (b.add key v) (b'.add key v) := by
  rw [add_of_open h.opened, add_of_open h.opened']
  exact .ok (h.withPairs fun k => Pairs.get?_setNonNull_congr (h.pairs k) key v)

theorem Matches.addAll (h : Matches b b') {more more' : Pairs} (hmore : more.keys.Nodup)
    (hmore' : more'.keys.Nodup) (hpairs : ∀ key, more.get? key = more'.get? key) :
    Outcomes Matches (b.addAll more) (b'.addAll more') := by
  rw [addAll_of_open h.opened, addAll_of_open h.opened']
  refine .ok (h.withPairs fun key => ?_)
  rw [Pairs.get?_setAllNonNull hmore, Pairs.get?_setAllNonNull hmore', hpairs, h.pairs]

end Builder

namespace Tracker

variable {t t' : Tracker}

theorem Matches.agree_prepare (h : t.Matches t') (hkeys : t.pairs.keys.Nodup) (hkeys' : t'.pairs.keys.Nodup)
    (timestamp : Timestamp) :
    Agree (Beside Builder.Matches (Eq (α := Session σ))) Eq (t.prepare timestamp) (t'.prepare timestamp) := by
  obtain ⟨ps, rfl, hpairs⟩ := h
  have hidentifier : Agree Eq Eq (Session.nextIdentifier (σ := σ)) Session.nextIdentifier := by
    rintro s _ rfl
    exact ⟨_, _, _, _, rfl, rfl, outcomes_self _, rfl⟩
  refine (agree_updateSubject fun b b' hb => hb.install _).bind fun _ _ _ => ?_
  refine hidentifier.besideSubject.bind fun id _ hid => ?_
  subst hid
  refine (agree_updateSubject fun b b' hb => hb.add _ _).bind fun _ _ _ => ?_
  refine (agree_updateSubject fun b b' hb => hb.addAll hkeys hkeys' hpairs).bind fun _ _ _ => ?_
  refine agree_get.bind ?_
  rintro ⟨b, s⟩ ⟨b', _⟩ ⟨-, rfl⟩
  refine (agree_ofExcept (outcomes_self _)).bind fun time _ htime => ?_
  subst htime
  exact agree_updateSubject fun b b' hb => hb.add _ _

theorem Matches.track_eq (h : t.Matches t') (users : Users σ) (contexts : Value) (timestamp : Timestamp) :
    ∃ rest : Act (Builder × Session σ) Pairs,
      t.track users contexts timestamp = (do t.prepare timestamp; rest)
      ∧ t'.track users contexts timestamp = (do t'.prepare timestamp; rest) := by
  obtain ⟨ps, rfl, -⟩ := h
  exact ⟨_, rfl, rfl⟩

/--
Adopting settings sets the pairs that they tell, removes those that they leave open, and changes nothing but these,
the encoding, and the level and the format of the facade. So nothing is left of settings that have been replaced:
whatever has been done in between, a tracker that has adopted others before is the same as one that has not, up to
the order of its pairs; it prepares every open builder alike, and tracks it in the same way from then on.
-/
theorem adopt_last (hkeys : t.pairs.keys.Nodup) (s : Session σ) (c₁ c₂ : Settings) (ops : List Operation) :
    (∃ t', adopt c₂ (t, s)
        = (.ok (), t', { s with facade := { s.facade with level := c₂.logLevel, format := c₂.logFormat } })
      ∧ t.HasAdopted c₂ t')
    ∧ ∃ t₁ t₂ s',
      performAll (.adopt c₁ :: ops ++ [.adopt c₂]) (t, s) = (t₁, s')
      ∧ performAll (ops ++ [.adopt c₂]) (t, s) = (t₂, s')
      ∧ t₁.Matches t₂
      ∧ ∀ (users : Users σ) contexts timestamp, ∃ rest : Act (Builder × Session σ) Pairs,
          t₁.track users contexts timestamp = (do t₁.prepare timestamp; rest)
          ∧ t₂.track users contexts timestamp = (do t₂.prepare timestamp; rest)
          ∧ Agree (Beside Builder.Matches Eq) Eq (t₁.prepare (σ := σ) timestamp) (t₂.prepare timestamp) := by
  refine ⟨⟨_, adopt_run c₂ t s, hasAdopted_withSettings c₂ t⟩, ?_⟩
  have hstart : Beside (UpToSettings fun ps => ps.keys.Nodup) (Session.UpToFacade (σ := σ))
      ((Operation.adopt c₁).perform (t, s)).2 (t, s) :=
    ⟨upToSettings_withSettings Pairs.isKept_nodup hkeys c₁, s.facade.level, s.facade.format, rfl⟩
  have hops := beside_performAll Pairs.isKept_nodup ops hstart
  rcases hrun : performAll ops ((Operation.adopt c₁).perform (t, s)).2 with ⟨u, r⟩
  rcases hrun' : performAll ops (t, s) with ⟨u', r'⟩
  rw [hrun, hrun'] at hops
  obtain ⟨hu, level, format, hr⟩ := hops
  dsimp only at hr
  subst hr
  have hmatches := hu.matches_withSettings c₂
  refine ⟨u.withSettings c₂, u'.withSettings c₂,
    { r with facade := { r.facade with level := c₂.logLevel, format := c₂.logFormat } }, ?_, ?_, hmatches, ?_⟩
  . rw [performAll_append]
    exact congrArg (performAll [.adopt c₂]) hrun
  . rw [performAll_append]
    exact congrArg (performAll [.adopt c₂]) hrun'
  . intro users contexts timestamp
    obtain ⟨rest, htrack, htrack'⟩ := hmatches.track_eq users contexts timestamp
    exact ⟨rest, htrack, htrack', hmatches.agree_prepare (Pairs.isKept_nodup.replacePairs _ hu.kept)
      (Pairs.isKept_nodup.replacePairs _ hu.kept') timestamp⟩

def withAppId : Settings := { Settings.defaults with appId := some "old", base64 := false, logLevel := .debug }

def resetAndUser : List Operation :=
  [.call "set_app_id" [.str "other"], .call "reset_payload_pairs" [.int 1],
    .change (.add (.list [.int 1])), .call "set_user_id" [.str "someone"]]

def namedBefore : Tracker :=
  (performAll [.adopt .defaults, .call "set_tracker_namespace" [.str "before"]]
    (default, Session.initial () (.whole 0) "" toString)).1

theorem adopt_last_withAppId :
    namedBefore.pairs.keys.Nodup
      ∧ ∃ t₁ t₂ s',
        performAll (.adopt withAppId :: resetAndUser ++ [.adopt .defaults])
            (namedBefore, Session.initial () (.whole 0) "" toString) = (t₁, s')
        ∧ performAll (resetAndUser ++ [.adopt .defaults])
            (namedBefore, Session.initial () (.whole 0) "" toString) = (t₂, s')
        ∧ t₁.Matches t₂
        ∧ t₁.pairs.keys = ["uid", "tv", "p"]
        ∧ s'.facade.level = .warn := by
  have hkeys : namedBefore.pairs.keys.Nodup :=
    kept_performAll (t := default) Pairs.isKept_nodup _ List.nodup_nil _
  obtain ⟨-, t₁, t₂, s', hrun, hrun', hmatches, -⟩ :=
    adopt_last hkeys (Session.initial () (.whole 0) "" toString) withAppId .defaults resetAndUser
  have hcomputed :
      let st := performAll (.adopt withAppId :: resetAndUser ++ [.adopt .defaults])
        (namedBefore, Session.initial () (.whole 0) "" toString)
      st.1.pairs.keys = ["uid", "tv", "p"] ∧ st.2.facade.level = .warn := by
    decide +kernel
  rw [hrun] at hcomputed
  exact ⟨hkeys, t₁, t₂, s', hrun, hrun', hmatches, hcomputed.1, hcomputed.2⟩

end Tracker

end EventTracking
