import EventTracking.Proofs.Payload.Texts
import EventTracking.Proofs.Tracker.Adoption
import EventTracking.Proofs.Tracker.Contexts

/-!
This module contains the theorem on the pairs of a tracked event: the order in which a tracker that calls nothing
lays its sources of pairs over those of the builder, and what this means for values and places.
-/

namespace EventTracking

open Act Processing

namespace Tracker

variable {σ : Type} {users : Users σ} {t : Tracker} {b : Builder} {s : Session σ}

/-! ### Trackers that have only been configured -/

def Operation.isConfiguration : Operation → Bool
  | .adopt _ | .call .. => true
  | .change _ => false

inductive Configured (users : Users σ) : Tracker → Prop where
  | created {settings : Settings} {t : Tracker} {s s' : Session σ}
      (run : create users settings .null [] s = (.ok t, s')) : Configured users t
  | performed {op : Operation} {t t' : Tracker} {s s' : Session σ} {outcome : Except Fault Unit}
      (reached : Configured users t) (configures : op.isConfiguration = true)
      (run : op.perform (t, s) = (outcome, t', s')) : Configured users t'

theorem set_eq (setting : Setting) (t : Tracker) :
    t.set setting = { t with base64 := (t.set setting).base64, pairs := (t.set setting).pairs } := by
  cases setting <;> rfl

theorem call_run (setter : String) (args : List Value) (t : Tracker) (s : Session σ) :
    ∃ outcome base64 ps, call setter args (t, s) = (outcome, { t with base64 := base64, pairs := ps }, s)
      ∧ ∀ {P : Pairs → Prop}, Pairs.IsKept P → P t.pairs → P ps := by
  have hset : ∀ t : Tracker, ∃ outcome base64 ps,
      (Act.ofExcept (Setting.ofCall setter args) >>= fun setting =>
          (modify fun st => (st.1.set setting, st.2) : Act (Tracker × Session σ) Unit)) (t, s)
        = (outcome, { t with base64 := base64, pairs := ps }, s)
      ∧ ∀ {P : Pairs → Prop}, Pairs.IsKept P → P t.pairs → P ps := by
    intro t
    cases Setting.ofCall setter args with
    | ok setting =>
      refine ⟨.ok (), _, _, congrArg (fun t => (Except.ok (), t, s)) (t.set_eq setting), fun hP h => ?_⟩
      exact ((UpToSettings.refl h).set hP setting).kept
    | error fault => exact ⟨.error fault, t.base64, t.pairs, rfl, fun _ h => h⟩
  unfold call
  split
  . obtain ⟨outcome, base64, ps, hrun, hkept⟩ := hset (t.resetPairs [])
    exact ⟨outcome, base64, ps, hrun, fun hP _ => hkept hP hP.nil⟩
  . exact hset t

theorem perform_configuration {op : Operation} (h : op.isConfiguration = true) (t : Tracker) (s : Session σ) :
    ∃ outcome settings base64 ps s',
      op.perform (t, s) = (outcome, { t with settings := settings, base64 := base64, pairs := ps }, s')
      ∧ ∀ {P : Pairs → Prop}, Pairs.IsKept P → P t.pairs → P ps := by
  cases op with
  | adopt settings => exact ⟨_, _, _, _, _, rfl, fun hP h => hP.replacePairs _ h⟩
  | call setter args =>
    obtain ⟨outcome, base64, ps, hrun, hkept⟩ := call_run setter args t s
    exact ⟨outcome, t.settings, base64, ps, s, hrun, hkept⟩
  | change => cases h

theorem create_run (users : Users σ) (settings : Settings) (s : Session σ) :
    ∃ s', create users settings .null [] s
      = (.ok (withSettings settings ⟨some settings, .bool settings.base64, [], [], .empty, .null⟩), s') :=
  ⟨_, rfl⟩

structure IsBare (t : Tracker) : Prop where
  plugins : t.plugins = []
  registry : t.registry = .empty
  callback : t.callback = .null
  nonNull : ∀ p ∈ t.pairs, p.2.isNull = false

theorem Configured.isBare (h : Configured users t) : t.IsBare := by
  induction h with
  | @created settings t s s' run =>
    obtain ⟨_, hcreate⟩ := create_run users settings s
    cases run.symm.trans hcreate
    exact ⟨rfl, rfl, rfl, Pairs.isKept_nonNull.replacePairs _ Pairs.isKept_nonNull.nil⟩
  | @performed op t t' s s' outcome _ configures run ih =>
    obtain ⟨_, _, _, ps, _, hperform, hkept⟩ := perform_configuration configures t s
    cases run.symm.trans hperform
    exact ⟨ih.plugins, ih.registry, ih.callback, hkept Pairs.isKept_nonNull ih.nonNull⟩

theorem Configured.performAll (h : Configured users t) {ops : List Operation}
    (hops : ∀ op ∈ ops, op.isConfiguration = true) (s : Session σ) :
    Configured users (performAll ops (t, s)).1 := by
  induction ops generalizing t s with
  | nil => exact h
  | cons op ops ih =>
    obtain ⟨hop, hops⟩ := List.forall_mem_cons.1 hops
    exact ih (h.performed hop rfl) hops _

theorem IsBare.harmless (h : t.IsBare) (users : Users σ) : t.Harmless users where
  primitives := by simp [h.registry, Registry.empty]
  providers := by simp [h.registry, Registry.empty]
  plugins := by simp [h.plugins]
  callback := .inl h.callback

theorem eq_nil_of_inTurn {ι S α : Type} {contributes : ι → S → List α → S → Prop} {s s' : S} {vs : List α}
    (h : InTurn contributes [] s vs s') : vs = [] := by
  cases h
  rfl

theorem IsBare.all_eq_given (h : t.IsBare) {contexts : Value} {src : Sources}
    (hdraws : t.Draws users contexts b s src) : src.all = src.given := by
  obtain ⟨⟨unconditional, conditional, _, contributed⟩, _, hooked, called⟩ := hdraws
  rw [h.registry] at unconditional conditional
  rw [h.plugins] at contributed hooked
  have hcalled : src.called = [] := by
    generalize (b.attached src.all, _) = st at called
    generalize src.called = vs at called ⊢
    rw [h.callback] at called
    cases called
    rfl
  rw [Sources.all, hcalled, eq_nil_of_inTurn hooked, Gathered.entities, eq_nil_of_inTurn unconditional,
    eq_nil_of_inTurn conditional, eq_nil_of_inTurn contributed]
  simp

/-! ### Layers of pairs -/

def contextsPairs (encode : Bool) (b : Builder) : Pairs :=
  ((Progress.ofBuilder encode b).contexts.map fun document =>
    (contextsKey encode, Value.str (textOf encode (.object document)))).toList

theorem not_mem_keys_contextsPairs (encode : Bool) (b : Builder) {key : String} (h : key ≠ contextsKey encode) :
    key ∉ (contextsPairs encode b).keys := by
  unfold contextsPairs
  cases (Progress.ofBuilder encode b).contexts with
  | none => exact List.not_mem_nil
  | some document => exact fun hmem => h (List.mem_singleton.1 hmem)

/--
What a tracker lays over the pairs of a builder, in this order: the identifier of the event, its own pairs, the time,
the waiting objects and the contexts document, to which the contexts documents among what waits belong.
-/
def overlay (t : Tracker) (id time : String) (timestamp : Timestamp) (given : List Value) (b : Builder) : Pairs :=
  [("eid", .str id)] ++ t.pairs ++ [(timestamp.key, .str time)] ++ writes t.base64.truthy b.deferred
    ++ contextsPairs t.base64.truthy ((t.prepared id time timestamp b).attached given)

theorem standardPayload_eq_overlay (hpairs : ∀ p ∈ t.pairs, p.2.isNull = false) (id time : String)
    (timestamp : Timestamp) (given : List Value) (b : Builder) :
    ((t.prepared id time timestamp b).attached given).standardPayload t.base64.truthy
      =
    Pairs.setAll (t.overlay id time timestamp given b) b.pairs := by
  have hprepared : ((t.prepared id time timestamp b).attached given).pairs
      = Pairs.setAll ([("eid", .str id)] ++ t.pairs ++ [(timestamp.key, .str time)]) b.pairs := by
    rw [Pairs.setAll_append, Pairs.setAll_append, ← Pairs.setAllNonNull_eq_setAll hpairs]
    rfl
  have hdeferred : ((t.prepared id time timestamp b).attached given).deferred = b.deferred := rfl
  rw [Builder.standardPayload, written_ofBuilder, outputs, texts, List.map_append, ← texts, texts_ownOutputs,
    hprepared, hdeferred, ← Pairs.setAll_append, overlay, ← List.append_assoc]
  congr 2
  rw [contextsPairs]
  cases (Progress.ofBuilder _ _).contexts <;> rfl

def LeavesTimes (t : Tracker) (b : Builder) : Prop :=
  ∀ key ∈ [Timestamp.trustedKey, Timestamp.deviceKey],
    key ∉ b.pairs.keys ∧ key ∉ t.pairs.keys ∧ key ∉ (writes t.base64.truthy b.deferred).keys

theorem key_mem (timestamp : Timestamp) : timestamp.key ∈ [Timestamp.trustedKey, Timestamp.deviceKey] := by
  cases timestamp <;> simp [Timestamp.key]

theorem ne_of_mem_timeKeys {key : String} (hkey : key ∈ [Timestamp.trustedKey, Timestamp.deviceKey])
    (encode : Bool) : key ≠ "eid" ∧ key ≠ contextsKey encode := by
  rw [List.mem_cons, List.mem_singleton] at hkey
  rcases hkey with rfl | rfl <;> cases encode <;> decide

theorem get?_overlay_of_leavesTimes (h : t.LeavesTimes b) (id time : String) (timestamp : Timestamp)
    (given : List Value) :
    (Pairs.setAll (t.overlay id time timestamp given b) b.pairs).get? timestamp.key = some (.str time)
      ∧ ∀ key ∈ [Timestamp.trustedKey, Timestamp.deviceKey], key ≠ timestamp.key →
          (Pairs.setAll (t.overlay id time timestamp given b) b.pairs).get? key = none := by
  let later := writes t.base64.truthy b.deferred
    ++ contextsPairs t.base64.truthy ((t.prepared id time timestamp b).attached given)
  have hlater : ∀ key ∈ [Timestamp.trustedKey, Timestamp.deviceKey], key ∉ later.keys := by
    intro key hkey
    rw [Pairs.keys, List.map_append, List.mem_append, not_or]
    exact ⟨(h key hkey).2.2, not_mem_keys_contextsPairs _ _ (ne_of_mem_timeKeys hkey _).2⟩
  have hoverlay : Pairs.setAll (t.overlay id time timestamp given b) b.pairs
      = Pairs.setAll later
          ((Pairs.setAll ([("eid", .str id)] ++ t.pairs) b.pairs).set timestamp.key (.str time)) := by
    simp only [overlay, later, Pairs.setAll_append]
    rfl
  rw [hoverlay]
  refine ⟨?_, fun key hkey hother => ?_⟩
  . rw [Pairs.get?_setAll_of_not_mem (hlater _ (key_mem timestamp)), Pairs.get?_set_self]
  . have hbefore : key ∉ Pairs.keys ([("eid", .str id)] ++ t.pairs) :=
      fun hmem => (List.mem_cons.1 hmem).elim (ne_of_mem_timeKeys hkey true).1 (h key hkey).2.1
    rw [Pairs.get?_setAll_of_not_mem (hlater key hkey), Pairs.get?_set_of_ne hother,
      Pairs.get?_setAll_of_not_mem hbefore, Pairs.get?_eq_none_iff]
    exact (h key hkey).1

/--
A tracker that has only been configured tracks an open builder by laying its sources of pairs over those of the
builder. Under each key stands what the last source has set there, and the keys stand in the order in which they
were first set. No pair of the tracker is null, and the time stands under one key alone if nothing else uses the keys
of timestamps.
-/
theorem track_overlay (h : Configured users t) {contexts : Value} {given : List Value}
    (hgiven : AreGiven contexts given) (hgivenDocuments : ∀ v ∈ given, v.IsSerializable)
    (hopen : b.built = none) (hdocuments : HasDocuments b) {timestamp : Timestamp} {n : Int}
    (hshows : timestamp.Shows s.now n)
    (hreads : ReadsContexts t.base64.truthy
      ((t.prepared (s.identifier s.issued) (toString n) timestamp b).attached given)) :
    ∃ payload b' s' layers, t.track users contexts timestamp (b, s) = (.ok payload, b', s')
      ∧ layers = t.overlay (s.identifier s.issued) (toString n) timestamp given b
      ∧ (∀ key, payload.get? key
          = ((layers.filter (·.1 == key)).getLast?.map (·.2)).or (b.pairs.get? key))
      ∧ payload.keys = b.pairs.keys ++ (layers.keys.filter (· ∉ b.pairs.keys)).eraseDups
      ∧ (∀ p ∈ t.pairs, p.2.isNull = false)
      ∧ (t.LeavesTimes b → payload.get? timestamp.key = some (.str (toString n))
          ∧ ∀ key ∈ [Timestamp.trustedKey, Timestamp.deviceKey], key ≠ timestamp.key →
              payload.get? key = none) := by
  have hbare := h.isBare
  obtain ⟨src, hsrcGiven, hdraws, _, hreturns, _⟩ :=
    track_run (hbare.harmless users) hgiven hgivenDocuments hopen hdocuments hshows.time
  rw [completed, hbare.all_eq_given hdraws, hsrcGiven] at hreturns
  obtain ⟨b', s', htrack⟩ := hreturns hreads
  rw [standardPayload_eq_overlay hbare.nonNull] at htrack
  exact ⟨_, b', s', _, htrack, rfl, fun key => Pairs.get?_setAll key _ _, Pairs.keys_setAll _ _, hbare.nonNull,
    fun htimes => get?_overlay_of_leavesTimes htimes _ _ timestamp given⟩

def pinned : Tracker :=
  (performAll [.call "set_base64_encoding" [.bool false], .call "add_payload_pair" [.str "eid", .str "pinned"],
      .call "set_user_id" [.null]]
    (withSettings .defaults ⟨some .defaults, .bool true, [], [], .empty, .null⟩, epoch)).1

theorem configured_pinned : Configured namesakes pinned := by
  obtain ⟨_, hcreate⟩ := create_run namesakes .defaults epoch
  exact (Configured.created hcreate).performAll (by decide) epoch

def pageView : Builder where
  pairs := [("e", .str "pv"), ("eid", .str "own")]
  deferred := [⟨"ue_px", "ue_pr", [(.str "a", .str "b")]⟩]
  entities := []
  processor := none
  built := none

theorem hasDocuments_pageView : HasDocuments pageView where
  deferred := List.forall_mem_singleton.2 ⟨.obj [("a", .str "b")], rfl⟩
  entities := by simp [pageView]

theorem shows_half : (Timestamp.trusted (.float (.ofRatio false 1 2))).Shows epoch.now 0 where
  truncates := Value.truncates_iff.2 rfl
  writable := isWritableInteger_zero

theorem reads_pageView :
    ReadsContexts pinned.base64.truthy ((pinned.prepared "0" (toString (0 : Int))
      (.trusted (.float (.ofRatio false 1 2))) pageView).attached [entityNamed "given"]) := by
  intro _
  decide +kernel

theorem track_overlay_pinned :
    ∃ payload b' s',
      pinned.track namesakes (.list [entityNamed "given"]) (.trusted (.float (.ofRatio false 1 2)))
        (pageView, epoch) = (.ok payload, b', s')
      ∧ payload.keys = ["e", "eid", "tv", "p", "ttm", "ue_pr", "co"]
      ∧ payload.get? "eid" = some (.str "pinned")
      ∧ payload.get? "ttm" = some (.str "0") := by
  have hgiven : AreGiven (.list [entityNamed "given"]) [entityNamed "given"] := .inr rfl
  obtain ⟨payload, b', s', layers, htrack, hlayers, hget, hkeys, -, htimes⟩ :=
    track_overlay configured_pinned hgiven (fun _ => isSerializable_of_mem_named) rfl hasDocuments_pageView
      shows_half reads_pageView
  have hunused : pinned.LeavesTimes pageView := by
    unfold LeavesTimes
    decide +kernel
  have hlayerKeys : layers.keys = ["eid", "tv", "p", "eid", "ttm", "ue_pr", "co"] := by
    rw [hlayers]
    decide +kernel
  refine ⟨payload, b', s', htrack, ?_, ?_, (htimes hunused).1⟩
  . rw [hkeys, hlayerKeys]
    decide +kernel
  . rw [hget, hlayers]
    rfl

end Tracker

end EventTracking
