import EventTracking.Proofs.Json.Grammar
import EventTracking.Proofs.Payload.Deferred
import EventTracking.Proofs.Payload.Obstacles

/-!
This module contains the theorem on the texts that a build writes: which ones it writes, how ever it ends,
and that each belongs to the grammar of JSON exactly if all floating point numbers of its value are finite.
-/

namespace EventTracking

/-! ### Values with finite numbers -/

namespace Value

mutual

/-- Whether all floating point numbers of a value are finite; as keys they become names and do not count. -/
def isFinite : Value → Bool
  | .float x => Json.isFiniteScalar (.float x)
  | .nan _ => false
  | .list xs => areFinite xs
  | .tuple xs => areFinite xs
  | .object es => areFiniteEntries es
  | _ => true

def areFinite : List Value → Bool
  | [] => true
  | x :: xs => x.isFinite && areFinite xs

def areFiniteEntries : List (Value × Value) → Bool
  | [] => true
  | (_, v) :: rest => v.isFinite && areFiniteEntries rest

end

theorem areFinite_iff {xs : List Value} : areFinite xs = true ↔ ∀ x ∈ xs, x.isFinite = true := by
  induction xs with
  | nil => simp [areFinite]
  | cons x xs ih => rw [areFinite, Bool.and_eq_true, ih, List.forall_mem_cons]

theorem areFiniteEntries_iff {es : List (Value × Value)} :
    areFiniteEntries es = true ↔ ∀ e ∈ es, e.2.isFinite = true := by
  induction es with
  | nil => simp [areFiniteEntries]
  | cons e es ih => rw [areFiniteEntries, Bool.and_eq_true, ih, List.forall_mem_cons]

theorem hereditary_isFinite : Hereditary (fun v => v.isFinite = true) fun _ => True where
  str _ := rfl
  key _ := trivial
  list_iff _ := areFinite_iff
  tuple_iff _ := areFinite_iff
  object_iff es := by
    rw [isFinite, areFiniteEntries_iff]
    simp

end Value

namespace Json

mutual

theorem isFinite_of_ofData (v : Value) (j : Json) (h : ofData v = .ok j) : j.isFinite = v.isFinite := by
  unfold ofData at h
  cases v with
  | null | bool | float | nan | str =>
    simp only [ofValue, Except.ok.injEq] at h
    subst h
    rfl
  | int n =>
    rw [ofValue] at h
    obtain ⟨_, _, rfl⟩ := exists_of_map_eq_ok h
    rfl
  | list xs | tuple xs =>
    rw [ofValue] at h
    obtain ⟨js, hjs, rfl⟩ := exists_of_map_eq_ok h
    exact areFinite_of_ofItems xs js hjs
  | object es =>
    rw [ofValue] at h
    obtain ⟨ms, hms, rfl⟩ := exists_of_map_eq_ok h
    exact areFinite_of_ofEntries es ms hms
  | _ => simp [ofValue] at h

theorem areFinite_of_ofItems (xs : List Value) (js : List Json) (h : ofItems (fun _ => none) xs = .ok js) :
    everyItem isFiniteScalar js = Value.areFinite xs := by
  match xs with
  | [] =>
    cases h
    rfl
  | x :: xs =>
    obtain ⟨j, js, hx, hjs, rfl⟩ := ofItems_cons_eq_ok_iff.1 h
    exact congrArg₂ and (isFinite_of_ofData x j hx) (areFinite_of_ofItems xs js hjs)

theorem areFinite_of_ofEntries (es : List (Value × Value)) (ms : List (String × Json))
    (h : ofEntries (fun _ => none) es = .ok ms) :
    everyMember isFiniteScalar ms = Value.areFiniteEntries es := by
  match es with
  | [] =>
    cases h
    rfl
  | (k, v) :: es =>
    obtain ⟨_, j, ms, _, hj, hms, rfl⟩ := ofEntries_cons_eq_ok_iff.1 h
    exact congrArg₂ and (isFinite_of_ofData v j hj) (areFinite_of_ofEntries es ms hms)

end

end Json

namespace Processing

variable {encode : Bool} {b : Builder} {ds : List Deferred} {before after : Pairs} {output : String × Value}

/-! ### Texts of values -/

/-- Whether a text on a payload, taken out of base64 if need be, belongs to the grammar of JSON. -/
def IsJsonText (encode : Bool) (text : String) : Prop :=
  ∃ plain, (if encode then (Base64.decode text).toOption else some text) = some plain
    ∧ Json.FormsText plain.toList

theorem isJsonText_textOf_iff (encode : Bool) {v : Value} (h : v.IsSerializable) :
    IsJsonText encode (textOf encode v) ↔ v.isFinite = true := by
  obtain ⟨j, hj⟩ := h
  have hplain : (if encode then (Base64.decode (textOf encode v)).toOption else some (textOf encode v))
      = some (j.render .compact) := by
    rw [textOf, payloadText, hj]
    cases encode with
    | false => rfl
    | true => simp [Except.toOption, Base64.decode_encode]
  rw [IsJsonText, hplain, ← Json.isFinite_of_ofData v j hj, ← Json.formsText_render_iff .compact j]
  simp

/-! ### What is written -/

def ownOutputs (encode : Bool) (ds : List Deferred) : Pairs :=
  (ds.filter fun d => !isContexts d).map fun d => (chosenKey encode d, d.json)

def outputs (encode : Bool) (b : Builder) : Pairs :=
  ownOutputs encode b.deferred
    ++ ((Progress.ofBuilder encode b).contexts.map fun document =>
      (contextsKey encode, .object document)).toList

def writable (ps : Pairs) : Pairs := ps.takeWhile fun p => (Json.ofData p.2).toOption.isSome

def texts (encode : Bool) (ps : Pairs) : Pairs := ps.map fun p => (p.1, .str (textOf encode p.2))

theorem isSome_ofData_iff {v : Value} : (Json.ofData v).toOption.isSome = true ↔ v.IsSerializable := by
  unfold Value.IsSerializable
  cases Json.ofData v <;> simp [Except.toOption]

theorem isSerializable_of_mem_writable {ps : Pairs} (h : output ∈ writable ps) : output.2.IsSerializable := by
  rw [← isSome_ofData_iff]
  exact List.mem_takeWhile_imp (p := fun q : String × Value => (Json.ofData q.2).toOption.isSome) h

theorem writable_eq_self_iff {ps : Pairs} : writable ps = ps ↔ ∀ p ∈ ps, p.2.IsSerializable := by
  rw [writable, List.takeWhile_eq_self_iff]
  simp only [isSome_ofData_iff]

theorem writable_of_obstacle (hbefore : ∀ p ∈ before, p.2.IsSerializable)
    (houtput : ¬ output.2.IsSerializable) : writable (before ++ output :: after) = before := by
  unfold writable
  rw [List.takeWhile_append_of_pos fun p hp => isSome_ofData_iff.2 (hbefore p hp),
    List.takeWhile_cons_of_neg (by rwa [isSome_ofData_iff]), List.append_nil]

theorem exists_first_obstacle {ps : Pairs} (h : ¬ ∀ p ∈ ps, p.2.IsSerializable) :
    ∃ before output after, ps = before ++ output :: after ∧ (∀ p ∈ before, p.2.IsSerializable)
      ∧ ¬ output.2.IsSerializable := by
  induction ps with
  | nil => simp at h
  | cons p ps ih =>
    by_cases hp : p.2.IsSerializable
    . rw [List.forall_mem_cons, not_and] at h
      obtain ⟨before, output, after, rfl, hbefore, houtput⟩ := ih (h hp)
      exact ⟨p :: before, output, after, rfl, List.forall_mem_cons.2 ⟨hp, hbefore⟩, houtput⟩
    . exact ⟨[], p, ps, rfl, by simp, hp⟩

theorem ownOutputs_cons (encode : Bool) (d : Deferred) (ds : List Deferred) :
    ownOutputs encode (d :: ds)
      =
    (if isContexts d then [] else [(chosenKey encode d, d.json)]) ++ ownOutputs encode ds := by
  unfold ownOutputs
  cases hd : isContexts d <;> simp [hd]

theorem ownOutputs_append (encode : Bool) (ds ds' : List Deferred) :
    ownOutputs encode (ds ++ ds') = ownOutputs encode ds ++ ownOutputs encode ds' := by
  simp [ownOutputs]

theorem forall_mem_ownOutputs {P : Value → Prop} :
    (∀ p ∈ ownOutputs encode ds, P p.2) ↔ ∀ d ∈ ds, isContexts d = false → P d.json := by
  rw [ownOutputs, List.forall_mem_map]
  simp [and_imp]

theorem forall_mem_outputs {P : Value → Prop} :
    (∀ p ∈ outputs encode b, P p.2)
      ↔
    (∀ p ∈ ownOutputs encode b.deferred, P p.2)
      ∧ ∀ document, (Progress.ofBuilder encode b).contexts = some document → P (.object document) := by
  rw [outputs, List.forall_mem_append]
  simp

theorem texts_ownOutputs (encode : Bool) (ds : List Deferred) :
    texts encode (ownOutputs encode ds) = writes encode ds := by
  rw [texts, ownOutputs, List.map_map]
  rfl

/-! ### Runs up to an obstacle -/

theorem steps_of_obstacle (hds : ownOutputs encode ds = before ++ output :: after)
    (hbefore : ∀ p ∈ before, p.2.IsSerializable) (houtput : ¬ output.2.IsSerializable) {p : Progress}
    (hreads : ReadsFrom encode p ds) :
    ∃ o p', steps encode ds p = (.error (.notData o), p')
      ∧ p'.pairs = Pairs.setAll (texts encode before) p.pairs := by
  induction ds generalizing before p with
  | nil => simp [ownOutputs] at hds
  | cons d ds ih =>
    rw [ownOutputs_cons] at hds
    cases hd : isContexts d with
    | true =>
      -- A contexts document is merged without an obstacle and leaves the pairs as they are.
      rw [hd, if_pos rfl, List.nil_append] at hds
      have hstep : step encode d p = (.ok (), p.after encode d) :=
        step_run (fun hother => absurd (hd.symm.trans hother) (by decide)) hreads.first
      obtain ⟨o, p', hsteps, hpairs⟩ := ih hds hbefore hreads.rest
      refine ⟨o, p', ?_, ?_⟩
      . rw [steps, Act.bind_run hstep, hsteps]
      . rw [hpairs, Progress.after, if_pos hd, combine_pairs]
    | false =>
      rw [hd, if_neg Bool.false_ne_true, List.singleton_append] at hds
      cases before with
      | nil =>
        obtain ⟨rfl, rfl⟩ := List.cons.inj hds
        obtain ⟨o, hwrite⟩ := write_of_obstacle encode (chosenKey encode d) houtput p
        have hstep : step encode d p = (.error (.notData o), p) := by
          rw [step, hd, if_neg Bool.false_ne_true]
          exact hwrite
        refine ⟨o, p, ?_, rfl⟩
        rw [steps, Act.bind_run_error hstep]
      | cons first before =>
        obtain ⟨rfl, hrest⟩ := List.cons.inj hds
        obtain ⟨hfirst, hbefore⟩ := List.forall_mem_cons.1 hbefore
        have hstep : step encode d p = (.ok (), p.after encode d) := step_run (fun _ => hfirst) hreads.first
        obtain ⟨o, p', hsteps, hpairs⟩ := ih hrest hbefore hreads.rest
        refine ⟨o, p', ?_, ?_⟩
        . rw [steps, Act.bind_run hstep, hsteps]
        . rw [hpairs, Progress.after, hd, if_neg Bool.false_ne_true]
          rfl

theorem written_ofBuilder (encode : Bool) (b : Builder) :
    (Progress.ofBuilder encode b).written encode = Pairs.setAll (texts encode (outputs encode b)) b.pairs := by
  have hown : (Progress.ofBuilder encode b).pairs
      = Pairs.setAll (texts encode (ownOutputs encode b.deferred)) b.pairs := by
    rw [pairs_ofBuilder, texts_ownOutputs]
  rw [Progress.written, hown, outputs]
  cases (Progress.ofBuilder encode b).contexts with
  | none => simp
  | some document => simp [texts, Pairs.setAll]

def due (encode : Bool) (b : Builder) : Pairs :=
  if ReadsContexts encode b then outputs encode b else ownOutputs encode (ownBefore b.deferred)

/-- Whether processing writes what is writable of some outputs, and succeeds only if that is all. -/
def WritesInto (encode : Bool) (b : Builder) (ps : Pairs) : Prop :=
  ∃ outcome p, process encode b.deferred b.entities ⟨b.pairs, none, 0⟩ = (outcome, p)
    ∧ p.pairs = Pairs.setAll (texts encode (writable ps)) b.pairs
    ∧ (outcome = .ok () ↔ ReadsContexts encode b ∧ writable ps = ps)

theorem writesInto_of_obstacle {ps : Pairs} (hps : ps = before ++ output :: after)
    (hbefore : ∀ p ∈ before, p.2.IsSerializable) (houtput : ¬ output.2.IsSerializable) {f : Fault} {p : Progress}
    (hprocess : process encode b.deferred b.entities ⟨b.pairs, none, 0⟩ = (.error f, p))
    (hpairs : p.pairs = Pairs.setAll (texts encode before) b.pairs) : WritesInto encode b ps := by
  have hwritable : writable ps = before := by rw [hps, writable_of_obstacle hbefore houtput]
  refine ⟨_, p, hprocess, by rw [hpairs, hwritable], ?_⟩
  rw [hwritable, hps]
  simp

theorem writesInto_outputs (hreads : ReadsContexts encode b) : WritesInto encode b (outputs encode b) := by
  by_cases hown : ∀ p ∈ ownOutputs encode b.deferred, p.2.IsSerializable
  . have hdeferred := forall_mem_ownOutputs.1 hown
    by_cases hdocument : (Progress.ofBuilder encode b).IsSerializable
    . have hall : writable (outputs encode b) = outputs encode b := by
        rw [writable_eq_self_iff, forall_mem_outputs]
        exact ⟨hown, fun document h => Value.isSerializable_object.2 (hdocument document h)⟩
      rw [WritesInto, process_of_own hdeferred hreads, writeContexts_run hdocument, hall]
      exact ⟨_, _, rfl, written_ofBuilder encode b, by simp [hreads]⟩
    . simp only [Progress.IsSerializable, not_forall] at hdocument
      obtain ⟨document, hcontexts, hdocument⟩ := hdocument
      rw [← Value.isSerializable_object] at hdocument
      have houtputs : outputs encode b
          = ownOutputs encode b.deferred ++ (contextsKey encode, .object document) :: [] := by
        rw [outputs, hcontexts]
        rfl
      obtain ⟨o, hprocess⟩ := process_of_document hdeferred hreads hcontexts hdocument
      apply writesInto_of_obstacle houtputs hown hdocument hprocess
      rw [pairs_ofBuilder, texts_ownOutputs]
  . obtain ⟨before, output, after, hsplit, hbefore, houtput⟩ := exists_first_obstacle hown
    have hpending : ownOutputs encode (pending b) = before ++ output :: after := by
      rw [← hsplit, pending, ownOutputs_append]
      split <;> simp [ownOutputs, isContexts]
    obtain ⟨o, p, hsteps, hpairs⟩ := steps_of_obstacle hpending hbefore houtput hreads.readsFrom
    obtain ⟨rest, houtputs⟩ : ∃ rest, outputs encode b = before ++ output :: rest := by
      rw [outputs, hsplit, List.append_assoc, List.cons_append]
      exact ⟨_, rfl⟩
    have hprocess : process encode b.deferred b.entities ⟨b.pairs, none, 0⟩ = (.error (.notData o), p) := by
      rw [process_eq, Act.bind_run_error hsteps]
    exact writesInto_of_obstacle houtputs hbefore houtput hprocess hpairs

theorem writesInto_ownBefore {bracket : Json.Bracket} (hoverflows : Overflows encode bracket b) :
    WritesInto encode b (ownOutputs encode (ownBefore b.deferred)) := by
  have hdeep : ¬ ReadsContexts encode b := by
    intro hreads
    cases (hreads hoverflows.1).symm.trans hoverflows.2
  by_cases hown : ∀ p ∈ ownOutputs encode (ownBefore b.deferred), p.2.IsSerializable
  . have hbefore : ∀ d ∈ ownBefore b.deferred, d.json.IsSerializable := by
      intro d hd
      exact forall_mem_ownOutputs.1 hown d hd (isContexts_of_mem_ownBefore hd)
    refine ⟨_, _, process_of_overflow hbefore hoverflows, ?_, by simp [hdeep]⟩
    rw [writable_eq_self_iff.2 hown, texts_ownOutputs]
    rfl
  . obtain ⟨before, output, after, hsplit, hbefore, houtput⟩ := exists_first_obstacle hown
    have hreads : ReadsFrom encode ⟨b.pairs, none, 0⟩ (ownBefore b.deferred) := by
      rintro - ⟨d, hd, hcontexts⟩
      rw [isContexts_of_mem_ownBefore hd] at hcontexts
      cases hcontexts
    obtain ⟨o, p, hsteps, hpairs⟩ := steps_of_obstacle hsplit hbefore houtput hreads
    have hprocess : process encode b.deferred b.entities ⟨b.pairs, none, 0⟩ = (.error (.notData o), p) := by
      rw [process_eq, ← List.takeWhile_append_dropWhile (p := fun d => !isContexts d) (l := pending b),
        ← ownBefore, ownBefore_pending, steps_append, bind_assoc, Act.bind_run_error hsteps]
    exact writesInto_of_obstacle hsplit hbefore houtput hprocess hpairs

theorem writesInto_due (encode : Bool) (b : Builder) : WritesInto encode b (due encode b) := by
  unfold due
  split
  . next hreads => exact writesInto_outputs hreads
  . next hdeep =>
    obtain hreads | ⟨bracket, hoverflows⟩ := readsContexts_or_overflows encode b
    . exact absurd hreads hdeep
    . exact writesInto_ownBefore hoverflows

/-! ### Finite content -/

structure HasFiniteContent (encode : Bool) (b : Builder) : Prop where
  deferred : ∀ d ∈ b.deferred, d.json.isFinite = true
  entities : ∀ e ∈ b.entities, e.isFinite = true
  carried : MergesContexts b → ∀ document,
    Processing.carried encode (pairsAtMerge encode b.deferred b.pairs) = .document document →
      (Value.object document).isFinite = true

theorem HasFiniteContent.due (h : HasFiniteContent encode b) :
    ∀ output ∈ due encode b, output.2.isFinite = true := by
  have hown : ∀ d ∈ b.deferred, isContexts d = false → d.json.isFinite = true := fun d hd _ => h.deferred d hd
  unfold Processing.due
  split
  . rw [forall_mem_outputs (P := fun v => v.isFinite = true),
      forall_mem_ownOutputs (P := fun v => v.isFinite = true)]
    exact ⟨hown, object_ofBuilder Value.hereditary_isFinite h.carried h.deferred h.entities⟩
  . rw [forall_mem_ownOutputs (P := fun v => v.isFinite = true)]
    exact fun d hd => hown d ((List.takeWhile_prefix _).subset hd)

end Processing

namespace Builder

open Processing

variable {σ : Type} {encode : Bool} {b : Builder}

/--
A build writes texts in their order up to the first value without a document, and succeeds if there is
none and no text that is nested too deeply. Each text is a JSON text if and only if its value is finite,
as all are if the content is.
-/
theorem build_texts (process : ProcessorBehaviour σ) (s : Session σ) (hopen : b.built = none)
    (hprocessor : b.processor = some (.standard encode)) :
    ∃ outcome b' s', build process (b, s) = (outcome, b', s')
      ∧ b'.pairs = Pairs.setAll (texts encode (writable (due encode b))) b.pairs
      ∧ (∀ payload, outcome = .ok payload
          ↔ (ReadsContexts encode b ∧ writable (due encode b) = due encode b) ∧ payload = b'.pairs)
      ∧ (∀ output ∈ writable (due encode b),
          IsJsonText encode (textOf encode output.2) ↔ output.2.isFinite = true)
      ∧ (HasFiniteContent encode b →
          ∀ output ∈ writable (due encode b), IsJsonText encode (textOf encode output.2)) := by
  obtain ⟨processed, p, hprocess, hpairs, hok⟩ := writesInto_due encode b
  have hrun := runInstalled_of_process process hprocessor hprocess s
  have htexts : ∀ output ∈ writable (due encode b),
      IsJsonText encode (textOf encode output.2) ↔ output.2.isFinite = true :=
    fun output houtput => isJsonText_textOf_iff encode (isSerializable_of_mem_writable houtput)
  have hfinite : HasFiniteContent encode b →
      ∀ output ∈ writable (due encode b), IsJsonText encode (textOf encode output.2) :=
    fun h output houtput =>
      (htexts output houtput).2 (h.due output ((List.takeWhile_prefix _).subset houtput))
  cases processed with
  | ok =>
    obtain ⟨s'', hbuild, _⟩ := build_of_returned hopen hrun
    refine ⟨_, _, s'', hbuild, hpairs, fun payload => ?_, htexts, hfinite⟩
    rw [and_iff_right (hok.1 rfl), Except.ok.injEq, eq_comm]
  | error f =>
    refine ⟨_, _, _, build_of_raised hopen hrun, hpairs, fun payload => ?_, htexts, hfinite⟩
    have hstopped : ¬ (ReadsContexts encode b ∧ writable (due encode b) = due encode b) :=
      fun hall => by cases hok.2 hall
    simp [hstopped]

def notANumber : Builder where
  pairs := []
  deferred := [⟨"ue_px", "ue_pr", [(.str "a", .float .nan)]⟩]
  entities := [.str "own"]
  processor := some (.standard false)
  built := none

theorem outputs_notANumber :
    outputs false notANumber
      =
    [("ue_pr", .object [(.str "a", .float .nan)]), ("co", .object (wrap [.str "own"]))] :=
  rfl

theorem hasDocuments_notANumber : HasDocuments notANumber where
  deferred := List.forall_mem_singleton.2 ⟨.obj [("a", .float .nan)], rfl⟩
  entities := List.forall_mem_singleton.2 (Value.isSerializable_str "own")

theorem isBuildable_notANumber : IsBuildable false notANumber :=
  ⟨hasDocuments_notANumber, fun _ => by decide +kernel⟩

theorem due_notANumber : due false notANumber = outputs false notANumber := if_pos isBuildable_notANumber.reads

theorem build_texts_notANumber :
    ∃ payload b' s',
      build (fun _ _ _ => pure .null) (notANumber, .initial () (.whole 0) "" toString)
        = (.ok payload, b', s')
      ∧ payload = Pairs.setAll (texts false (outputs false notANumber)) []
      ∧ ¬ IsJsonText false (textOf false (.object [(.str "a", .float .nan)]))
      ∧ IsJsonText false (textOf false (.object (wrap [.str "own"]))) := by
  obtain ⟨outcome, b', s', hbuild, hpairs, hok, htexts, _⟩ :=
    build_texts (b := notANumber) (fun _ _ _ => pure .null) (.initial () (.whole 0) "" toString) rfl rfl
  have hall : writable (outputs false notANumber) = outputs false notANumber := rfl
  rw [due_notANumber, hall] at hpairs hok htexts
  rw [outputs_notANumber, List.forall_mem_cons, List.forall_mem_singleton] at htexts
  have houtcome := (hok b'.pairs).2 ⟨⟨isBuildable_notANumber.reads, rfl⟩, rfl⟩
  refine ⟨_, b', s', ?_, hpairs, ?_, htexts.2.2 rfl⟩
  . rw [hbuild, houtcome]
  . rw [htexts.1]
    exact Bool.false_ne_true

theorem build_text_not_json :
    notANumber.built = none ∧ notANumber.processor = some (.standard false)
      ∧ ∃ payload b' s' text,
        build (fun _ _ _ => pure .null) (notANumber, .initial () (.whole 0) "" toString)
          = (.ok payload, b', s')
        ∧ payload.get? "ue_pr" = some (.str text)
        ∧ text = "\x7b\"a\":NaN\x7d"
        ∧ ¬ IsJsonText false text := by
  obtain ⟨s', hbuild, _⟩ := build_run (fun _ _ _ => pure .null) rfl rfl isBuildable_notANumber
    (.initial () (.whole 0) "" toString)
  have hevent : (Value.object [(.str "a", .float .nan)]).IsSerializable := ⟨.obj [("a", .float .nan)], rfl⟩
  have hget := get?_standardPayload false (by decide : "ue_pr" ≠ contextsKey false) notANumber
  refine ⟨rfl, rfl, _, _, s', _, hbuild, hget, rfl, ?_⟩
  exact fun h => Bool.false_ne_true ((isJsonText_textOf_iff false hevent).1 h)

end Builder

end EventTracking
