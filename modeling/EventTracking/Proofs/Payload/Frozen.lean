import EventTracking.Proofs.Payload.Build
import EventTracking.Proofs.Payload.Builder

/-!
This module contains the theorem that a builder is frozen once it has been built: whatever a caller does to
the builder and to the objects that it has been given, the builder answers the same from then on.
-/

namespace EventTracking

inductive Handed where
  | live
  | pairs (ps : Pairs)
  | deferred (ds : List Deferred)
  | entities (vs : List Value)

structure Edit where
  pairs : Pairs → Pairs
  deferred : List Deferred → List Deferred
  entities : List Value → List Value

namespace Handed

def edit (e : Edit) : Handed → Handed
  | .live => .live
  | .pairs ps => .pairs (e.pairs ps)
  | .deferred ds => .deferred (e.deferred ds)
  | .entities vs => .entities (e.entities vs)

def editBuilder (e : Edit) (b : Builder) : Handed → Builder
  | .live => { b with pairs := e.pairs b.pairs }
  | .pairs _ | .deferred _ | .entities _ => b

end Handed

inductive Deed where
  | perform (op : Builder.Operation)
  | edit (i : Nat) (e : Edit)

structure InUse (σ : Type) where
  builder : Builder
  session : Session σ
  handed : List Handed

namespace InUse

variable {σ : Type}

def start (s : Session σ) : InUse σ := ⟨.empty, s, []⟩

def copies : Except Fault Builder.Answer → List Handed
  | .ok (.pairs ps) => [.pairs ps]
  | .ok (.deferred ds) => [.deferred ds]
  | .ok (.entities vs) => [.entities vs]
  | _ => []

/--
What a step hands out. An open builder gives its pairs themselves, also to the processor of a build, which
may pass them on; everything else is a copy.
-/
def handOut (b : Builder) (op : Builder.Operation) (outcome : Except Fault Builder.Answer) :
    List Handed :=
  match op, b.isBuilt with
  | .getPayload, false => [.live]
  | .build, false => .live :: copies outcome
  | _, _ => copies outcome

def step (process : ProcessorBehaviour σ) (d : Deed) (u : InUse σ) :
    Except Fault Builder.Answer × InUse σ :=
  match d with
  | .perform op =>
    match op.run process (u.builder, u.session) with
    | (outcome, b, s) => (outcome, ⟨b, s, u.handed ++ handOut u.builder op outcome⟩)
  | .edit i e =>
    match u.handed[i]? with
    | some h =>
      (.ok .nothing, ⟨h.editBuilder e u.builder, u.session, u.handed.set i (h.edit e)⟩)
    | none => (.ok .nothing, u)

def run (process : ProcessorBehaviour σ) : List Deed → InUse σ →
    List (Deed × Except Fault Builder.Answer) × InUse σ
  | [], u => ([], u)
  | d :: ds, u =>
    match step process d u with
    | (outcome, u) =>
      match run process ds u with
      | (history, u) => ((d, outcome) :: history, u)

end InUse

/-! ### Single steps -/

namespace Builder

variable {σ : Type} {process : ProcessorBehaviour σ} {b b' : Builder} {payload : Pairs}
  {s s' : Session σ} {f : Fault}

def Operation.answerOnceBuilt (b : Builder) (payload : Pairs) : Operation → Except Fault Answer
  | .add .. | .addAll (_ :: _) => .error (.sealed "add")
  | .addAll [] | .write .. => .ok .nothing
  | .defer .. => .error (.sealed "add_json")
  | .attach _ => .error (.sealed "add_context_entity")
  | .install _ => .error (.sealed "with_json_processor")
  | .getPayload | .build => .ok (.pairs payload)
  | .getDeferred => .ok (.deferred b.deferred)
  | .getEntities => .ok (.entities b.entities)
  | .isBuilt => .ok (.truth true)

theorem build_of_built (hbuilt : b.built = some payload) :
    build process (b, s) = (.ok payload, b, s) := by
  rw [build, Act.bind_run Act.subject_run, hbuilt]
  rfl

theorem run_of_built (process : ProcessorBehaviour σ) (hbuilt : b.built = some payload)
    (s : Session σ) (op : Operation) :
    op.run process (b, s) = (op.answerOnceBuilt b payload, b, s) := by
  cases op with
  | add =>
    apply Act.bind_run_error
    exact Act.updateSubject_run_error (change_of_built hbuilt "add" _)
  | addAll more =>
    cases more with
    | nil => rfl
    | cons p more =>
      apply Act.bind_run_error
      exact Act.updateSubject_run_error (addAll_of_built hbuilt p more)
  | defer =>
    apply Act.bind_run_error
    rw [deferNoted, Act.bind_run Act.subject_run]
    apply Act.bind_run_error
    exact Act.updateSubject_run_error (change_of_built hbuilt "add_json" _)
  | attach =>
    apply Act.bind_run_error
    exact Act.updateSubject_run_error (change_of_built hbuilt "add_context_entity" _)
  | install =>
    apply Act.bind_run_error
    exact Act.updateSubject_run_error (change_of_built hbuilt "with_json_processor" _)
  | write key v =>
    have hwrite : b.write key v = b := by simp [write, isBuilt, hbuilt]
    rw [Operation.run, Act.bind_run Act.subject_run, hwrite]
    rfl
  | getPayload =>
    have hpayload : b.payload = payload := by simp [Builder.payload, hbuilt]
    rw [Operation.run, Act.bind_run Act.subject_run, hpayload]
    rfl
  | getDeferred => rfl
  | getEntities => rfl
  | isBuilt =>
    have htrue : b.isBuilt = true := by simp [Builder.isBuilt, hbuilt]
    rw [Operation.run, Act.bind_run Act.subject_run, htrue]
    rfl
  | build =>
    rw [Operation.run, Act.bind_run (build_of_built hbuilt)]
    rfl

theorem defer_of_open (hopen : b.built = none) (keyIfEncoded keyIfPlain : String) (json : Value) :
    ∃ b', b.defer keyIfEncoded keyIfPlain json = .ok b' ∧ b'.built = none := by
  refine ⟨_, change_of_open hopen "add_json" _, ?_⟩
  split
  . exact hopen
  . exact hopen

theorem deferNoted_of_open (hopen : b.built = none) (keyIfEncoded keyIfPlain : String) (json : Value)
    (s : Session σ) :
    ∃ b' s', deferNoted keyIfEncoded keyIfPlain json (b, s) = (.ok (), b', s') ∧ b'.built = none := by
  obtain ⟨b', hdefer, hopen'⟩ := defer_of_open hopen keyIfEncoded keyIfPlain json
  rw [deferNoted, Act.bind_run Act.subject_run, Act.bind_run (Act.updateSubject_run hdefer),
    Act.bind_run Act.subject_run]
  split
  . obtain ⟨s', hrun, _⟩ := Act.reports_debug (σ := σ) logger
      ("Ignoring empty JSON for " ++ keyIfEncoded ++ "/" ++ keyIfPlain) s
    exact ⟨b', s', Act.besideSubject_run hrun, hopen'⟩
  . exact ⟨b', s, rfl, hopen'⟩

theorem run_of_open (process : ProcessorBehaviour σ) (hopen : b.built = none) (s : Session σ)
    {op : Operation} (hop : op ≠ .build) : (op.run process (b, s)).2.1.built = none := by
  cases op with
  | add key v =>
    rw [Operation.run, Act.bind_run (Act.updateSubject_run (add_of_open hopen key v))]
    exact hopen
  | addAll more =>
    rw [Operation.run, Act.bind_run (Act.updateSubject_run (addAll_of_open hopen more))]
    exact hopen
  | defer e p json =>
    obtain ⟨b', s', hrun, hopen'⟩ := deferNoted_of_open hopen e p json s
    rw [Operation.run, Act.bind_run hrun]
    exact hopen'
  | attach v =>
    rw [Operation.run, Act.bind_run (Act.updateSubject_run (attach_of_open hopen v))]
    exact hopen
  | install p =>
    rw [Operation.run, Act.bind_run (Act.updateSubject_run (install_of_open hopen p))]
    exact hopen
  | write key v =>
    rw [Operation.run, Act.bind_run Act.subject_run, Act.bind_run Act.setSubject_run]
    simp [write, isBuilt, hopen]
  | getPayload | getDeferred | getEntities | isBuilt => exact hopen
  | build => exact absurd rfl hop

/-! ### Building an open builder -/

theorem reports_traceBuilt (b : Builder) (payload : Pairs) : Act.Reports (σ := σ) (traceBuilt b payload) := by
  unfold traceBuilt
  dsimp only
  split
  . exact .bind (Act.reports_log _ _ _) (Act.reports_trace _ _)
  . exact Act.reports_trace _ _

def runInstalled (process : ProcessorBehaviour σ) (b : Builder) : Act (Builder × Session σ) Unit :=
  match b.processor with
  | some p => runProcessor process p
  | none => pure ()

def fixPayload : Act (Builder × Session σ) Pairs := do
  let b ← Act.subject
  Act.setSubject { b with built := some b.pairs }
  Act.besideSubject (traceBuilt b b.pairs)
  return b.pairs

theorem build_of_open (process : ProcessorBehaviour σ) (hopen : b.built = none) (s : Session σ) :
    build process (b, s) = (do runInstalled process b; fixPayload) (b, s) := by
  rw [build, Act.bind_run Act.subject_run, hopen, runInstalled]
  cases b.processor <;> rfl

theorem build_of_returned (hopen : b.built = none)
    (hprocessed : runInstalled process b (b, s) = (.ok (), b', s')) :
    ∃ s'', build process (b, s) = (.ok b'.pairs, { b' with built := some b'.pairs }, s'')
      ∧ s'.Reported s'' := by
  obtain ⟨s'', htrace, hs''⟩ := reports_traceBuilt b' b'.pairs s'
  refine ⟨s'', ?_, hs''⟩
  rw [build_of_open process hopen, Act.bind_run hprocessed, fixPayload, Act.bind_run Act.subject_run,
    Act.bind_run Act.setSubject_run, Act.bind_run (Act.besideSubject_run htrace)]
  rfl

theorem build_of_raised (hopen : b.built = none)
    (hprocessed : runInstalled process b (b, s) = (.error f, b', s')) :
    build process (b, s) = (.error f, b', s') := by
  rw [build_of_open process hopen]
  exact Act.bind_run_error hprocessed

theorem built_of_build (h : build process (b, s) = (.ok payload, b', s')) : b'.built = some payload := by
  cases hbuilt : b.built with
  | some payload' =>
    rw [build_of_built hbuilt] at h
    cases h
    exact hbuilt
  | none =>
    rcases hrun : runInstalled process b (b, s) with ⟨outcome, b₁, s₁⟩
    cases outcome with
    | error f =>
      rw [build_of_raised hbuilt hrun] at h
      cases h
    | ok =>
      obtain ⟨s₂, hbuild, _⟩ := build_of_returned hbuilt hrun
      cases h.symm.trans hbuild
      rfl

theorem processStandard_state (encode : Bool) (b : Builder) (s : Session σ) :
    ∃ outcome ps s', processStandard encode b (b, s) = (outcome, { b with pairs := ps }, s') := by
  rcases hprocess : Processing.process encode b.deferred b.entities ⟨b.pairs, none, 0⟩ with ⟨outcome, p⟩
  exact ⟨outcome, p.pairs, _, processStandard_of_process hprocess s⟩

theorem runInstalled_of_process (process : ProcessorBehaviour σ) {encode : Bool} {outcome : Except Fault Unit}
    {p : Processing.Progress} (hprocessor : b.processor = some (.standard encode))
    (h : Processing.process encode b.deferred b.entities ⟨b.pairs, none, 0⟩ = (outcome, p)) (s : Session σ) :
    runInstalled process b (b, s)
      =
    (outcome, { b with pairs := p.pairs },
      { s with records := s.records ++ List.replicate p.unreadable unreadableWarning }) := by
  have hinstalled : runInstalled process b = runProcessor process (.standard encode) := by
    rw [runInstalled, hprocessor]
  rw [hinstalled, runProcessor, Act.bind_run Act.subject_run]
  exact processStandard_of_process h s

end Builder

/-! ### Courses of steps -/

namespace InUse

variable {σ : Type} {process : ProcessorBehaviour σ} {u : InUse σ} {payload : Pairs}

/--
Whether the processors of the user do nothing to an open builder but what a caller could do to it without
building it. They may fail, and whatever else they do is their own affair.
-/
def NeverBuilds (process : ProcessorBehaviour σ) : Prop :=
  ∀ r ds vs b s, b.built = none →
    ∃ deeds, (∀ d ∈ deeds, d ≠ .perform .build)
      ∧ (process r ds vs (b, s)).2.1 = (run process deeds ⟨b, s, []⟩).2.builder

theorem step_edit (process : ProcessorBehaviour σ) (u : InUse σ) (i : Nat) (e : Edit) :
    ∃ ps handed, step process (.edit i e) u
      =
    (.ok .nothing, ⟨{ u.builder with pairs := ps }, u.session, handed⟩) := by
  cases hi : u.handed[i]? with
  | none => exact ⟨u.builder.pairs, u.handed, by simp only [step, hi]⟩
  | some h =>
    cases h with
    | live => exact ⟨e.pairs u.builder.pairs, _, by simp only [step, hi]; rfl⟩
    | pairs | deferred | entities => exact ⟨u.builder.pairs, _, by simp only [step, hi]; rfl⟩

theorem step_of_open (hopen : u.builder.built = none) {d : Deed} (hd : d ≠ .perform .build) :
    (step process d u).2.builder.built = none := by
  cases d with
  | perform op =>
    apply Builder.run_of_open process hopen u.session
    rintro rfl
    exact hd rfl
  | edit i e =>
    obtain ⟨ps, handed, hstep⟩ := step_edit process u i e
    rw [hstep]
    exact hopen

theorem run_of_open (hopen : u.builder.built = none) {ds : List Deed}
    (hds : ∀ d ∈ ds, d ≠ .perform .build) : (run process ds u).2.builder.built = none := by
  induction ds generalizing u with
  | nil => exact hopen
  | cons d ds ih =>
    obtain ⟨hd, hds⟩ := List.forall_mem_cons.1 hds
    exact ih (step_of_open hopen hd) hds

theorem runInstalled_of_open (hprocess : NeverBuilds process) {b : Builder} (hopen : b.built = none)
    (s : Session σ) : (b.runInstalled process (b, s)).2.1.built = none := by
  unfold Builder.runInstalled
  cases b.processor with
  | none => exact hopen
  | some p =>
    dsimp only
    rw [Builder.runProcessor, Act.bind_run Act.subject_run]
    cases p with
    | standard encode =>
      obtain ⟨outcome, ps, s', hrun⟩ := Builder.processStandard_state encode b s
      dsimp only
      rw [hrun]
      exact hopen
    | custom f =>
      dsimp only
      cases f.enter [.foreign "PayloadBuilder" 0, .list (b.deferred.map Deferred.json), .list b.entities] with
      | error fault => exact hopen
      | ok r? =>
        rw [Act.ofExcept_ok, Act.bind_run Act.pure_run]
        cases r? with
        | none => exact hopen
        | some r =>
          obtain ⟨deeds, hdeeds, hstate⟩ := hprocess r b.deferred b.entities b s hopen
          dsimp only
          rw [Act.discard_run_state, hstate]
          exact run_of_open hopen hdeeds

end InUse

def Deed.answerOnceBuilt (b : Builder) (payload : Pairs) : Deed → Except Fault Builder.Answer
  | .perform op => op.answerOnceBuilt b payload
  | .edit .. => .ok .nothing

namespace InUse

variable {σ : Type} {process : ProcessorBehaviour σ} {u : InUse σ} {payload : Pairs}

theorem step_of_built (process : ProcessorBehaviour σ) (hbuilt : u.builder.built = some payload)
    (d : Deed) :
    ∃ ps handed, step process d u
      =
    (d.answerOnceBuilt u.builder payload, ⟨{ u.builder with pairs := ps }, u.session, handed⟩) := by
  cases d with
  | perform op =>
    refine ⟨u.builder.pairs, u.handed ++ handOut u.builder op (op.answerOnceBuilt u.builder payload), ?_⟩
    rw [step, Builder.run_of_built process hbuilt]
    rfl
  | edit i e => exact step_edit process u i e

theorem run_of_built (process : ProcessorBehaviour σ) (hbuilt : u.builder.built = some payload)
    (ds : List Deed) :
    ∃ ps handed, run process ds u
      =
    (ds.map fun d => (d, d.answerOnceBuilt u.builder payload),
      ⟨{ u.builder with pairs := ps }, u.session, handed⟩) := by
  induction ds generalizing u with
  | nil => exact ⟨u.builder.pairs, u.handed, rfl⟩
  | cons d ds ih =>
    obtain ⟨ps, handed, hstep⟩ := step_of_built process hbuilt d
    obtain ⟨ps', handed', hrun⟩ := ih (u := ⟨{ u.builder with pairs := ps }, u.session, handed⟩) hbuilt
    refine ⟨ps', handed', ?_⟩
    rw [run, hstep]
    dsimp only
    rw [hrun]
    rfl

theorem run_cons (process : ProcessorBehaviour σ) (d : Deed) (ds : List Deed) (u : InUse σ) :
    run process (d :: ds) u
      =
    ((d, (step process d u).1) :: (run process ds (step process d u).2).1,
      (run process ds (step process d u).2).2) := rfl

theorem step_build_of_raised {b' : Builder} {s' : Session σ} {f : Fault}
    (hopen : u.builder.built = none)
    (hraised : u.builder.runInstalled process (u.builder, u.session) = (.error f, b', s')) :
    ∃ handed, step process (.perform .build) u = (.error f, ⟨b', s', handed⟩) := by
  have hrun : Builder.Operation.build.run process (u.builder, u.session) = (.error f, b', s') :=
    Act.bind_run_error (Builder.build_of_raised hopen hraised)
  exact ⟨_, by rw [step, hrun]⟩

theorem step_build_of_returned {b' : Builder} {s' : Session σ} (hopen : u.builder.built = none)
    (hreturned : u.builder.runInstalled process (u.builder, u.session) = (.ok (), b', s')) :
    ∃ s'' handed, step process (.perform .build) u
      =
    (.ok (.pairs b'.pairs), ⟨{ b' with built := some b'.pairs }, s'', handed⟩) := by
  obtain ⟨s'', hbuild, _⟩ := Builder.build_of_returned hopen hreturned
  have hrun : Builder.Operation.build.run process (u.builder, u.session)
      = (.ok (.pairs b'.pairs), { b' with built := some b'.pairs }, s'') := by
    rw [Builder.Operation.run, Act.bind_run hbuild]
    rfl
  exact ⟨s'', _, by rw [step, hrun]⟩

theorem built_iff (hprocess : NeverBuilds process) (hopen : u.builder.built = none) (ds : List Deed)
    (payload : Pairs) :
    (run process ds u).2.builder.built = some payload
      ↔
    (Deed.perform .build, Except.ok (.pairs payload)) ∈ (run process ds u).1 := by
  -- The builder is open up to the first build that returns, and frozen from there on.
  induction ds generalizing u with
  | nil => simp [run, hopen]
  | cons d ds ih =>
    rw [run_cons]
    by_cases hd : d = .perform .build
    . subst hd
      have hopen' := runInstalled_of_open hprocess hopen u.session
      rcases hinstalled : u.builder.runInstalled process (u.builder, u.session) with ⟨outcome, b', s'⟩
      cases outcome with
      | error f =>
        obtain ⟨handed, hstep⟩ := step_build_of_raised hopen hinstalled
        rw [hinstalled] at hopen'
        rw [hstep]
        simpa using ih (u := ⟨b', s', handed⟩) hopen'
      | ok =>
        obtain ⟨s'', handed, hstep⟩ := step_build_of_returned hopen hinstalled
        obtain ⟨ps, handed', hrun⟩ := run_of_built process
          (u := ⟨{ b' with built := some b'.pairs }, s'', handed⟩) rfl ds
        rw [hstep]
        dsimp only
        rw [hrun]
        constructor
        . rintro ⟨⟩
          exact List.mem_cons_self
        . intro hmem
          rcases List.mem_cons.1 hmem with heq | hmem
          . cases heq
            rfl
          . obtain ⟨d, _, heq⟩ := List.mem_map.1 hmem
            cases heq
            rfl
    . have hhead : (Deed.perform .build, Except.ok (.pairs payload)) ≠ (d, (step process d u).1) := by
        rintro heq
        exact hd (congrArg Prod.fst heq).symm
      simpa [hhead] using ih (step_of_open hopen hd)

/--
A builder that is used from the start in whatever way, by processors that do not build it themselves, has
been built as soon as a build returns. A build whose processor fails leaves it open, as the processor left
it. Once it has been built it always answers the same, to edits of what it has handed out and to attempts to
change it, and no processor has any part in that.
-/
theorem run_frozen (process : ProcessorBehaviour σ) (hprocess : NeverBuilds process) (s : Session σ)
    (before : List Deed) :
    ∃ history u, run process before (start s) = (history, u)
      ∧ (∀ payload, u.builder.built = some payload
          ↔ (Deed.perform .build, Except.ok (.pairs payload)) ∈ history)
      ∧ (u.builder.built = none → ∀ f b' s',
          u.builder.runInstalled process (u.builder, u.session) = (.error f, b', s') →
            Builder.build process (u.builder, u.session) = (.error f, b', s') ∧ b'.built = none)
      ∧ (∀ payload, u.builder.built = some payload → ∀ process' after,
          ∃ ps handed, run process' after u
              = (after.map fun d => (d, d.answerOnceBuilt u.builder payload),
                  ⟨{ u.builder with pairs := ps }, u.session, handed⟩)
            ∧ ∀ op : Builder.Operation,
              op.run process' ({ u.builder with pairs := ps }, u.session)
                = (op.answerOnceBuilt u.builder payload, { u.builder with pairs := ps }, u.session)) := by
  refine ⟨_, _, rfl, built_iff hprocess rfl before, ?_, ?_⟩
  . intro hopen f b' s' hraised
    have hopen' := runInstalled_of_open hprocess hopen (run process before (start s)).2.session
    rw [hraised] at hopen'
    exact ⟨Builder.build_of_raised hopen hraised, hopen'⟩
  . intro payload hbuilt process' after
    obtain ⟨ps, handed, hrun⟩ := run_of_built process' hbuilt after
    refine ⟨ps, handed, hrun, ?_⟩
    intro op
    exact Builder.run_of_built (b := { (run process before (start s)).2.builder with pairs := ps })
      process' hbuilt _ op

def reluctant : ProcessorBehaviour Nat := fun _ _ _ => do
  let (b, s) ← get
  set (b.write "tried" (.bool true), { s with users := s.users + 1 })
  if s.users = 0 then throw (.raised "ValueError" "not yet") else return .null

theorem neverBuilds_reluctant : NeverBuilds reluctant := by
  intro r ds vs b s hopen
  refine ⟨[.perform (.write "tried" (.bool true))], by simp, ?_⟩
  have hstate : (reluctant r ds vs (b, s)).2.1 = b.write "tried" (.bool true) := by
    have hset : (set (b.write "tried" (.bool true), { s with users := s.users + 1 }) :
        Act (Builder × Session Nat) PUnit) (b, s)
        = (.ok ⟨⟩, b.write "tried" (.bool true), { s with users := s.users + 1 }) := rfl
    rw [reluctant, Act.bind_run Act.get_run]
    dsimp only
    rw [Act.bind_run hset]
    split <;> rfl
  rw [hstate]
  rfl

def insist (v : Value) : Edit := ⟨Pairs.set "late" v, id, id⟩

def attempts : List Deed :=
  [.perform (.install (.custom (.routine ⟨"reluctant", [⟨"args", .variadic, false⟩], none, true⟩))),
    .perform .getPayload, .perform (.add "e" (.str "pv")), .perform .build, .edit 0 (insist (.int 1)),
    .perform .build]

theorem run_frozen_reluctant :
    ∃ history u, run reluctant attempts (start (.initial 0 (.whole 0) "" toString)) = (history, u)
      ∧ u.builder.built = some [("e", .str "pv"), ("tried", .bool true), ("late", .int 1)]
      ∧ (run reluctant [.edit 0 (insist (.int 2)), .perform .getPayload, .perform (.add "e" .null),
            .perform .build] u).1.map Prod.snd
          = [.ok .nothing, .ok (.pairs [("e", .str "pv"), ("tried", .bool true), ("late", .int 1)]),
            .error (.sealed "add"),
            .ok (.pairs [("e", .str "pv"), ("tried", .bool true), ("late", .int 1)])] := by
  obtain ⟨history, u, hrun, hbuilt, _, hfrozen⟩ :=
    run_frozen reluctant neverBuilds_reluctant (.initial 0 (.whole 0) "" toString) attempts
  have hpayload : u.builder.built = some [("e", .str "pv"), ("tried", .bool true), ("late", .int 1)] := by
    have hu : u = (run reluctant attempts (start (.initial 0 (.whole 0) "" toString))).2 := by rw [hrun]
    rw [hu]
    rfl
  obtain ⟨ps, handed, hafter, _⟩ := hfrozen _ hpayload reluctant
    [.edit 0 (insist (.int 2)), .perform .getPayload, .perform (.add "e" .null), .perform .build]
  refine ⟨history, u, hrun, hpayload, ?_⟩
  rw [hafter]
  rfl

end InUse

end EventTracking
