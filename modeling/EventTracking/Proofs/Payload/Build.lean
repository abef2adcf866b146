import EventTracking.Payload.Build
import EventTracking.Proofs.Payload.Merging

/-!
This module contains the run of a build with standard processing: an open builder that has all that it
needs is built without a fault, and apart from the builder only reports are left behind. What is logged is
one warning for each text that could not be read.
-/

namespace EventTracking

open Processing (IsBuildable Progress)

namespace Builder

variable {σ : Type} {b : Builder}

def standardPayload (encode : Bool) (b : Builder) : Pairs :=
  (Progress.ofBuilder encode b).written encode

def unreadableWarning : Record :=
  ⟨logger, .warning, "Discarding unreadable context already on the payload: %s"⟩

def standardRecords (encode : Bool) (b : Builder) : List Record :=
  List.replicate (Progress.ofBuilder encode b).unreadable unreadableWarning

theorem processStandard_of_process {encode : Bool} {outcome : Except Fault Unit} {p : Progress}
    (h : Processing.process encode b.deferred b.entities ⟨b.pairs, none, 0⟩ = (outcome, p)) (s : Session σ) :
    processStandard encode b (b, s)
      =
    (outcome, { b with pairs := p.pairs },
      { s with records := s.records ++ List.replicate p.unreadable unreadableWarning }) := by
  have hlog := Act.forIn_log_run logger .warning
    "Discarding unreadable context already on the payload: %s" (List.range p.unreadable)
    { b with pairs := p.pairs } s
  rw [List.length_range] at hlog
  rw [processStandard, h]
  dsimp only
  rw [Act.bind_run Act.setSubject_run, Act.bind_run hlog]
  cases outcome <;> rfl

theorem processStandard_run {encode : Bool} (h : IsBuildable encode b) (s : Session σ) :
    processStandard encode b (b, s)
      =
    (.ok (), { b with pairs := b.standardPayload encode },
      { s with records := s.records ++ b.standardRecords encode }) :=
  processStandard_of_process h.process_run s

theorem traceBuilt_run (hprocessor : b.processor.isSome = true) (payload : Pairs) (s : Session σ) :
    ∃ spans, traceBuilt b payload s = (.ok (), { s with spans := s.spans ++ spans }) := by
  unfold traceBuilt
  dsimp only
  -- There is a warning only for content that nothing has processed.
  rw [hprocessor, Bool.not_true, Bool.and_false, if_neg Bool.false_ne_true]
  unfold Session.trace
  rw [Act.modify_run]
  split
  . exact ⟨_, rfl⟩
  . exact ⟨[], by simp⟩

theorem build_run (process : ProcessorBehaviour σ) {encode : Bool} (hopen : b.built = none)
    (hprocessor : b.processor = some (.standard encode)) (h : IsBuildable encode b) (s : Session σ) :
    ∃ s', build process (b, s) = (.ok (b.standardPayload encode),
        { b with pairs := b.standardPayload encode, built := some (b.standardPayload encode) }, s')
      ∧ s.Reported s' ∧ s'.records = s.records ++ b.standardRecords encode := by
  obtain ⟨spans, htrace⟩ := traceBuilt_run (b := { b with pairs := b.standardPayload encode })
    (by rw [hprocessor]; rfl) (b.standardPayload encode)
    { s with records := s.records ++ b.standardRecords encode }
  refine ⟨_, ?_, ⟨b.standardRecords encode, spans, rfl⟩, rfl⟩
  rw [build, Act.bind_run Act.subject_run, hopen, hprocessor]
  dsimp only
  rw [runProcessor, bind_assoc, Act.bind_run Act.subject_run]
  dsimp only
  rw [Act.bind_run (processStandard_run h s), Act.bind_run Act.subject_run]
  dsimp only
  rw [Act.bind_run Act.setSubject_run, Act.bind_run (Act.besideSubject_run htrace), hprocessor]
  rfl

end Builder

end EventTracking
