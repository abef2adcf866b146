import EventTracking.Proofs.Json.Data
import EventTracking.Proofs.Log

/-!
This module contains the computations that do nothing but report: they succeed and only append to what has
been logged and traced.
-/

namespace EventTracking

namespace Session

variable {σ : Type} {s s' s'' : Session σ}

def Reported (s s' : Session σ) : Prop :=
  ∃ records spans, s' = { s with records := s.records ++ records, spans := s.spans ++ spans }

theorem Reported.refl (s : Session σ) : s.Reported s := ⟨[], [], by simp⟩

theorem Reported.trans (h : s.Reported s') (h' : s'.Reported s'') : s.Reported s'' := by
  obtain ⟨records, spans, rfl⟩ := h
  obtain ⟨records', spans', rfl⟩ := h'
  exact ⟨records ++ records', spans ++ spans', by simp⟩

end Session

theorem Facade.severity_of_record? {f : Facade} {stamp : String} {level : Level} {message : String}
    {error : Option ErrorNote} {params : List Value} {r : Record}
    (h : f.record? stamp level message error params = .ok (some r)) : r.severity = level.severity := by
  unfold Facade.record? at h
  split at h
  . cases h
  . split at h
    . cases h
      rfl
    . cases hline : f.jsonLine stamp level message error params with
      | ok line =>
        rw [hline] at h
        cases h
        rfl
      | error fault =>
        rw [hline] at h
        cases h

namespace Act

variable {σ : Type}

def Reports (act : Act (Session σ) Unit) : Prop :=
  ∀ s, ∃ s', act s = (.ok (), s') ∧ s.Reported s'

theorem Reports.bind {act next : Act (Session σ) Unit} (h : Reports act) (hnext : Reports next) :
    Reports (do act; next) := by
  intro s
  obtain ⟨s', hrun, hs'⟩ := h s
  obtain ⟨s'', hrun', hs''⟩ := hnext s'
  exact ⟨s'', by rw [bind_run hrun, hrun'], hs'.trans hs''⟩

theorem reports_log (logger : String) (severity : Severity) (text : String) :
    Reports (Session.log (σ := σ) logger severity text) :=
  fun s => ⟨_, rfl, [⟨logger, severity, text⟩], [], by simp⟩

theorem reports_debug (logger text : String) : Reports (Session.debug (σ := σ) logger text) :=
  reports_log logger .debug text

theorem reports_trace (name : String) (attributes : List (String × Value)) :
    Reports (Session.trace (σ := σ) name attributes) := by
  intro s
  refine ⟨_, rfl, ?_⟩
  dsimp only
  split
  . exact ⟨[], [⟨name, attributes⟩], by simp⟩
  . exact .refl s

theorem exists_record? (f : Facade) (stamp : String) (level : Level) (message : String)
    (error : Option ErrorNote) (texts : List String) :
    ∃ record?, f.record? stamp level message error (texts.map Value.str) = .ok record? := by
  obtain ⟨document, hline, _⟩ :=
    f.exists_jsonLine stamp level message error (Value.isParameter_map_str texts)
  unfold Facade.record?
  split
  . exact ⟨none, rfl⟩
  . split
    . exact ⟨_, rfl⟩
    . rw [hline]
      exact ⟨_, rfl⟩

theorem exists_sayError_run (message : String) (fault : Fault) (texts : List String) (s : Session σ) :
    ∃ records, Session.sayError message fault (texts.map Value.str) s
        = (.ok (), { s with records := s.records ++ records })
      ∧ ∀ r ∈ records, r.severity = .error := by
  obtain ⟨record?, hrecord⟩ :=
    exists_record? s.facade s.stamp .error message (some (.ofFault fault)) texts
  cases record? with
  | none =>
    unfold Session.sayError Session.say
    rw [bind_run get_run, hrecord]
    exact ⟨[], by simp, by simp⟩
  | some r =>
    refine ⟨[r], Session.say_run hrecord, ?_⟩
    rw [List.forall_mem_singleton]
    exact Facade.severity_of_record? hrecord

theorem reports_sayError (message : String) (fault : Fault) (texts : List String) :
    Reports (Session.sayError (σ := σ) message fault (texts.map Value.str)) := by
  intro s
  obtain ⟨records, hrun, _⟩ := exists_sayError_run message fault texts s
  exact ⟨_, hrun, records, [], by simp⟩

theorem reports_failure (message : String) (fault : Fault) :
    Reports (Session.sayError (σ := σ) message fault []) :=
  reports_sayError message fault []

theorem forIn_log_run {T ι : Type} (logger : String) (severity : Severity) (text : String)
    (xs : List ι) (t : T) (s : Session σ) :
    (forIn xs PUnit.unit fun _ _ => do
        besideSubject (Session.log logger severity text)
        return .yield PUnit.unit : Act (T × Session σ) PUnit) (t, s)
      =
    (.ok ⟨⟩, t, { s with records := s.records ++ List.replicate xs.length ⟨logger, severity, text⟩ }) := by
  induction xs generalizing s with
  | nil => simp
  | cons x xs ih =>
    have hlog : Session.log logger severity text s
        = (.ok (), { s with records := s.records ++ [⟨logger, severity, text⟩] }) := rfl
    rw [List.forIn_cons, bind_assoc, bind_run (besideSubject_run hlog), pure_bind]
    dsimp only
    rw [ih, List.append_assoc]
    rfl

end Act

end EventTracking
