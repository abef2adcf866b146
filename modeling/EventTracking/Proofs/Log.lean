import EventTracking.Proofs.Act
import EventTracking.Proofs.Json.Characters
import EventTracking.Proofs.Json.Plain

/-!
This module contains the theorem that a line of the log in JSON can be neither broken nor forged: whatever
the texts and the parameters of an entry are, its line is visible ASCII and is read back as that entry.
-/

namespace EventTracking

/-! ### Parameters -/

namespace Value

/-- Whether a value is nothing, a truth value, an integer, a text or no data, and can be written. -/
def isParameter : Value → Bool
  | .float _ | .nan _ | .list _ | .tuple _ | .object _ => false
  | v => v.isWritable

def shown : Value → Value
  | .null => .null
  | .bool b => .bool b
  | .int n => .int n
  | .str s => .str s
  | v => .str v.text

theorem isParameter_map_str (texts : List String) : ∀ v ∈ texts.map str, v.isParameter = true :=
  List.forall_mem_map.2 fun _ _ => rfl

theorem isFaithful_shown {v : Value} (h : v.isParameter = true) : v.shown.IsFaithful := by
  cases v with
  | null => exact isFaithful_null
  | bool b => exact isFaithful_bool b
  | int n =>
    apply isFaithful_int
    simpa [isParameter, isWritable] using h
  | float | nan | list | tuple | object => cases h
  | _ => exact isFaithful_str _

end Value

namespace Json

theorem ofValue_parameter {v : Value} (h : v.isParameter = true) :
    ofValue (fun v => some v.text) v = ofData v.shown := by
  cases v with
  | float | nan | list | tuple | object => cases h
  | _ => simp [Value.shown, ofData, ofValue]

theorem ofItems_parameters {vs : List Value} (h : ∀ v ∈ vs, v.isParameter = true) :
    ofItems (fun v => some v.text) vs = ofItems (fun _ => none) (vs.map Value.shown) := by
  induction vs with
  | nil => simp [ofItems]
  | cons v vs ih =>
    obtain ⟨hv, hvs⟩ := List.forall_mem_cons.1 h
    rw [List.map_cons, ofItems, ofItems, ofValue_parameter hv, ih hvs]
    rfl

end Json

/-! ### Entries -/

namespace Facade

variable (f : Facade) (stamp : String) (level : Level) (message : String) (note : Option ErrorNote)
variable {params : List Value}

def LetsThrough (level : Level) : Prop := level ≠ .silent ∧ level.rank ≤ f.level.rank

structure Tells (params : List Value) (fields : Pairs) : Prop where
  timestamp : fields.get? "timestamp" = some (.str stamp)
  level : fields.get? "level" = some (.str level.lowerName)
  service : fields.get? "service" = some (.str f.service)
  message : fields.get? "message" = some (.str message)
  error : fields.get? "error" = note.map fun e => .str e.message
  errorType : fields.get? "error_type" = note.map fun e => .str e.kind
  params : fields.get? "params" = if params.isEmpty then none else some (.list params)
  keys : fields.keys.Sublist ["timestamp", "level", "service", "message", "error", "error_type", "params"]

theorem exists_tells (params : List Value) :
    ∃ fields, f.entry stamp level message note params = .ofPairs fields
      ∧ f.Tells stamp level message note params fields
      ∧ ∀ p ∈ fields, (∃ s, p.2 = .str s) ∨ p.2 = .list params := by
  refine ⟨_, rfl, ?_, ?_⟩
  . cases note <;> cases params <;> constructor <;> simp [Pairs.get?, Pairs.keys, List.lookup_cons]
  . cases note <;> cases params <;> simp

theorem ofValue_entry (h : ∀ v ∈ params, v.isParameter = true) :
    Json.ofValue (fun v => some v.text) (f.entry stamp level message note params)
      =
    Json.ofData (f.entry stamp level message note (params.map Value.shown)) := by
  have hitems := Json.ofItems_parameters h
  unfold entry Value.ofPairs Json.ofData
  cases note <;> cases params <;> simp [Json.ofValue, Json.ofEntries, Json.keyText, hitems]

theorem isFaithful_entry (h : ∀ v ∈ params, v.IsFaithful) :
    (f.entry stamp level message note params).IsFaithful := by
  obtain ⟨fields, hentry, htells, hkinds⟩ := f.exists_tells stamp level message note params
  rw [hentry]
  apply Value.isFaithful_ofPairs (htells.keys.nodup (by decide))
  intro p hp
  rcases hkinds p hp with ⟨s, hs⟩ | hs
  . rw [hs]
    exact Value.isFaithful_str s
  . rw [hs]
    exact Value.isFaithful_list h

theorem exists_jsonLine (h : ∀ v ∈ params, v.isParameter = true) :
    ∃ document : Json, f.jsonLine stamp level message note params = .ok (document.render .line)
      ∧ document.isExact = true
      ∧ document.toValue = f.entry stamp level message note (params.map Value.shown) := by
  have hshown : ∀ v ∈ params.map Value.shown, v.IsFaithful :=
    List.forall_mem_map.2 fun v hv => Value.isFaithful_shown (h v hv)
  have hfaithful := f.isFaithful_entry stamp level message note hshown
  obtain ⟨document, hdocument⟩ := hfaithful.serializable
  obtain ⟨hexact, hvalue⟩ := Json.ofData_plain _ hfaithful.plain document hdocument
  refine ⟨document, ?_, hexact, by rw [hvalue, hfaithful.listed]⟩
  rw [jsonLine, ofValue_entry f stamp level message note h, hdocument]

end Facade

/-! ### Lines of the log -/

namespace Session

variable {σ : Type} {s : Session σ} {level : Level} {params : List Value}

theorem say_run {message : String} {note : Option ErrorNote} {r : Record}
    (h : s.facade.record? s.stamp level message note params = .ok (some r)) :
    say level message note params s = (.ok (), { s with records := s.records ++ [r] }) := by
  rw [say, Act.bind_run Act.get_run, h]
  rfl

/--
In the format for JSON an entry is written on a line of visible ASCII. The line is read back as an object
that tells the texts and parameters of the entry and has no other fields.
-/
theorem say_json (message : String) (note : Option ErrorNote) (hformat : s.facade.format = .json)
    (hlevel : s.facade.LetsThrough level) (hparams : ∀ v ∈ params, v.isParameter = true) :
    ∃ (line : String) (document : Json) (fields : Pairs),
      say level message note params s
          = (.ok (), { s with records := s.records ++ [⟨Facade.logger, level.severity, line⟩] })
        ∧ (∀ c ∈ line.toList, Text.isVisibleAscii c = true)
        ∧ Json.parse? line = some document
        ∧ document.toValue = .ofPairs fields
        ∧ s.facade.Tells s.stamp level message note (params.map Value.shown) fields := by
  obtain ⟨document, hline, hexact, hvalue⟩ := s.facade.exists_jsonLine s.stamp level message note hparams
  obtain ⟨fields, hentry, htells, _⟩ :=
    s.facade.exists_tells s.stamp level message note (params.map Value.shown)
  refine ⟨document.render .line, document, fields, ?_, Json.isVisibleAscii_render_line document,
    Json.parse?_render .line hexact, by rw [hvalue, hentry], htells⟩
  apply say_run
  rw [Facade.record?, if_neg (Nat.not_lt.2 hlevel.2), hformat, hline]
  rfl

def verbose : Session Unit :=
  { initial () (.whole 0) "2026-01-01T00:00:00+00:00" toString with facade := ⟨.info, "demo", .json⟩ }

/-- A message that would end its field and its line, and begin a line of its own, if it stood as it is. -/
def forgery : String := "done\"\x7d\r\n\x7b\"message\": \"\\ \x00\x7f\u2028😀"

def oneOfEach : List Value := [.str forgery, .int (-7), .bool true, .null, .foreign "Probe" 0]

theorem say_json_forgery :
    ∃ (line : String) (document : Json) (fields : Pairs),
      say .warn forgery (some ⟨forgery, forgery⟩) oneOfEach verbose
          = (.ok (), { verbose with records := [⟨Facade.logger, .warning, line⟩] })
        ∧ (∀ c ∈ line.toList, Text.isVisibleAscii c = true)
        ∧ Json.parse? line = some document
        ∧ document.toValue = .ofPairs fields
        ∧ fields.get? "message" = some (.str forgery)
        ∧ fields.get? "params"
          = some (.list [.str forgery, .int (-7), .bool true, .null, .str "<Probe object>"]) := by
  have hlevel : verbose.facade.LetsThrough .warn := ⟨by decide, by decide⟩
  have hparams : ∀ v ∈ oneOfEach, v.isParameter = true := by decide +kernel
  obtain ⟨line, document, fields, hrun, hascii, hparse, hvalue, htells⟩ :=
    say_json forgery (some ⟨forgery, forgery⟩) rfl hlevel hparams
  exact ⟨line, document, fields, hrun, hascii, hparse, hvalue, htells.message, htells.params⟩

end Session

end EventTracking
