import EventTracking.CommandLine.Outcome
import EventTracking.Proofs.Json.Characters
import EventTracking.Proofs.Manifest.Caching
import EventTracking.Proofs.Manifest.Tracking

/-!
This module contains the theorem on the preview of a manifest: the entities that the command prints are those
that tracking attaches to an event of that schema, or to one without a schema.
-/

namespace EventTracking

open Processing

/-! ### The words of the command -/

namespace Arguments

def wordsOf (options : List (Flag × String)) : List String :=
  options.flatMap fun (f, value) => ["--" ++ f.long, value]

def Names (flags : List Flag) (f : Flag) : Prop :=
  "--" ++ f.long ≠ "--" ∧ isOption ("--" ++ f.long) = true ∧ flag? flags ("--" ++ f.long) = some (f, none)

instance (flags : List Flag) (f : Flag) : Decidable (Names flags f) := inferInstanceAs (Decidable (_ ∧ _ ∧ _))

theorem read?_wordsOf_append {flags : List Flag} {options : List (Flag × String)} {words : List String}
    {a : Arguments} (h : ∀ o ∈ options, Names flags o.1) (hwords : read? flags words = some a) :
    read? flags (wordsOf options ++ words)
      =
    some ⟨options.map (fun o => (o.1.long, o.2)) ++ a.options, a.words⟩ := by
  induction options with
  | nil => exact hwords
  | cons o options ih =>
    obtain ⟨⟨hword, hoption, hflag⟩, hrest⟩ := List.forall_mem_cons.1 h
    have hcons : wordsOf (o :: options) ++ words
        = ("--" ++ o.1.long) :: o.2 :: (wordsOf options ++ words) := rfl
    rw [hcons, read?.eq_def]
    dsimp only
    rw [if_neg hword, if_neg (by simp [hoption]), hflag]
    dsimp only
    rw [ih hrest]
    rfl

theorem read?_wordsOf {flags : List Flag} {options : List (Flag × String)}
    (h : ∀ o ∈ options, Names flags o.1) :
    read? flags (wordsOf options) = some ⟨options.map fun o => (o.1.long, o.2), []⟩ := by
  have happend : read? flags (wordsOf options ++ []) = _ := read?_wordsOf_append h rfl
  rw [List.append_nil, List.append_nil] at happend
  exact happend

end Arguments

namespace Command

def previewFlags : List Flag := [pathFlag, schemaFlag, typeFlag]

def previewOptions (path : String) (schema type : Option String) : List (Flag × String) :=
  (pathFlag, path) :: (schema.toList.map (schemaFlag, ·) ++ type.toList.map (typeFlag, ·))

def previewWords (path : String) (schema type : Option String) : List String :=
  "contexts" :: "resolve" :: Arguments.wordsOf (previewOptions path schema type)

theorem names_previewOptions (path : String) (schema type : Option String) :
    ∀ o ∈ previewOptions path schema type, Arguments.Names previewFlags o.1 := by
  have hflags : ∀ f ∈ previewFlags, Arguments.Names previewFlags f := by decide +kernel
  rw [previewOptions, List.forall_mem_cons, List.forall_mem_append, List.forall_mem_map, List.forall_mem_map]
  exact ⟨hflags pathFlag (by decide), fun _ _ => hflags schemaFlag (by decide),
    fun _ _ => hflags typeFlag (by decide)⟩

theorem read?_previewWords (path : String) (schema type : Option String) :
    Command.read? (previewWords path schema type)
      =
    some (.resolveManifest path (nonEmpty schema) (nonEmpty type)) := by
  have hread : Command.read? (previewWords path schema type)
      = readContexts? "resolve" (Arguments.wordsOf (previewOptions path schema type)) := rfl
  have hwords : Arguments.read? [pathFlag, schemaFlag, typeFlag]
      (Arguments.wordsOf (previewOptions path schema type)) = _ :=
    Arguments.read?_wordsOf (names_previewOptions path schema type)
  rw [hread, readContexts?, hwords]
  cases schema <;> cases type <;> rfl

end Command

/-! ### What the command prints -/

namespace Outcome

variable {vs : List Value}

def Shows (o : Outcome) (vs : List Value) : Prop :=
  ∃ j, Json.ofData (.list vs) = .ok j ∧ o.exitCode = 0 ∧ o.outputLines = [j.render .page] ∧ o.errorLines = []

theorem plain_render (st : Json.Style) (j : Json) : Terminal.plain (j.render st) = j.render st := by
  have hescape : Terminal.escape ∉ (j.render st).toList :=
    fun h => absurd (j.isShown_render st Terminal.escape h) (by decide)
  rw [Terminal.plain, Terminal.plainChars_of_not_mem hescape, String.ofList_toList]

theorem shows_printed (h : ∀ v ∈ vs, v.IsSerializable) : (printed (.list vs)).Shows vs := by
  obtain ⟨j, hj⟩ := Value.isSerializable_list.2 h
  have hprinted : printed (.list vs) = .done 0 [j.render .page] [] := by
    rw [printed, hj]
  rw [hprinted]
  refine ⟨j, hj, rfl, ?_, rfl⟩
  rw [outputLines, List.map_singleton, plain_render]

end Outcome

structure Manifest.IsAt (m : Manifest) (path : String) (files : FileTree) : Prop where
  usable : path.toList.contains (Char.ofNat 0) = false
  present : Command.pathExists path files = true
  loads : Manifest.ofPath (.ofText path) files = .ok m

namespace Command

variable {σ : Type} {m : Manifest} {path : String} {files : FileTree}

def Prints (files : FileTree) (words : List String) (vs : List Value) : Prop :=
  ∃ command, Command.read? words = some command
    ∧ ∀ s : Session Unit, ∃ outcome s', command.run files s = (.ok outcome, s') ∧ outcome.Shows vs

theorem withManifest_run (h : m.IsAt path files) (use : Manifest → Act (Session σ) Outcome) (s : Session σ) :
    ∃ s', withManifest path files use s = use m s' := by
  have hread : Manifest.Reading.ofFiles.ofPath files (.ofText path) = .ok m := h.loads
  obtain ⟨s', hload⟩ := Manifest.Cache.load_of_read (c := .empty) rfl hread s
  refine ⟨s', ?_⟩
  rw [withManifest, if_neg (by simpa using h.usable), if_pos h.present,
    Act.bind_run (Act.onSubject_run hload)]
  rfl

theorem preview_run (m : Manifest) (e : ContextEvent) (s : Session σ) :
    ∃ s', preview m e s = (.ok (.printed (.list (m.applicable e.schema))), s') := by
  obtain ⟨text, happly⟩ := m.apply_run .empty s
  obtain ⟨s', hresolve, _⟩ := m.resolve_registered_run (fun _ _ => return .null) e
    { s with records := s.records ++ [⟨Manifest.logger, .debug, text⟩] }
  refine ⟨s', ?_⟩
  rw [preview, Act.bind_run happly, Act.bind_run hresolve, Act.pure_run]

theorem schema_sampleEvent (schema type : Option String) :
    (sampleEvent (nonEmpty schema) (nonEmpty type)).schema = schema.getD "" := by
  have hschema : ∀ schema type, (sampleEvent schema type).schema = schema.getD "" := by
    rintro (_ | s) (_ | t) <;> rfl
  rw [hschema]
  cases schema with
  | none => rfl
  | some s =>
    by_cases hs : s = ""
    . rw [hs]
      rfl
    . simp [nonEmpty, Option.filter, hs]

theorem prints_preview (h : m.IsAt path files) (hentities : ∀ e ∈ m.entries, e.entity.toValue.IsSerializable)
    (schema type : Option String) :
    Prints files (previewWords path schema type) (m.applicable (schema.getD "")) := by
  refine ⟨_, read?_previewWords path schema type, ?_⟩
  intro s
  obtain ⟨s₁, hload⟩ := withManifest_run h
    (fun m => preview m (sampleEvent (nonEmpty schema) (nonEmpty type))) s
  obtain ⟨s₂, hpreview⟩ := preview_run m (sampleEvent (nonEmpty schema) (nonEmpty type)) s₁
  rw [schema_sampleEvent] at hpreview
  exact ⟨_, s₂, hload.trans hpreview, Outcome.shows_printed (Manifest.isSerializable_applicable hentities _)⟩

end Command

/-! ### The agreement -/

namespace Event

variable {schema : String} {data : Value}

theorem hasDocuments_describe (h : data.IsSerializable) :
    HasDocuments (selfDescribingBuilder (describe schema data)) := by
  have hpair : ∀ (sc : String) (dt : Value), dt.IsSerializable →
      Value.AreSerializable [(.str "sc", .str sc), (.str "dt", dt)] := by
    intro sc dt hdt
    simp [Value.AreSerializable, Json.keyText, hdt, Value.isSerializable_str]
  refine ⟨?_, by simp [selfDescribingBuilder, Builder.empty]⟩
  rw [selfDescribingBuilder, List.forall_mem_singleton]
  exact Value.isSerializable_object.2 (hpair _ _ (Value.isSerializable_object.2 (hpair schema data h)))

theorem carriesNoContexts_selfDescribing (encode : Bool) (event : Value) :
    (selfDescribingBuilder event).CarriesNoContexts encode where
  entities := rfl
  pairs := by
    have hkeys : (selfDescribingBuilder event).pairs.keys = ["e"] := rfl
    rw [hkeys]
    cases encode <;> decide
  deferred := by
    rw [selfDescribingBuilder, List.forall_mem_singleton]
    cases encode <;> simp [isContexts, chosenKey, contextsKey, encodedContextsKey, plainContextsKey]

end Event

theorem ContextEvent.schemaOf_eq_empty {ds : List Deferred} (h : ∀ d ∈ ds, d.keyIfEncoded ≠ eventKey) :
    schemaOf ds = "" := by
  have hnone : ds.filter (·.keyIfEncoded == eventKey) = [] := by
    rw [List.filter_eq_nil_iff]
    intro d hd
    simpa using h d hd
  rw [schemaOf, hnone]
  rfl

namespace Manifest

open Command (Prints previewWords)

variable {σ : Type} {t : Tracker} {s s₀ : Session σ} {m : Manifest} {r : Registry}

/--
The preview of a manifest agrees with tracking. With a schema, the entities that are printed are those that
tracking adds to a self-describing event of that schema; without one, they are those that it adds to a builder
without contexts and without such an event, whatever the type is.
-/
theorem preview_agrees (users : Users σ) {path : String} {files : FileTree} (hm : m.IsAt path files)
    (hentities : ∀ e ∈ m.entries, e.entity.toValue.IsSerializable)
    (happly : (m.apply .empty s₀).1 = .ok r) (ht : t.OnlyHas r)
    (hpairs : contextsKey t.base64.truthy ∉ t.pairs.keys) {timestamp : Timestamp} {time : String}
    (htime : (timestamp.milliseconds s.now).bind Value.integerText = .ok time) (type : Option String) :
    (∀ schema data, data.IsSerializable →
        Prints files (previewWords path (some schema) type) (m.applicable schema)
          ∧ t.Adds users timestamp (Event.selfDescribingBuilder (Event.describe schema data)) s
            (m.applicable schema))
      ∧ ∀ b, b.built = none → HasDocuments b → b.CarriesNoContexts t.base64.truthy →
        (∀ d ∈ b.deferred, d.keyIfEncoded ≠ ContextEvent.eventKey) →
          Prints files (previewWords path none type) (m.applicable "")
            ∧ t.Adds users timestamp b s (m.applicable "") := by
  constructor
  . intro schema data hdata
    refine ⟨Command.prints_preview hm hentities (some schema) type, ?_⟩
    exact Tracker.adds_applicable users hentities happly ht hpairs rfl (Event.hasDocuments_describe hdata)
      (Event.carriesNoContexts_selfDescribing _ _) rfl htime
  . intro b hopen hdocuments hcarries hdeferred
    refine ⟨Command.prints_preview hm hentities none type, ?_⟩
    exact Tracker.adds_applicable users hentities happly ht hpairs hopen hdocuments hcarries
      (ContextEvent.schemaOf_eq_empty hdeferred) htime

def vendorFile : FileTree :=
  let text := "contexts:\n- accept: iglu:com.acme/*/jsonschema/*-*-*\n"
    ++ "  entity:\n    sc: buyer\n    dt: \x7bid: one\x7d\n"
  ⟨["work"], [], [(["work", "contexts.yaml"], text.toUTF8.toList)]⟩

def checkout : String := "iglu:com.acme/checkout/jsonschema/1-0-0"

theorem preview_agrees_vendorFile :
    ∃ m : Manifest, (m.applicable checkout).map (fun v => (v.field? "sc").bind Value.text?) = [some "buyer"]
      ∧ m.applicable "" = []
      ∧ Prints vendorFile (previewWords "contexts.yaml" (some checkout) none) (m.applicable checkout)
      ∧ (Tracker.holding (m.registered .empty) true).Adds Tracker.namesakes .now
        (Event.selfDescribingBuilder (Event.describe checkout (.object []))) Tracker.epoch
        (m.applicable checkout)
      ∧ Prints vendorFile (previewWords "contexts.yaml" none none) []
      ∧ (Tracker.holding (m.registered .empty) true).Adds Tracker.namesakes .now .empty Tracker.epoch [] := by
  have hloads : ((ofPath (.ofText "contexts.yaml") vendorFile).toOption.map fun m =>
      (m.entries.all (fun e => (Json.ofData e.entity.toValue).toOption.isSome),
        (m.applicable checkout).map (fun v => (v.field? "sc").bind Value.text?), (m.applicable "").isEmpty))
      = some (true, [some "buyer"], true) := by
    decide +kernel
  cases hm : ofPath (.ofText "contexts.yaml") vendorFile with
  | error f =>
    rw [hm] at hloads
    cases hloads
  | ok m =>
    rw [hm] at hloads
    obtain ⟨hall, hrest⟩ := Prod.mk.inj (Option.some.inj hloads)
    obtain ⟨hnames, hempty⟩ := Prod.mk.inj hrest
    rw [List.isEmpty_iff] at hempty
    have hentities : ∀ e ∈ m.entries, e.entity.toValue.IsSerializable :=
      fun e he => isSerializable_iff.2 (List.all_eq_true.1 hall e he)
    have hat : m.IsAt "contexts.yaml" vendorFile := ⟨by decide, by decide +kernel, hm⟩
    obtain ⟨hschema, hnone⟩ := preview_agrees Tracker.namesakes hat hentities (m.apply_empty Tracker.epoch)
      (Tracker.onlyHas_holding _ true) List.not_mem_nil Tracker.time_epoch none
    obtain ⟨hprints, hadds⟩ := hschema checkout (.object []) ⟨.obj [], rfl⟩
    obtain ⟨hprintsEmpty, haddsEmpty⟩ := hnone .empty rfl hasDocuments_empty
      ⟨rfl, List.not_mem_nil, by simp [Builder.empty]⟩ (by simp [Builder.empty])
    rw [hempty] at hprintsEmpty haddsEmpty
    exact ⟨m, hnames, hempty, hprints, hadds, hprintsEmpty, haddsEmpty⟩

end Manifest

end EventTracking
