import EventTracking.Manifest.Cache
import EventTracking.Proofs.Session
import EventTracking.Proofs.Validation
import Mathlib.Data.List.DropRight

/-!
This module contains the theorem on the cache of manifests: whatever becomes of the files, a load gives the
manifest that the earliest successful load of the same place has found, until the cache is cleared. It is about
any way of resolving paths and of reading; in files, what is found is what the place held.
-/

namespace EventTracking

/-! ### Files that are found -/

namespace FileTree

variable {t : FileTree} {p : Path} {content : List UInt8}

theorem content?_of_walk {place steps : List String} (h : t.walk place steps = .ok (.file content)) :
    t.content? (steps.foldl step place) = some content := by
  induction steps generalizing place with
  | nil => cases h
  | cons next rest ih =>
    rw [walk] at h
    split at h
    . cases h
    . dsimp only at h
      split at h
      . exact ih h
      . split at h
        . next hcontent =>
          split at h
          . next hrest =>
            cases h
            rw [List.isEmpty_iff.1 hrest]
            exact hcontent
          . cases h
        . cases h

theorem content?_of_find (h : t.find p = .ok (.file content)) : t.content? (t.resolve p) = some content := by
  unfold find at h
  split at h
  . cases h
  . split at h
    . cases h
    . exact content?_of_walk h

end FileTree

namespace Manifest

variable {σ World Spelling Key : Type}

/-! ### Manifests that are read -/

def fileText? (content : List UInt8) : Option String :=
  (String.fromUTF8? ⟨content.toArray⟩).map fun text => String.ofList (unifyLineEnds text.toList)

theorem exists_content_of_textAt {files : FileTree} {path : Path} {text : String}
    (h : textAt files path = .ok text) :
    ∃ content, files.content? (files.resolve path) = some content ∧ fileText? content = some text := by
  unfold textAt at h
  split at h
  . cases h
  . cases h
  . cases h
  . cases h
  . next content hfind =>
    refine ⟨content, FileTree.content?_of_find hfind, ?_⟩
    rw [fileText?]
    split at h
    . cases h
    . next htext =>
      rw [htext, ← Except.ok.inj h]
      rfl

namespace Reading

variable {r : Reading World Spelling Key} {world : World} {path : Spelling} {m : Manifest}

def Holds (r : Reading World Spelling Key) (text : String) (m : Manifest) : Prop :=
  ∀ source, (do ofDocument source (← r.document text)) = .ok m

theorem ofDocument_of_ok {source : String} {document : Value} (h : ofDocument source document = .ok m)
    (source' : String) : ofDocument source' document = .ok m := by
  cases document with
  | object => exact h
  | _ => cases h

theorem exists_text_of_ofPath (h : r.ofPath world path = .ok m) :
    ∃ text, r.text world path = .ok text ∧ r.Holds text m := by
  obtain ⟨text, htext, h⟩ := bind_eq_ok_iff.1 h
  obtain ⟨document, hdocument, h⟩ := bind_eq_ok_iff.1 h
  refine ⟨text, htext, fun source => ?_⟩
  rw [bind_eq_ok_iff]
  exact ⟨document, hdocument, ofDocument_of_ok h source⟩

end Reading

/-! ### Single loads -/

section

variable [DecidableEq Key] {r : Reading World Spelling Key} {world : World} {path : Spelling} {m : Manifest}

namespace Cache

variable {c : Cache Key}

theorem load_of_cached {loaded : Loaded} (h : c.get? (r.resolve world path) = some loaded) (s : Session σ) :
    ∃ s', load r path world (c, s) = (.ok loaded, c, s') := by
  rw [load, Act.bind_run Act.subject_run, h]
  exact ⟨_, rfl⟩

theorem load_of_read (h : c.get? (r.resolve world path) = none) (hm : r.ofPath world path = .ok m)
    (s : Session σ) :
    ∃ s', load r path world (c, s)
      =
    (.ok (c.insert (r.resolve world path) m).1, (c.insert (r.resolve world path) m).2, s') := by
  rw [load, Act.bind_run Act.subject_run, h, hm]
  exact ⟨_, rfl⟩

theorem load_of_failed {f : Fault} (h : c.get? (r.resolve world path) = none)
    (hf : r.ofPath world path = .error f) (s : Session σ) : load r path world (c, s) = (.error f, c, s) := by
  rw [load, Act.bind_run Act.subject_run, h, hf]
  rfl

theorem get?_insert (place place' : Key) (m : Manifest) (c : Cache Key) :
    (c.insert place m).2.get? place' = if place = place' then some ⟨c.count, m⟩ else c.get? place' := by
  rw [insert, get?, List.lookup_cons]
  by_cases hplace : place = place'
  . rw [if_pos hplace, beq_iff_eq.2 hplace.symm]
  . rw [if_neg hplace, beq_eq_false_iff_ne.2 (Ne.symm hplace)]
    rfl

end Cache

end

/-! ### Histories of loads -/

structure Shelf (World Key : Type) where
  world : World
  cache : Cache Key

namespace Shelf

inductive Step (World Spelling : Type) where
  | edit (change : World → Except Fault World)
  | load (path : Spelling)
  | loadText (text : String)
  | clear

namespace Step

/-- The manifest that is loaded, if any is. What a load has done to the cache stays done if it fails. -/
def perform [DecidableEq Key] (r : Reading World Spelling Key) :
    Step World Spelling → Act (Shelf World Key × Session σ) (Option Manifest)
  | .edit change => do
    Act.updateSubject fun shelf => return { shelf with world := ← change shelf.world }
    return none
  | .load path => do
    let shelf ← Act.subject
    let (outcome, cache) ← Act.besideSubject (Act.onSubject shelf.cache (Cache.load r path shelf.world))
    Act.setSubject { shelf with cache := cache }
    return some (← Act.ofExcept outcome).manifest
  | .loadText text => return some (← Act.ofExcept (r.ofText text))
  | .clear => do
    let shelf ← Act.subject
    Act.setSubject { shelf with cache := shelf.cache.clear }
    return none

end Step

structure Happening (World Spelling : Type) where
  step : Step World Spelling
  world : World
  outcome : Except Fault (Option Manifest)

def run [DecidableEq Key] (r : Reading World Spelling Key) :
    List (Step World Spelling) → Shelf World Key × Session σ →
      List (Happening World Spelling) × Shelf World Key × Session σ
  | [], u => ([], u)
  | step :: steps, u =>
    match step.perform r u with
    | (outcome, u') =>
      match run r steps u' with
      | (history, u'') => (⟨step, u.1.world, outcome⟩ :: history, u'')

/-- A manifest that a load has found, with the world at that time and the path as it was spelled. -/
structure Found (World Spelling : Type) where
  world : World
  path : Spelling
  manifest : Manifest

section

variable [DecidableEq Key] (r : Reading World Spelling Key)

namespace Happening

def clears (h : Happening World Spelling) : Bool :=
  match h.step with
  | .clear => true
  | _ => false

def found? (place : Key) (h : Happening World Spelling) : Option (Found World Spelling) :=
  match h.step, h.outcome with
  | .load path, .ok (some m) => if r.resolve h.world path = place then some ⟨h.world, path, m⟩ else none
  | _, _ => none

end Happening

def sinceClear (history : List (Happening World Spelling)) : List (Happening World Spelling) :=
  history.rtakeWhile fun h => !h.clears

/-- What the earliest successful load of a place has found since the cache was cleared. -/
def earliest? (place : Key) (history : List (Happening World Spelling)) : Option (Found World Spelling) :=
  (sinceClear history).findSome? (Happening.found? r place)

end

variable [DecidableEq Key] {r : Reading World Spelling Key} {shelf shelf' : Shelf World Key} {s s' : Session σ}
  {step : Step World Spelling} {history : List (Happening World Spelling)} {h : Happening World Spelling}
  {path : Spelling} {m : Manifest} {place : Key} {outcome : Except Fault (Option Manifest)} {cache : Cache Key}

theorem earliest?_of_clears (hclears : h.clears = true) : earliest? r place (history ++ [h]) = none := by
  rw [earliest?, sinceClear, List.rtakeWhile_concat_neg _ _ _ (by simp [hclears])]
  rfl

theorem earliest?_append (hclears : h.clears = false) :
    earliest? r place (history ++ [h]) = (earliest? r place history).or (h.found? r place) := by
  rw [earliest?, sinceClear, List.rtakeWhile_concat_pos _ _ _ (by simp [hclears]), List.findSome?_append]
  cases hfound : h.found? r place <;> simp [hfound, earliest?, sinceClear]

theorem found?_load (path : Spelling) (place : Key) (world : World) (m : Manifest) :
    Happening.found? r place ⟨.load path, world, .ok (some m)⟩
      = if r.resolve world path = place then some ⟨world, path, m⟩ else none :=
  rfl

inductive Loads (r : Reading World Spelling Key) (path : Spelling) (shelf : Shelf World Key) :
    Except Fault (Option Manifest) → Cache Key → Prop where
  | cached {loaded : Loaded} (held : shelf.cache.get? (r.resolve shelf.world path) = some loaded) :
      Loads r path shelf (.ok (some loaded.manifest)) shelf.cache
  | read {m : Manifest} (absent : shelf.cache.get? (r.resolve shelf.world path) = none)
      (read : r.ofPath shelf.world path = .ok m) :
      Loads r path shelf (.ok (some m)) (shelf.cache.insert (r.resolve shelf.world path) m).2
  | failed {f : Fault} (absent : shelf.cache.get? (r.resolve shelf.world path) = none)
      (fault : r.ofPath shelf.world path = .error f) : Loads r path shelf (.error f) shelf.cache

theorem load_run (r : Reading World Spelling Key) (path : Spelling) (shelf : Shelf World Key) (s : Session σ) :
    ∃ outcome cache s', (Step.load path).perform r (shelf, s) = (outcome, ⟨shelf.world, cache⟩, s')
      ∧ Loads r path shelf outcome cache := by
  have hload : ∀ outcome cache s', Cache.load r path shelf.world (shelf.cache, s) = (outcome, cache, s') →
      (Step.load path).perform r (shelf, s)
        = (outcome.map fun loaded => some loaded.manifest, ⟨shelf.world, cache⟩, s') := by
    intro outcome cache s' h
    have hbeside : Act.besideSubject (Act.onSubject shelf.cache (Cache.load r path shelf.world)) (shelf, s)
        = (.ok (outcome, cache), shelf, s') :=
      Act.besideSubject_run (Act.onSubject_run h)
    rw [Step.perform, Act.bind_run Act.subject_run, Act.bind_run hbeside]
    cases outcome <;> rfl
  cases hheld : shelf.cache.get? (r.resolve shelf.world path) with
  | some loaded =>
    obtain ⟨s', h⟩ := Cache.load_of_cached hheld s
    exact ⟨_, _, s', hload _ _ s' h, .cached hheld⟩
  | none =>
    cases hread : r.ofPath shelf.world path with
    | ok m =>
      obtain ⟨s', h⟩ := Cache.load_of_read hheld hread s
      exact ⟨_, _, s', hload _ _ s' h, .read hheld hread⟩
    | error f => exact ⟨_, _, s, hload _ _ s (Cache.load_of_failed hheld hread s), .failed hheld hread⟩

theorem loadText_run (r : Reading World Spelling Key) (text : String) (shelf : Shelf World Key) (s : Session σ) :
    (Step.loadText text).perform r (shelf, s) = ((r.ofText text).map some, shelf, s) := by
  rw [Step.perform]
  cases r.ofText text <;> rfl

def Found.IsGenuine (r : Reading World Spelling Key) (past : Found World Spelling) : Prop :=
  ∃ text, r.text past.world past.path = .ok text ∧ r.Holds text past.manifest

/-- In files, what has been found was in the content of the place then, however the path was spelled. -/
theorem Found.IsGenuine.exists_content {past : Found FileTree Path} (h : past.IsGenuine Reading.ofFiles) :
    ∃ content text, past.world.content? (past.world.resolve past.path) = some content
      ∧ fileText? content = some text ∧ Reading.ofFiles.Holds text past.manifest := by
  obtain ⟨text, htext, hholds⟩ := h
  obtain ⟨content, hcontent, hfile⟩ := exists_content_of_textAt htext
  exact ⟨content, text, hcontent, hfile, hholds⟩

/-- Whether the cache holds what the earliest loads have found, and these have found it in texts. -/
structure Coherent (r : Reading World Spelling Key) (history : List (Happening World Spelling))
    (shelf : Shelf World Key) : Prop where
  held : ∀ place, (shelf.cache.get? place).map Loaded.manifest = (earliest? r place history).map Found.manifest
  genuine : ∀ place past, earliest? r place history = some past → past.IsGenuine r

theorem coherent_nil (r : Reading World Spelling Key) (world : World) : Coherent r [] ⟨world, .empty⟩ := by
  constructor
  . intro place
    rfl
  . rintro place past ⟨⟩

namespace Coherent

theorem of_same (hcoherent : Coherent r history shelf) (hcache : shelf'.cache = shelf.cache)
    (hsame : ∀ place, earliest? r place (history ++ [h]) = earliest? r place history) :
    Coherent r (history ++ [h]) shelf' := by
  constructor
  . intro place
    rw [hsame, hcache]
    exact hcoherent.held place
  . intro place past
    rw [hsame]
    exact hcoherent.genuine place past

theorem of_not_found (hcoherent : Coherent r history shelf) (hcache : shelf'.cache = shelf.cache)
    (hclears : h.clears = false) (hfound : ∀ place, h.found? r place = none) :
    Coherent r (history ++ [h]) shelf' := by
  apply hcoherent.of_same hcache
  intro place
  rw [earliest?_append hclears, hfound, Option.or_none]

theorem of_clears (hclears : h.clears = true) (world : World) (cache : Cache Key) :
    Coherent r (history ++ [h]) ⟨world, cache.clear⟩ := by
  constructor
  . intro place
    rw [earliest?_of_clears hclears]
    rfl
  . intro place past hearliest
    rw [earliest?_of_clears hclears] at hearliest
    cases hearliest

theorem of_cached (hcoherent : Coherent r history shelf) {loaded : Loaded}
    (held : shelf.cache.get? (r.resolve shelf.world path) = some loaded) :
    Coherent r (history ++ [⟨.load path, shelf.world, .ok (some loaded.manifest)⟩]) shelf := by
  apply hcoherent.of_same rfl
  intro place
  rw [earliest?_append rfl, found?_load]
  split
  . next hplace =>
    subst hplace
    have hheld := hcoherent.held (r.resolve shelf.world path)
    rw [held] at hheld
    obtain ⟨past, hpast, _⟩ := Option.map_eq_some_iff.1 hheld.symm
    rw [hpast, Option.some_or]
  . rw [Option.or_none]

theorem of_read (hcoherent : Coherent r history shelf)
    (absent : shelf.cache.get? (r.resolve shelf.world path) = none) (hread : r.ofPath shelf.world path = .ok m) :
    Coherent r (history ++ [⟨.load path, shelf.world, .ok (some m)⟩])
      ⟨shelf.world, (shelf.cache.insert (r.resolve shelf.world path) m).2⟩ := by
  have hnone : earliest? r (r.resolve shelf.world path) history = none := by
    have hheld := hcoherent.held (r.resolve shelf.world path)
    rw [absent] at hheld
    exact Option.map_eq_none_iff.1 hheld.symm
  -- Nothing was found at the place before, so what is found now is the earliest there.
  have hearliest : ∀ place, earliest? r place (history ++ [⟨.load path, shelf.world, .ok (some m)⟩])
      = if r.resolve shelf.world path = place then some ⟨shelf.world, path, m⟩
        else earliest? r place history := by
    intro place
    rw [earliest?_append rfl, found?_load]
    split
    . next hplace =>
      subst hplace
      rw [hnone, Option.none_or]
    . rw [Option.or_none]
  constructor
  . intro place
    rw [hearliest, Cache.get?_insert]
    split
    . rfl
    . exact hcoherent.held place
  . intro place past h
    rw [hearliest] at h
    split at h
    . cases h
      exact Reading.exists_text_of_ofPath hread
    . exact hcoherent.genuine place past h

theorem of_loads (hcoherent : Coherent r history shelf) (hloads : Loads r path shelf outcome cache) :
    Coherent r (history ++ [⟨.load path, shelf.world, outcome⟩]) ⟨shelf.world, cache⟩ := by
  cases hloads with
  | cached held => exact hcoherent.of_cached held
  | read absent hread => exact hcoherent.of_read absent hread
  | failed absent fault => exact hcoherent.of_not_found rfl rfl fun _ => rfl

end Coherent

theorem edit_run {change : World → Except Fault World} {u : Shelf World Key × Session σ}
    (h : (Step.edit change).perform r (shelf, s) = (outcome, u)) : u.1.cache = shelf.cache := by
  rw [Step.perform] at h
  cases hchange : change shelf.world with
  | ok world =>
    rw [Act.bind_run (Act.updateSubject_run (by rw [hchange]; rfl))] at h
    cases h
    rfl
  | error f =>
    rw [Act.bind_run_error (Act.updateSubject_run_error (by rw [hchange]; rfl))] at h
    cases h
    rfl

theorem Coherent.perform (hcoherent : Coherent r history shelf) {u : Shelf World Key × Session σ}
    (h : step.perform r (shelf, s) = (outcome, u)) :
    Coherent r (history ++ [⟨step, shelf.world, outcome⟩]) u.1 := by
  cases step with
  | edit => exact hcoherent.of_not_found (edit_run h) rfl fun _ => rfl
  | load path =>
    obtain ⟨outcome', cache, s', hrun, hloads⟩ := load_run r path shelf s
    cases hrun.symm.trans h
    exact hcoherent.of_loads hloads
  | loadText text =>
    cases (loadText_run r text shelf s).symm.trans h
    exact hcoherent.of_not_found rfl rfl fun _ => rfl
  | clear =>
    cases h
    exact of_clears rfl shelf.world shelf.cache

theorem Coherent.run (hcoherent : Coherent r history shelf) (steps : List (Step World Spelling))
    {u : Shelf World Key × Session σ} {later : List (Happening World Spelling)}
    (h : run r steps (shelf, s) = (later, u)) : Coherent r (history ++ later) u.1 := by
  induction steps generalizing history shelf s later with
  | nil =>
    cases h
    rwa [List.append_nil]
  | cons step steps ih =>
    rcases hstep : step.perform r (shelf, s) with ⟨outcome, shelf', s'⟩
    rcases hrest : Shelf.run r steps (shelf', s') with ⟨rest, u'⟩
    rw [Shelf.run, hstep] at h
    dsimp only at h
    rw [hrest] at h
    cases h
    have hall := ih (hcoherent.perform hstep) hrest
    rwa [List.append_assoc] at hall

theorem Loads.outcome_eq (h : Loads r path shelf outcome cache)
    (absent : shelf.cache.get? (r.resolve shelf.world path) = none) :
    outcome = (r.ofPath shelf.world path).map some := by
  cases h with
  | cached held =>
    rw [absent] at held
    cases held
  | read _ hread =>
    rw [hread]
    rfl
  | failed _ fault =>
    rw [fault]
    rfl

theorem Loads.held {given : Option Manifest} (h : Loads r path shelf (.ok given) cache) :
    ∃ m, given = some m ∧ (cache.get? (r.resolve shelf.world path)).map Loaded.manifest = some m := by
  cases h with
  | @cached loaded held =>
    refine ⟨loaded.manifest, rfl, ?_⟩
    rw [held]
    rfl
  | @read m absent hread =>
    refine ⟨m, rfl, ?_⟩
    rw [Cache.get?_insert, if_pos rfl]
    rfl

structure LoadsEarliest (σ : Type) (r : Reading World Spelling Key) (history : List (Happening World Spelling))
    (shelf : Shelf World Key) (path : Spelling) (outcome : Except Fault (Option Manifest)) (cache : Cache Key) :
    Prop where
  /-- A manifest is in the text that was in the file at the earliest load of the place, which may be this one. -/
  returned (given : Option Manifest) (h : outcome = .ok given) : ∃ past, given = some past.manifest
    ∧ earliest? r (r.resolve shelf.world path) (history ++ [⟨.load path, shelf.world, outcome⟩]) = some past
    ∧ past.IsGenuine r
  /-- If there was no earlier load the file is read as it is. -/
  fresh (h : earliest? r (r.resolve shelf.world path) history = none) :
    outcome = (r.ofPath shelf.world path).map some
  failed (f : Fault) (h : outcome = .error f) : cache = shelf.cache
  /-- After a load that has failed a further one of the place reads whatever the file has become. -/
  repaired (f : Fault) (h : outcome = .error f) (world : World)
    (hplace : r.resolve world path = r.resolve shelf.world path) (s : Session σ) : ∃ cache' s',
    (Step.load path).perform r (⟨world, cache⟩, s) = ((r.ofPath world path).map some, ⟨world, cache'⟩, s')

theorem Coherent.of_load (hcoherent : Coherent r history shelf) (hloads : Loads r path shelf outcome cache) :
    LoadsEarliest σ r history shelf path outcome cache where
  returned given hgiven := by
    subst hgiven
    have hafter := hcoherent.of_loads hloads
    obtain ⟨m, hm, hheld⟩ := hloads.held
    rw [hafter.held] at hheld
    obtain ⟨past, hearliest, rfl⟩ := Option.map_eq_some_iff.1 hheld
    exact ⟨past, hm, hearliest, hafter.genuine _ _ hearliest⟩
  fresh hnone := by
    apply hloads.outcome_eq
    have hheld := hcoherent.held (r.resolve shelf.world path)
    rw [hnone] at hheld
    exact Option.map_eq_none_iff.1 hheld
  failed f hf := by
    cases hloads with
    | cached | read => cases hf
    | failed => rfl
  repaired f hf world hplace s := by
    cases hloads with
    | cached | read => cases hf
    | failed absent =>
      rw [← hplace] at absent
      obtain ⟨outcome', cache', s', hrun, hloads'⟩ := load_run r path ⟨world, shelf.cache⟩ s
      rw [hloads'.outcome_eq absent] at hrun
      exact ⟨cache', s', hrun⟩

/--
Whatever has been done to the world and with loaders, a load that succeeds gives the manifest that the earliest
successful load of the place has found in its file since the cache was cleared. One that fails leaves the
cache as it is. A manifest in a text is read from the text alone and leaves everything as it is.
-/
theorem load_coherent (r : Reading World Spelling Key) (steps : List (Step World Spelling)) (world : World)
    (s : Session σ) :
    ∃ history shelf s', run r steps (⟨world, .empty⟩, s) = (history, shelf, s')
      ∧ (∀ path, ∃ outcome cache s'',
        (Step.load path).perform r (shelf, s') = (outcome, ⟨shelf.world, cache⟩, s'')
          ∧ LoadsEarliest σ r history shelf path outcome cache)
      ∧ ∀ text, (Step.loadText text).perform r (shelf, s') = ((r.ofText text).map some, shelf, s') := by
  rcases hrun : run r steps (⟨world, .empty⟩, s) with ⟨history, shelf, s'⟩
  have hcoherent : Coherent r history shelf := (coherent_nil r world).run steps hrun
  refine ⟨history, shelf, s', rfl, ?_, fun text => loadText_run r text shelf s'⟩
  intro path
  obtain ⟨outcome, cache, s'', hload, hloads⟩ := load_run r path shelf s'
  exact ⟨outcome, cache, s'', hload, hcoherent.of_load hloads⟩

def desk : FileTree := ⟨["work"], [], [(["work", "contexts.yaml"], "contexts: []\n".toUTF8.toList)]⟩

def spoil (files : FileTree) : Except Fault FileTree :=
  (files.write (.ofText "contexts.yaml") "contexts: 1\n".toUTF8.toList).mapError .unusablePath

/-- A file that has been loaded by one spelling of its path is given out again by another one. -/
theorem load_coherent_twoSpellings :
    let steps : List (Step FileTree Path) := [.load (.ofText "contexts.yaml"), .edit spoil]
    let u := run Reading.ofFiles steps (⟨desk, .empty⟩, .initial () (.whole 0) "" toString)
    ∃ (past : Found FileTree Path) (cache : Cache (List String)) (s' : Session Unit) (content : List UInt8)
        (text : String),
      (Step.load (.ofText "/work/./contexts.yaml")).perform Reading.ofFiles u.2
        = (.ok (some past.manifest), ⟨u.2.1.world, cache⟩, s')
      ∧ past.path = .ofText "contexts.yaml"
      ∧ desk.content? ["work", "contexts.yaml"] = some content
      ∧ fileText? content = some text
      ∧ Reading.ofFiles.Holds text past.manifest
      ∧ (Reading.ofFiles.ofPath u.2.1.world (.ofText "/work/./contexts.yaml")).toOption.isNone = true := by
  intro steps u
  have hplace : Reading.ofFiles.resolve u.2.1.world (.ofText "/work/./contexts.yaml") = ["work", "contexts.yaml"] := by
    decide +kernel
  have hdesk : desk.resolve (.ofText "contexts.yaml") = ["work", "contexts.yaml"] := by decide +kernel
  have hloads : ((Step.load (.ofText "/work/./contexts.yaml")).perform Reading.ofFiles u.2).1.toOption.isSome
      = true := by
    decide +kernel
  have hearliest : (earliest? Reading.ofFiles ["work", "contexts.yaml"] u.1).map (fun past => (past.world, past.path))
      = some (desk, .ofText "contexts.yaml") := by
    decide +kernel
  have hspoilt : (Reading.ofFiles.ofPath u.2.1.world (.ofText "/work/./contexts.yaml")).toOption.isNone = true := by
    decide +kernel
  obtain ⟨history, shelf, s', hrun, hload, _⟩ :=
    load_coherent Reading.ofFiles steps desk (.initial () (.whole 0) "" toString)
  have hu : u = (history, shelf, s') := hrun
  rw [hu] at hplace hloads hearliest hspoilt ⊢
  obtain ⟨outcome, cache, s'', hperform, hends⟩ := hload (.ofText "/work/./contexts.yaml")
  rw [hperform] at hloads
  cases outcome with
  | error f => cases hloads
  | ok given =>
    obtain ⟨past, rfl, hpast, hgenuine⟩ := hends.returned given rfl
    obtain ⟨first, hfirst, hsame⟩ := Option.map_eq_some_iff.1 hearliest
    rw [hplace, earliest?_append rfl, hfirst, Option.some_or] at hpast
    cases hpast
    obtain ⟨hworld, hpath⟩ := Prod.mk.inj hsame
    obtain ⟨content, text, hcontent, htext, hholds⟩ := hgenuine.exists_content
    rw [hworld, hpath, hdesk] at hcontent
    exact ⟨past, cache, s'', content, text, hperform, hpath, hcontent, htext, hholds, hspoilt⟩

end Shelf

end Manifest

end EventTracking
