import EventTracking.FileTree
import EventTracking.Manifest
import EventTracking.Yaml.Document

/-!
This module contains the loading of manifests from files. A manifest that has been loaded once is kept
and given out again, whatever becomes of its file, until the cache is cleared. How paths lead to places and
what is read there is left open; for the program itself it is the files.
-/

namespace EventTracking.Manifest

variable {σ World Spelling Key : Type}

def ofYaml (source text : String) : Except Fault Manifest := do
  ofDocument source (← Yaml.read text)

def textSource : String := "<string>"

def unifyLineEnds : List Char → List Char
  | [] => []
  | '\r' :: '\n' :: rest => '\n' :: unifyLineEnds rest
  | '\r' :: rest => '\n' :: unifyLineEnds rest
  | c :: rest => c :: unifyLineEnds rest

def textAt (files : FileTree) (path : Path) : Except Fault String :=
  match files.find path with
  | .error .missing | .error .notDirectory => .error (.fileMissing path.text)
  | .error o => .error (.unusablePath o)
  | .ok .directory => .error (.unusablePath .isDirectory)
  | .ok (.file content) =>
    match String.fromUTF8? ⟨content.toArray⟩ with
    | none => .error .fileNotText
    | some text => .ok (String.ofList (unifyLineEnds text.toList))

structure Reading (World Spelling Key : Type) where
  resolve : World → Spelling → Key
  text : World → Spelling → Except Fault String
  document : String → Except Fault Value
  name : Spelling → String

namespace Reading

def ofPath (r : Reading World Spelling Key) (world : World) (path : Spelling) : Except Fault Manifest := do
  let text ← r.text world path
  ofDocument (r.name path) (← r.document text)

def ofText (r : Reading World Spelling Key) (text : String) : Except Fault Manifest := do
  ofDocument textSource (← r.document text)

end Reading

def Reading.ofFiles : Reading FileTree Path (List String) where
  resolve files path := files.resolve path
  text := textAt
  document := Yaml.read
  name := Path.text

def ofPath (path : Path) (files : FileTree) : Except Fault Manifest := Reading.ofFiles.ofPath files path

/-- A manifest with a number that tells apart those loaded at different times. -/
structure Loaded where
  serial : Nat
  manifest : Manifest

structure Cache (Key : Type) where
  entries : List (Key × Loaded)
  count : Nat

namespace Cache

variable [DecidableEq Key]

def logger : String := "trackercore.contexts.loader"

def empty : Cache Key := ⟨[], 0⟩

def clear (c : Cache Key) : Cache Key := { c with entries := [] }

def get? (place : Key) (c : Cache Key) : Option Loaded := c.entries.lookup place

def insert (place : Key) (m : Manifest) (c : Cache Key) : Loaded × Cache Key :=
  let loaded : Loaded := ⟨c.count, m⟩
  (loaded, ⟨(place, loaded) :: c.entries, c.count + 1⟩)

/-- Loads the manifest at a path, from the cache if it is there. A load that fails leaves the cache. -/
def load (r : Reading World Spelling Key) (path : Spelling) (world : World) : Act (Cache Key × Session σ) Loaded := do
  let place := r.resolve world path
  let c ← Act.subject
  match c.get? place with
  | some loaded =>
    Act.besideSubject (Session.debug logger "Context manifest cache hit: %s")
    return loaded
  | none =>
    let m ← Act.ofExcept (r.ofPath world path)
    let (loaded, c) := c.insert place m
    Act.setSubject c
    Act.besideSubject <| Session.debug logger <|
      "Loaded context manifest: path=" ++ r.name path ++ ", contexts=" ++ toString m.entries.length
    return loaded

end Cache

end EventTracking.Manifest
