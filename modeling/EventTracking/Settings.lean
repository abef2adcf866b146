import EventTracking.FileTree
import EventTracking.Log
import EventTracking.Pairs
import EventTracking.Settings.EnvFile
import EventTracking.Text.Encoding

/-!
This module contains the settings of a tracker and the sources they come from: explicit values, the
environment, an environment file and defaults, the earlier before the later.
-/

namespace EventTracking

structure Settings where
  base64 : Bool
  trackerNamespace : Option String
  trackerVersion : String
  appId : Option String
  platform : String
  logLevel : Level
  logFormat : LogFormat
  deriving DecidableEq, Repr

namespace Check

def sameIgnoringCase (a b : String) : Bool :=
  a.toList.map Char.toLower == b.toList.map Char.toLower

def readBool? (s : String) : Option Bool :=
  if ["0", "f", "n", "no", "off", "false"].any (sameIgnoringCase s) then some false
  else if ["1", "t", "y", "yes", "on", "true"].any (sameIgnoringCase s) then some true
  else none

def boolOfInt (n : Int) : Checked Bool :=
  if !isWord n then .fail .notBool
  else if n = 0 then .ok false
  else if n = 1 then .ok true
  else .fail .unreadableBool

def wholeNumber? (x : Binary64) : Option Int :=
  x.truncate?.filter fun n => x.eqInt n

def bool : Value → Checked Bool
  | .bool b => .ok b
  | .int n => boolOfInt n
  | .float x =>
    match wholeNumber? x with
    | some n => boolOfInt n
    | none => .fail .notBool
  | .null => .fail .notBool
  | .str s =>
    match readBool? s with
    | some b => .ok b
    | none => .fail .unreadableBool
  | _ => .fail .notBool

def oneOf {α : Type} (choices : List (String × α)) (v : Value) : Checked α :=
  match v.text?.bind fun t => List.lookup t choices with
  | some a => .ok a
  | none => .fail (.notAmong (choices.map (·.1)))

end Check

namespace Settings

def checkPlatform (v : Value) : Checked String := do
  let platform := Text.toLower (Text.trim (← Check.text v))
  if platform.isEmpty then .fail (.refused "platform must not be empty") else return platform

def levelChoices : List (String × Level) := Level.all.map fun l => (l.lowerName, l)

def formatChoices : List (String × LogFormat) := [.json, .text].map fun f => (f.name, f)

def defaultVersion : String := "py-0.1.0"

/-- Checks an object as settings. Fields that are absent take their defaults, others are ignored. -/
def check (v : Value) : Checked Settings :=
  let base64 := Check.field "base64" (.ok true) Check.bool v
  let trackerNamespace := Check.field "tracker_namespace" (.ok none) (Check.optional Check.text) v
  let trackerVersion := Check.field "tracker_version" (.ok defaultVersion) Check.text v
  let appId := Check.field "app_id" (.ok none) (Check.optional Check.text) v
  let platform := Check.field "platform" (.ok "srv") checkPlatform v
  let logLevel := Check.field "log_level" (.ok .warn) (Check.oneOf levelChoices) v
  let logFormat := Check.field "log_format" (.ok .json) (Check.oneOf formatChoices) v
  let checked :=
    base64.both <| trackerNamespace.both <| trackerVersion.both <| appId.both <| platform.both <|
      logLevel.both logFormat
  checked.map fun (b, n, t, a, p, l, f) => ⟨b, n, t, a, p, l, f⟩

def defaults : Settings := ⟨true, none, defaultVersion, none, "srv", .warn, .json⟩

structure Sources where
  explicit : Pairs
  environment : List (String × String)
  files : FileTree

structure Reading where
  stem : String
  caseMatters : Bool
  skipsEmpty : Bool
  nullText : Option String
  paths : List String
  encoding : String
  /-- The directories of secrets, in which no variable is looked for. -/
  secretPaths : List String

namespace Reading

def usual : Reading := ⟨"TRACKERCORE_", false, false, none, [".env"], "utf-8", []⟩

def pathsOf : Value → Except Fault (List String)
  | .null => .ok []
  | .str s => .ok [s]
  | v =>
    match v.elements? with
    | none => .error (.notIterable v.kind)
    | some xs => xs.mapM fun x =>
      match x with
      | .str s => .ok s
      | x => .error (.notPath x.kind)

def stemOf : Value → Except Fault String
  | .null => .ok usual.stem
  | .str s => .ok s
  | v => .error (.notText v.kind)

def encodingOf (v : Value) : Except Fault String :=
  if !v.truthy then .ok usual.encoding
  else
    match v.text? with
    | some name => .ok name
    | none => .error (.notText v.kind)

def ofExplicit (ps : Pairs) : Except Fault Reading := do
  let asked (name : String) : Value := (ps.get? name).getD .null
  let paths ←
    match ps.get? "_env_file" with
    | some v => pathsOf v
    | none => .ok usual.paths
  return {
    stem := ← stemOf (asked "_env_prefix")
    caseMatters := (asked "_case_sensitive").truthy
    skipsEmpty := (asked "_env_ignore_empty").truthy
    nullText := (asked "_env_parse_none_str").text?
    paths := paths
    encoding := ← encodingOf (asked "_env_file_encoding")
    secretPaths := ← pathsOf (asked "_secrets_dir") }

def fold (r : Reading) (name : String) : String := if r.caseMatters then name else Text.toLower name

/-- The value of a field among variables; of two with one name the later counts. -/
def find? (r : Reading) (field : String) (named : List (String × Option String)) : Option Value :=
  let kept := if r.skipsEmpty then named.filter fun v => v.2 != some "" else named
  let found := (kept.reverse.find? fun v => r.fold v.1 == r.fold (r.stem ++ field)).bind (·.2)
  found.map fun t => if some t == r.nullText then .null else .str t

end Reading

def fieldNames : List String :=
  ["base64", "tracker_namespace", "tracker_version", "app_id", "platform", "log_level",
    "log_format"]

namespace Sources

/-- The explicit value of a field. The case of its name does not matter, and the first one counts. -/
def explicit? (s : Sources) (field : String) : Option Value :=
  (s.explicit.find? fun p => Text.toLower p.1 == field).map (·.2)

/-- What is at a path, if anything is. Only too long a name is no path at all. -/
def placeAt? (s : Sources) (path : String) : Except Fault (Option Place) :=
  match s.files.find (.ofText path) with
  | .ok place => .ok (some place)
  | .error .nameTooLong => .error (.unusablePath .nameTooLong)
  | .error _ => .ok none

def decode (encoding : String) (content : List UInt8) : Except Fault String :=
  match Text.Encoding.ofName? encoding with
  | none => .error (.unknownEncoding encoding)
  | some e =>
    match e.decode? content with
    | none => .error .fileNotText
    | some text => .ok text

def variablesOf (s : Sources) (encoding path : String) :
    Except Fault (List (String × Option String)) := do
  match ← s.placeAt? path with
  | some (.file content) => return EnvFile.read s.environment (← decode encoding content)
  | _ => return []

def checkSecrets (s : Sources) (path : String) : Except Fault Unit := do
  match ← s.placeAt? path with
  | some (.file _) => throw .secretsNotInDirectory
  | _ => return ()

def find? (s : Sources) (r : Reading) (bindings : List (String × Option String)) (field : String) :
    Option Value :=
  s.explicit? field
    <|> r.find? field (s.environment.map fun (n, v) => (n, some v))
    <|> r.find? field bindings

def toValue (s : Sources) (r : Reading) : Except Fault Value := do
  let bindings ← r.paths.mapM (s.variablesOf r.encoding)
  r.secretPaths.forM s.checkSecrets
  return .ofPairs (fieldNames.filterMap fun f => (s.find? r bindings.flatten f).map (f, ·))

end Sources

def load (s : Sources) : Except Fault Settings := do
  match check (← s.toValue (← Reading.ofExplicit s.explicit)) with
  | .ok settings => return settings
  | .error vs => throw (.invalid vs)

def toPairs (s : Settings) : Pairs :=
  let optional (t : Option String) := (t.map Value.str).getD .null
  [("base64", .bool s.base64), ("tracker_namespace", optional s.trackerNamespace),
    ("tracker_version", .str s.trackerVersion), ("app_id", optional s.appId),
    ("platform", .str s.platform), ("log_level", .str s.logLevel.lowerName),
    ("log_format", .str s.logFormat.name)]

end Settings

end EventTracking
