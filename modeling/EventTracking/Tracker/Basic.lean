import EventTracking.Context.Registry
import EventTracking.Plugin
import EventTracking.Settings

/-!
This module contains the tracker: what one instance needs to turn a builder into a final payload, and
the changes to it that call no hooks.
-/

namespace EventTracking

structure Tracker where
  /-- The settings that were given last; none if null was given in their place. -/
  settings : Option Settings
  base64 : Value
  pairs : Pairs
  plugins : List Plugin
  registry : Registry
  callback : Value

namespace Tracker

variable {σ : Type}

def logger : String := "trackercore.core"

instance : Inhabited Tracker := ⟨⟨some .defaults, .bool true, [], [], .empty, .null⟩⟩

def identity (s : Settings) : Pairs :=
  let optional (t : Option String) := (t.map Value.str).getD .null
  [("tv", .str s.trackerVersion), ("tna", optional s.trackerNamespace), ("aid", optional s.appId),
    ("p", .str s.platform)]

def replacePairs (replacement : Pairs) (ps : Pairs) : Pairs :=
  replacement.foldl (fun acc (k, v) => if v.isNull then acc.erase k else acc.set k v) ps

def withSettings (s : Settings) (t : Tracker) : Tracker :=
  { t with settings := some s, base64 := .bool s.base64, pairs := replacePairs (identity s) t.pairs }

def facadeWith (s : Settings) (f : Facade) : Facade :=
  { f with level := s.logLevel, format := s.logFormat }

def adopt (s : Settings) : Act (Tracker × Session σ) Unit :=
  modify fun (t, session) =>
    (t.withSettings s, { session with facade := facadeWith s session.facade })

/-- Adopts settings unless null is given in their place, from which nothing can be taken. -/
def adoptGiven : Option Settings → Act (Tracker × Session σ) Unit
  | some s => adopt s
  | none => do
    modify fun (t, session) => ({ t with settings := none }, session)
    throw (.noMember Value.null.kind "base64")

def setBase64 (v : Value) (t : Tracker) : Tracker := { t with base64 := v }

def addPair (key : String) (v : Value) (t : Tracker) : Tracker :=
  { t with pairs := t.pairs.setNonNull key v }

def addPairs (more : Pairs) (t : Tracker) : Tracker :=
  { t with pairs := Pairs.setAllNonNull more t.pairs }

def resetPairs (more : Pairs) (t : Tracker) : Tracker :=
  { t with pairs := Pairs.setAllNonNull more [] }

def dimensions (width height : Value) : Value := .str (width.text ++ "x" ++ height.text)

inductive Setting where
  | base64 (v : Value)
  | pair (key : String) (v : Value)
  | pairs (more : Pairs)
  | reset (more : Pairs)
  | screenResolution (width height : Value)
  | viewport (width height : Value)
  | colorDepth (v : Value)

def set : Setting → Tracker → Tracker
  | .base64 v => setBase64 v
  | .pair key v => addPair key v
  | .pairs more => addPairs more
  | .reset more => resetPairs more
  | .screenResolution w h => addPair "res" (dimensions w h)
  | .viewport w h => addPair "vp" (dimensions w h)
  | .colorDepth v => addPair "cd" (.str v.text)

def setterKey? : String → Option String
  | "set_tracker_version" => some "tv"
  | "set_tracker_namespace" => some "tna"
  | "set_app_id" => some "aid"
  | "set_platform" => some "p"
  | "set_user_id" => some "uid"
  | "set_timezone" => some "tz"
  | "set_lang" => some "lang"
  | "set_ip_address" => some "ip"
  | "set_useragent" => some "ua"
  | _ => none

def pairsOf (v : Value) : Except Fault Pairs :=
  match v with
  | .object es => .ok (Pairs.ofEntries es)
  | v => .error (v.lacking "items")

def Setting.ofCall (setter : String) (args : List Value) : Except Fault Setting :=
  match setter, args with
  | "set_base64_encoding", [v] => .ok (.base64 v)
  | "add_payload_pair", [.str key, v] => .ok (.pair key v)
  | "add_payload_dict", [v] => (pairsOf v).map .pairs
  | "reset_payload_pairs", [] => .ok (.reset [])
  | "reset_payload_pairs", [v] => if v.truthy then (pairsOf v).map .reset else .ok (.reset [])
  | "set_screen_resolution", [w, h] => .ok (.screenResolution w h)
  | "set_viewport", [w, h] => .ok (.viewport w h)
  | "set_color_depth", [v] => .ok (.colorDepth v)
  | name, [v] =>
    match setterKey? name with
    | some key => .ok (.pair key v)
    | none => .error (.noMember "TrackerCore" name)
  | name, _ => .error (.missingArgument [name])

/-- Calls a setter. A reset has taken effect by the time its new pairs are looked at. -/
def call (setter : String) (args : List Value) : Act (Tracker × Session σ) Unit := do
  if setter == "reset_payload_pairs" && args.length ≤ 1 then
    modify fun (t, session) => (t.resetPairs [], session)
  let setting ← Act.ofExcept (Setting.ofCall setter args)
  modify fun (t, session) => (t.set setting, session)

def addContexts (contexts : Value) : Act (Tracker × Session σ) Unit := do
  let t ← Act.subject
  let registry ← Act.besideSubject (t.registry.add contexts)
  Act.setSubject { t with registry := registry }

def removeContexts (contexts : Value) : Act (Tracker × Session σ) Unit := do
  let t ← Act.subject
  let registry ← Act.besideSubject (t.registry.remove contexts)
  Act.setSubject { t with registry := registry }

def clearContexts (t : Tracker) : Tracker := { t with registry := .empty }

end Tracker

end EventTracking
