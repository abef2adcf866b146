import EventTracking.CommandLine.Command
import EventTracking.CommandLine.Terminal
import EventTracking.Event
import EventTracking.Manifest.Cache
import EventTracking.Schema.Valuation

/-!
This module contains what the commands do: what each prints, and with which exit code it ends.
-/

namespace EventTracking

inductive Outcome where
  | done (code : Nat) (output errors : List String)
  | misused
  | crashed (fault : Fault)
  deriving DecidableEq, Repr

namespace Outcome

def passed (text : String) : String := "✓ " ++ text

def failed (text : String) : String := "✗ " ++ text

def verdict (holds : Bool) (ifSo otherwise : String) : Outcome :=
  if holds then .done 0 [passed ifSo] [] else .done 1 [failed otherwise] []

def printed (v : Value) : Outcome :=
  match Json.ofData v with
  | .ok j => .done 0 [j.render .page] []
  | .error o => .crashed (.notData o)

def exitCode : Outcome → Nat
  | .done code _ _ => code
  | .misused => 2
  | .crashed _ => 1

def outputLines : Outcome → List String
  | .done _ output _ => output.map Terminal.plain
  | _ => []

def errorLines : Outcome → List String
  | .done _ _ errors => errors.map Terminal.plain
  | _ => []

def fault? : Outcome → Option Fault
  | .crashed f => some f
  | _ => none

end Outcome

namespace Command

open Outcome (passed failed verdict printed)

variable {σ : Type}

def vendorOf (rule : String) : String :=
  String.ofList (Schema.dropScheme (rule.toList.takeWhile (· != '/')))

def checkRule (rule : String) : Outcome :=
  if Schema.isRule rule then .done 0 [passed ("Valid rule: " ++ rule)] []
  else
    let vendor := vendorOf rule
    let hint :=
      if vendor.isEmpty || Schema.isVendorValue (.str vendor) then []
      else ["  " ++ failed ("Vendor wildcards must run to the end: " ++ vendor)]
    .done 1 (failed ("Invalid rule: " ++ rule) :: hint) []

def parse (schema : String) : Outcome :=
  match Schema.identifierOf (.str schema) with
  | .ok (some i) => printed (.ofPairs i.toPairs)
  | .ok none => .done 1 [] [failed ("Not a schema identifier: " ++ schema)]
  | .error f => .crashed f

def checkRules (schema : String) (accept reject : List String) : Outcome :=
  let rules := Value.ofPairs [("accept", .ofTexts accept), ("reject", .ofTexts reject)]
  match Schema.valueAdmits rules (.str schema) with
  | .ok holds => verdict holds (schema ++ " accepted") (schema ++ " rejected")
  | .error f => .crashed f

def isExpected : Fault → Bool
  | .notAnObject .. | .notYaml | .invalid _ => true
  | .badScalar kind _ => kind == "TypeError"
  | _ => false

def meansDirectory (path : String) : Bool :=
  match (path.toList.splitOn '/').getLast? with
  | some last => last == [] || last == ['.']
  | none => false

def pathExists (path : String) (files : FileTree) : Bool :=
  if path.isEmpty then false
  else
    match files.find (.ofText path) with
    | .error _ => false
    | .ok .directory => true
    | .ok (.file _) => !meansDirectory path

def withManifest (path : String) (files : FileTree) (use : Manifest → Act (Session σ) Outcome) :
    Act (Session σ) Outcome := do
  if path.toList.contains (Char.ofNat 0) then return .crashed (.unusablePath .nullCharacter)
  else if pathExists path files then
    let (outcome, _) ← Act.onSubject .empty (Manifest.Cache.load Manifest.Reading.ofFiles (.ofText path) files)
    match outcome with
    | .ok loaded => use loaded.manifest
    | .error f =>
      if isExpected f then
        return .done 1 []
          [failed ("Invalid manifest: " ++ path), "  " ++ failed ("Error: " ++ f.message)]
      else return .crashed f
  else return .misused

def summary (path : String) (m : Manifest) : Outcome :=
  .done 0 [passed ("Valid manifest: " ++ path ++ " (" ++ toString m.entries.length ++ " contexts, "
    ++ toString m.conditionals ++ " conditional)")] []

def sampleEvent (schema type : Option String) : ContextEvent :=
  let start :=
    match schema with
    | some s => Event.selfDescribingBuilder (Event.describe s (.object []))
    | none => .empty
  let pairs :=
    match type with
    | some t => start.pairs.set "e" (.str t)
    | none => start.pairs
  .ofBuilder { start with pairs := pairs }

def preview (m : Manifest) (e : ContextEvent) : Act (Session σ) Outcome := do
  let registry ← m.apply .empty
  let entities ← registry.resolve (fun _ _ => return .null) e
  return printed (.list entities)

def run (files : FileTree) : Command → Act (Session σ) Outcome
  | .validateRule rule => return checkRule rule
  | .parseSchema schema => return parse schema
  | .matchRule rule schema =>
    return verdict (Schema.ruleAdmits rule schema) (schema ++ " matches " ++ rule)
      (schema ++ " does not match " ++ rule)
  | .matchRules schema accept reject => return checkRules schema accept reject
  | .validateManifest path => withManifest path files fun m => return summary path m
  | .resolveManifest path schema type =>
    withManifest path files fun m => preview m (sampleEvent schema type)

end Command

end EventTracking
