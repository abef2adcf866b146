import EventTracking.CommandLine.Arguments

/-!
This module contains the commands by which rules and manifests are inspected, and how they are read from
words.
-/

namespace EventTracking

inductive Command where
  | validateRule (rule : String)
  | parseSchema (schema : String)
  | matchRule (rule schema : String)
  | matchRules (schema : String) (accept reject : List String)
  | validateManifest (path : String)
  | resolveManifest (path : String) (schema type : Option String)
  deriving DecidableEq, Repr

namespace Command

def acceptFlag : Flag := ⟨"accept", 'a'⟩

def rejectFlag : Flag := ⟨"reject", 'r'⟩

def pathFlag : Flag := ⟨"path", 'p'⟩

def schemaFlag : Flag := ⟨"schema", 's'⟩

def typeFlag : Flag := ⟨"event-type", 'e'⟩

def dropHyphens : List String → List String
  | "--" :: rest => rest
  | words => words

def readRule? (name : String) (words : List String) : Option Command :=
  match name with
  | "validate" => do
    match (← Arguments.read? [] words).words with
    | [rule] => some (.validateRule rule)
    | _ => none
  | "parse" => do
    match (← Arguments.read? [] words).words with
    | [schema] => some (.parseSchema schema)
    | _ => none
  | "match" => do
    match (← Arguments.read? [] words).words with
    | [rule, schema] => some (.matchRule rule schema)
    | _ => none
  | "match-set" => do
    let a ← Arguments.read? [acceptFlag, rejectFlag] words
    match a.words with
    | [schema] =>
      some (.matchRules schema (a.valuesOf acceptFlag.long) (a.valuesOf rejectFlag.long))
    | _ => none
  | _ => none

def nonEmpty (value : Option String) : Option String := value.filter (!·.isEmpty)

def readContexts? (name : String) (words : List String) : Option Command :=
  match name with
  | "validate" => do
    let a ← Arguments.read? [pathFlag] words
    if a.words.isEmpty then some (.validateManifest (← a.value? pathFlag.long)) else none
  | "resolve" => do
    let a ← Arguments.read? [pathFlag, schemaFlag, typeFlag] words
    let path ← a.value? pathFlag.long
    if a.words.isEmpty then
      some (.resolveManifest path (nonEmpty (a.value? schemaFlag.long))
        (nonEmpty (a.value? typeFlag.long)))
    else none
  | _ => none

def read? (words : List String) : Option Command :=
  match dropHyphens words with
  | group :: rest =>
    match dropHyphens rest with
    | name :: rest =>
      if group = "rule" then readRule? name rest
      else if group = "contexts" then readContexts? name rest
      else none
    | [] => none
  | [] => none

def path? : Command → Option String
  | .validateManifest path => some path
  | .resolveManifest path _ _ => some path
  | _ => none

end Command

end EventTracking
