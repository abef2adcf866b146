import EventTracking.Yaml.Tag
import EventTracking.Yaml.Token

/-!
This module contains the nodes of a YAML document, each with its tag, and how tokens make up the single
document of a text. Nodes are known by their numbers, so that an alias, which may stand inside the node it
refers to, is the number of that node.
-/

namespace EventTracking.Yaml

inductive Form where
  | scalar (text : String)
  | sequence (items : List Nat)
  | mapping (pairs : List (Nat × Nat))
  deriving DecidableEq, Repr

structure Node where
  tag : Tag
  form : Form
  deriving DecidableEq, Repr

abbrev Graph := Array Node

namespace Node

def absent : Node := ⟨.null, .scalar ""⟩

instance : Inhabited Node := ⟨absent⟩

end Node

namespace Graph

def node (g : Graph) (n : Nat) : Node := g.getD n Node.absent

def tag (g : Graph) (n : Nat) : Tag := (g.node n).tag

def form (g : Graph) (n : Nat) : Form := (g.node n).form

def setForm (g : Graph) (n : Nat) (f : Form) : Graph := g.setIfInBounds n { g.node n with form := f }

def setTag (g : Graph) (n : Nat) (t : Tag) : Graph := g.setIfInBounds n { g.node n with tag := t }

end Graph

namespace Node

structure Reader where
  tokens : List Token
  fault : Option Fault
  graph : Graph
  anchors : List (String × Nat)
  handles : List (String × String)

abbrev Read := StateT Reader (Except Fault)

def malformed {α : Type} : Read α := throw .notYaml

def peek : Read (Option Token) := do
  let r ← get
  match r.tokens, r.fault with
  | t :: _, _ => return some t
  | [], some f => throw f
  | [], none => return none

def skip : Read Unit := modify fun r => { r with tokens := r.tokens.drop 1 }

def isNext (ts : List Token) : Read Bool := return (← peek).any fun t => ts.contains t

def accept (t : Token) : Read Bool := do
  if ← isNext [t] then
    skip
    return true
  else return false

def expect (t : Token) : Read Unit := do
  if ← accept t then return () else malformed

def add (n : Node) : Read Nat :=
  modifyGet fun r => (r.graph.size, { r with graph := r.graph.push n })

structure Properties where
  anchor : Option String
  tag : Option String

def anchor? : Read (Option String) := do
  match ← peek with
  | some (.anchor name) =>
    skip
    return some name
  | _ => return none

def tag? : Read (Option (Option String × String)) := do
  match ← peek with
  | some (.tag handle suffix) =>
    skip
    return some (handle, suffix)
  | _ => return none

def uri (handle : Option String) (suffix : String) : Read String := do
  match handle with
  | none => return suffix
  | some h =>
    match (← get).handles.lookup h with
    | some replacement => return replacement ++ suffix
    | none => malformed

def properties : Read Properties := do
  let before ← anchor?
  let written ← tag?
  let after ← if before.isNone && written.isSome then anchor? else pure none
  let tag ← written.mapM fun (handle, suffix) => uri handle suffix
  return ⟨before <|> after, tag⟩

def unspecified : String := "!"

def collectionTag (default : Tag) (p : Properties) : Tag :=
  match p.tag with
  | none => default
  | some t => if t = unspecified then default else .ofUri t

def scalarTag (p : Properties) (text : String) (isPlain : Bool) : Tag :=
  match p.tag with
  | none => if isPlain then .ofPlain text else .str
  | some t => if t = unspecified then .ofPlain text else .ofUri t

def checkAnchor (p : Properties) : Read Unit := do
  match p.anchor with
  | none => return ()
  | some a => if ((← get).anchors.lookup a).isSome then malformed else return ()

def named (p : Properties) (n : Node) : Read Nat := do
  checkAnchor p
  let i ← add n
  match p.anchor with
  | none => return i
  | some a =>
    modify fun r => { r with anchors := (a, i) :: r.anchors }
    return i

def collection (p : Properties) (start : Node) (body : Read Form) : Read Nat := do
  let i ← named p start
  let f ← body
  modify fun r => { r with graph := r.graph.setForm i f }
  return i

def sequence (p : Properties) (items : Read (List Nat)) : Read Nat :=
  collection p ⟨collectionTag .seq p, .sequence []⟩ (return .sequence (← items))

def mapping (p : Properties) (pairs : Read (List (Nat × Nat))) : Read Nat :=
  collection p ⟨collectionTag .map p, .mapping []⟩ (return .mapping (← pairs))

def unwritten (p : Properties) : Read Nat := do
  if p.anchor.isSome || p.tag.isSome then named p ⟨scalarTag p "" true, .scalar ""⟩
  else malformed

def unlessNext (ts : List Token) (read : Read Nat) : Read Nat := do
  if ← isNext ts then add absent else read

mutual

def node (block bare : Bool) : (fuel : Nat) → Read Nat
  | 0 => malformed
  | fuel + 1 => do
    match ← peek with
    | some (.alias a) =>
      skip
      match (← get).anchors.lookup a with
      | some i => return i
      | none => malformed
    | _ =>
      let p ← properties
      match ← peek with
      | some (.scalar text isPlain) =>
        skip
        named p ⟨scalarTag p text isPlain, .scalar text⟩
      | some .flowSequenceStart =>
        sequence p do
          skip
          flowItems true fuel
      | some .flowMappingStart =>
        mapping p do
          skip
          flowPairs true fuel
      | some t =>
        if bare && t == .blockEntry then sequence p (bareItems fuel)
        else if block && t == .blockSequenceStart then
          sequence p do
            skip
            blockItems fuel
        else if block && t == .blockMappingStart then
          mapping p do
            skip
            blockPairs fuel
        else unwritten p
      | none => unwritten p

def blockItems : (fuel : Nat) → Read (List Nat)
  | 0 => malformed
  | fuel + 1 => do
    if ← accept .blockEntry then
      let item ← unlessNext [.blockEntry, .blockEnd] (node true false fuel)
      return item :: (← blockItems fuel)
    else
      expect .blockEnd
      return []

def bareItems : (fuel : Nat) → Read (List Nat)
  | 0 => malformed
  | fuel + 1 => do
    if ← accept .blockEntry then
      let item ← unlessNext [.blockEntry, .key, .value, .blockEnd] (node true false fuel)
      return item :: (← bareItems fuel)
    else return []

def blockPairs : (fuel : Nat) → Read (List (Nat × Nat))
  | 0 => malformed
  | fuel + 1 => do
    let ends : List Token := [.key, .value, .blockEnd]
    if ← accept .key then
      let k ← unlessNext ends (node true true fuel)
      let v ← if ← accept .value then unlessNext ends (node true true fuel) else add absent
      return (k, v) :: (← blockPairs fuel)
    else
      expect .blockEnd
      return []

def comma (first : Bool) : Read Unit := if first then return () else expect .flowEntry

def flowPair (ends : List Token) : (fuel : Nat) → Read (Nat × Nat)
  | 0 => malformed
  | fuel + 1 => do
    let k ← unlessNext (.value :: ends) (node false false fuel)
    let v ← if ← accept .value then unlessNext ends (node false false fuel) else add absent
    return (k, v)

def flowItems (first : Bool) : (fuel : Nat) → Read (List Nat)
  | 0 => malformed
  | fuel + 1 => do
    if ← accept .flowSequenceEnd then return []
    else
      comma first
      if ← accept .key then
        let item ← mapping ⟨none, none⟩ do
          return [← flowPair [.flowEntry, .flowSequenceEnd] fuel]
        return item :: (← flowItems false fuel)
      else if ← accept .flowSequenceEnd then return []
      else
        let item ← node false false fuel
        return item :: (← flowItems false fuel)

def flowPairs (first : Bool) : (fuel : Nat) → Read (List (Nat × Nat))
  | 0 => malformed
  | fuel + 1 => do
    if ← accept .flowMappingEnd then return []
    else
      comma first
      if ← accept .key then
        let pair ← flowPair [.flowEntry, .flowMappingEnd] fuel
        return pair :: (← flowPairs false fuel)
      else if ← accept .flowMappingEnd then return []
      else
        let k ← node false false fuel
        return (k, ← add absent) :: (← flowPairs false fuel)

end

def defaultHandles : List (String × String) := [("!", "!"), ("!!", Tag.home)]

def directives (seenVersion : Bool) (handles : List (String × String)) :
    (fuel : Nat) → Read (List (String × String))
  | 0 => return handles
  | fuel + 1 => do
    match ← peek with
    | some (.directive d) =>
      skip
      match d with
      | .version major _ =>
        if seenVersion || major != 1 then malformed else directives true handles fuel
      | .tag handle replacement =>
        if (handles.lookup handle).isSome then malformed
        else directives seenVersion ((handle, replacement) :: handles) fuel
      | .other => directives seenVersion handles fuel
    | _ => return handles

def isDirective : Token → Bool
  | .directive _ => true
  | _ => false

def content (fuel : Nat) : Read Nat := do
  match ← peek with
  | none => add absent
  | some t =>
    if isDirective t || t == .documentStart || t == .documentEnd then add absent
    else node true false fuel

def isMarked : Option Token → Bool
  | some t => isDirective t || t == .documentStart
  | none => false

def start (fuel : Nat) : Read Unit := do
  let declared ← directives false [] fuel
  expect .documentStart
  modify fun r => { r with handles := declared ++ defaultHandles }

def skipEnds : (fuel : Nat) → Read Unit
  | 0 => return ()
  | fuel + 1 => do if ← accept .documentEnd then skipEnds fuel

def document (fuel : Nat) : Read (Option Nat) := do
  let first ← peek
  if first.isNone then return none
  else
    let root ←
      if isMarked first then
        start fuel
        content fuel
      else node true false fuel
    skipEnds fuel
    if (← peek).isSome then
      start fuel
      malformed
    else return some root

def fuelFor (tokens : List Token) : Nat := 4 * tokens.length + 8

end Node

def Graph.ofText (s : String) : Except Fault (Option (Graph × Nat)) := do
  let (tokens, fault) := Token.ofText s
  let reader : Node.Reader := ⟨tokens, fault, #[], [], Node.defaultHandles⟩
  let (root, r) ← (Node.document (Node.fuelFor tokens)).run reader
  return root.map (r.graph, ·)

end EventTracking.Yaml
