import EventTracking.Value.Equality
import EventTracking.Yaml.Merge
import EventTracking.Yaml.ScalarValue

/-!
This module contains the value that a YAML document stands for. The nodes of the document are made into
values level by level from the root down, and each of them once, however many aliases refer to it. So of
several faults the one counts that lies nearest to the root, and of those the first.
-/

namespace EventTracking.Yaml

/-! ## Values of nodes -/

inductive Made where
  | leaf (value : Value)
  | list (items : List Nat)
  | tuples (pairs : List (Nat × Nat))
  | object (entries : List (Value × Nat))
  | set (keys : List Value)

structure Draft where
  graph : Graph
  made : Array (Option Made)
  begun : Array Nat

namespace Draft

def ofGraph (g : Graph) : Draft := ⟨g, Array.replicate g.size none, #[]⟩

def made? (d : Draft) (n : Nat) : Option Made := (d.made[n]?).join

def setMade (d : Draft) (n : Nat) (m : Made) : Draft :=
  { d with made := d.made.setIfInBounds n (some m) }

def text? (g : Graph) : (fuel : Nat) → (n : Nat) → Option String
  | 0, _ => none
  | fuel + 1, n =>
    match g.form n with
    | .scalar text => some text
    | .sequence _ => none
    | .mapping ps => (ps.find? fun p => g.tag p.1 == .value).bind fun p => text? g fuel p.2

/-- A NaN is one object wherever it is written by its name, and else one of its node's own. -/
def identify (text : String) (n : Nat) : Value → Value
  | .float .nan => .nan (if Scalar.isNamedNan text then 0 else n + 1)
  | v => v

def leaf (g : Graph) (n : Nat) : Except Fault Value := do
  let tag := g.tag n
  match text? g (g.size + 1) n with
  | none => throw .notYaml
  | some text =>
    if tag == .timestamp && g.isMapping n then
      throw (.badScalar "TypeError" "expected string or bytes-like object, got 'list'")
    else
      match Scalar.value? tag text with
      | some v => return identify text n (← v)
      | none => throw .notYaml

def blank? : Tag → Option Made
  | .seq => some (.list [])
  | .pairs | .orderedMap => some (.tuples [])
  | .map => some (.object [])
  | .set => some (.set [])
  | _ => none

def make (n : Nat) (d : Draft) : Except Fault Draft :=
  if (d.made? n).isSome then .ok d
  else
    match blank? (d.graph.tag n) with
    | some m => .ok { d with made := d.made.setIfInBounds n (some m), begun := d.begun.push n }
    | none => do return d.setMade n (.leaf (← leaf d.graph n))

def makeSingle (d : Draft) (n : Nat) : Except Fault ((Nat × Nat) × Draft) :=
  match d.graph.form n with
  | .mapping [(k, v)] => do return ((k, v), ← make v (← make k d))
  | _ => .error .notYaml

def makeKey (n : Nat) (d : Draft) : Except Fault (Value × Draft) := do
  let d ← make n d
  match d.made? n with
  | some (.leaf key) => return (key, d)
  | _ => throw .notYaml

/-- Makes the pairs of a mapping into entries. A later value for a key replaces an earlier one. -/
def makeEntries (ps : List (Nat × Nat)) (d : Draft) : Except Fault (List (Value × Nat) × Draft) :=
  ps.foldlM (fun (es, d) (k, v) => do
    let (key, d) ← makeKey k d
    return (Value.insertEntry key v es, ← make v d)) ([], d)

def makeMapping (n : Nat) (d : Draft) : Except Fault (List (Value × Nat) × Draft) := do
  if d.graph.isMapping n then
    let g ← d.graph.merge n
    makeEntries (g.pairs n) { d with graph := g }
  else throw .notYaml

def makeParts (n : Nat) (d : Draft) : Except Fault Draft := do
  match d.graph.tag n, d.graph.form n with
  | .seq, .sequence items =>
    let d ← items.foldlM (fun d i => make i d) d
    return d.setMade n (.list items)
  | .pairs, .sequence items | .orderedMap, .sequence items =>
    let (ps, d) ← items.foldlM (fun (ps, d) i => do
      let (p, d) ← makeSingle d i
      return (p :: ps, d)) (([] : List (Nat × Nat)), d)
    return d.setMade n (.tuples ps.reverse)
  | .map, _ =>
    let (es, d) ← makeMapping n d
    return d.setMade n (.object es)
  | .set, _ =>
    let (es, d) ← makeMapping n d
    return d.setMade n (.set (es.map (·.1)))
  | _, _ => throw .notYaml

def finish : (fuel : Nat) → (position : Nat) → Draft → Except Fault Draft
  | 0, _, d => .ok d
  | fuel + 1, position, d =>
    match d.begun[position]? with
    | none => .ok d
    | some n => do finish fuel (position + 1) (← makeParts n d)

/-! ## Putting values together -/

abbrev Known := Value × Bool

def unknown : Known := (.foreign Value.cycleKind 0, false)

def assemble (known : Array Known) : Made → Known
  | .leaf v => (v, true)
  | .list items => (.list (items.map fun n => (part n).1), items.all fun n => (part n).2)
  | .tuples ps =>
    (.list (ps.map fun p => .tuple [(part p.1).1, (part p.2).1]),
      ps.all fun p => (part p.1).2 && (part p.2).2)
  | .object es =>
    (.object (es.map fun e => (e.1, (part e.2).1)), es.all fun e => (part e.2).2)
  | .set keys => (.set keys, true)
where
  part (n : Nat) : Known := known.getD n unknown

def improve (d : Draft) (known : Array Known) (n : Nat) : Array Known :=
  match known[n]?, d.made? n with
  | some (_, false), some m => known.setIfInBounds n (assemble known m)
  | _, _ => known

/-- Puts all values together anew, those of later nodes, of which earlier ones consist, first. -/
def improveAll (d : Draft) (known : Array Known) : Array Known :=
  (List.range known.size).reverse.foldl d.improve known

def countKnown (known : Array Known) : Nat := known.foldl (fun n k => if k.2 then n + 1 else n) 0

def levelsInCycle : Nat := 6

/--
Puts values together until no further one is known as a whole. What remains contains itself, and goes on
for a few levels.
-/
def settle (d : Draft) : (fuel : Nat) → Array Known → Array Known
  | 0, known => (List.range levelsInCycle).foldl (fun known _ => d.improveAll known) known
  | fuel + 1, known =>
    let better := d.improveAll known
    if countKnown better = countKnown known then settle d 0 better else settle d fuel better

def value (d : Draft) (n : Nat) : Value :=
  let known := d.settle d.graph.size (Array.replicate d.graph.size unknown)
  (known.getD n unknown).1

end Draft

def Graph.value (g : Graph) (root : Nat) : Except Fault Value := do
  let d ← Draft.make root (.ofGraph g)
  let d ← d.finish (g.size + 1) 0
  return d.value root

def read (s : String) : Except Fault Value := do
  match ← Graph.ofText s with
  | none => return .null
  | some (g, root) => g.value root

end EventTracking.Yaml
