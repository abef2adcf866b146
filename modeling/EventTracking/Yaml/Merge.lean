import EventTracking.Yaml.Node

/-!
This module contains the merging of mappings: under the merge key a mapping names other mappings, whose
pairs are put before its own. It changes the nodes of a document where they stand, so that it is seen
through every alias, and it is done only when a mapping is looked at.
-/

namespace EventTracking.Yaml.Graph

def pairs (g : Graph) (n : Nat) : List (Nat × Nat) :=
  match g.form n with
  | .mapping ps => ps
  | _ => []

def isMapping (g : Graph) (n : Nat) : Bool :=
  match g.form n with
  | .mapping _ => true
  | _ => false

def setPairs (g : Graph) (n : Nat) (ps : List (Nat × Nat)) : Graph := g.setForm n (.mapping ps)

def mergeFuel (g : Graph) : Nat :=
  let count := g.foldl (fun n node =>
    match node.form with
    | .mapping ps => n + ps.length + 1
    | _ => n) 4
  count * count * count

/--
Merges what the pairs of a mapping from a position on name; the pairs merged in so far are given. A merge
key is taken away before the mappings it names are merged themselves, so a mapping that names itself adds
the pairs it has left. The mark of a default value becomes an ordinary key.
-/
def mergeFrom : (fuel : Nat) → (n index : Nat) → (added : List (Nat × Nat)) → Graph → Except Fault Graph
  | 0, _, _, _, _ => .error .notYaml
  | fuel + 1, n, index, added, g =>
    match (g.pairs n)[index]? with
    | none => .ok (if added.isEmpty then g else g.setPairs n (added ++ g.pairs n))
    | some (k, v) =>
      match g.tag k with
      | .merge => do
        let g := g.setPairs n ((g.pairs n).eraseIdx index)
        match g.form v with
        | .mapping _ =>
          let g ← mergeFrom fuel v 0 [] g
          mergeFrom fuel n index (added ++ g.pairs v) g
        | .sequence items =>
          let (more, g) ← items.foldlM (fun (more, g) i => do
            if g.isMapping i then
              let g ← mergeFrom fuel i 0 [] g
              return (g.pairs i ++ more, g)
            else throw .notYaml) (([] : List (Nat × Nat)), g)
          mergeFrom fuel n index (added ++ more) g
        | .scalar _ => throw .notYaml
      | .value => mergeFrom fuel n (index + 1) added (g.setTag k .str)
      | _ => mergeFrom fuel n (index + 1) added g

def isMark (g : Graph) (key : Nat) : Bool := g.tag key == .merge || g.tag key == .value

def merge (n : Nat) (g : Graph) : Except Fault Graph :=
  if (g.pairs n).any fun p => g.isMark p.1 then mergeFrom g.mergeFuel n 0 [] g else .ok g

end EventTracking.Yaml.Graph
