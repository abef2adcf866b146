import EventTracking.Payload.Builder

/-!
This module contains the changes to a builder: while it is open none of them fails, and once it has been
built all of them do.
-/

namespace EventTracking.Builder

variable {b : Builder}

theorem change_of_open (hopen : b.built = none) (operation : String) (f : Builder → Builder) :
    change operation f b = .ok (f b) := by
  simp [change, isBuilt, hopen]

theorem change_of_built {payload : Pairs} (hbuilt : b.built = some payload) (operation : String)
    (f : Builder → Builder) : change operation f b = .error (.sealed operation) := by
  simp [change, isBuilt, hbuilt]

theorem add_of_open (hopen : b.built = none) (key : String) (v : Value) :
    b.add key v = .ok { b with pairs := b.pairs.setNonNull key v } :=
  change_of_open hopen "add" _

theorem addAll_of_open (hopen : b.built = none) (more : Pairs) :
    b.addAll more = .ok { b with pairs := Pairs.setAllNonNull more b.pairs } := by
  unfold addAll
  induction more generalizing b with
  | nil => rfl
  | cons p more ih =>
    rw [List.foldlM_cons, add_of_open hopen]
    exact ih hopen

theorem addAll_of_built {payload : Pairs} (hbuilt : b.built = some payload) (p : String × Value)
    (more : Pairs) : b.addAll (p :: more) = .error (.sealed "add") := by
  rw [addAll, List.foldlM_cons, add, change_of_built hbuilt]
  rfl

def attached (vs : List Value) (b : Builder) : Builder := { b with entities := b.entities ++ vs }

@[simp]
theorem attached_nil (b : Builder) : b.attached [] = b := by
  simp [attached]

@[simp]
theorem attached_attached (vs ws : List Value) (b : Builder) :
    (b.attached vs).attached ws = b.attached (vs ++ ws) := by
  simp [attached]

theorem attach_of_open (hopen : b.built = none) (v : Value) : b.attach v = .ok (b.attached [v]) :=
  change_of_open hopen "add_context_entity" _

theorem install_of_open (hopen : b.built = none) (p : Processor) :
    b.install p = .ok { b with processor := some p } :=
  change_of_open hopen "with_json_processor" _

end EventTracking.Builder
