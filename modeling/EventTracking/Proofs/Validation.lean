import EventTracking.Validation
import Mathlib.Data.List.Forall2

/-!
This module contains the cases in which a check succeeds: all of its parts do, all items of the list, and no
key of the object is undeclared. A check that fails says why.
-/

namespace EventTracking

theorem bind_eq_ok_iff {ε α β : Type} {outcome : Except ε α} {next : α → Except ε β} {y : β} :
    outcome >>= next = .ok y ↔ ∃ x, outcome = .ok x ∧ next x = .ok y := by
  cases outcome <;> simp [bind, Except.bind]

namespace Checked

variable {α β : Type}

theorem map_eq_ok_iff {f : α → β} {c : Checked α} {y : β} : c.map f = .ok y ↔ ∃ x, c = .ok x ∧ f x = y := by
  cases c <;> simp [Except.map]

theorem both_eq_ok_iff {a : Checked α} {b : Checked β} {x : α} {y : β} :
    both a b = .ok (x, y) ↔ a = .ok x ∧ b = .ok y := by
  cases a <;> cases b <;> simp [both]

theorem under_eq_ok_iff {step : Step} {c : Checked α} {x : α} : under step c = .ok x ↔ c = .ok x := by
  cases c <;> simp [under]

theorem refined_eq_ok_iff {p : α → Prop} [DecidablePred p] {c : Checked α} {cause : α → Cause} {y : Subtype p} :
    (c >>= fun x => if h : p x then pure ⟨x, h⟩ else fail (cause x) : Checked (Subtype p)) = .ok y
      ↔
    c = .ok y.1 := by
  rw [bind_eq_ok_iff]
  constructor
  . rintro ⟨x, hc, hx⟩
    split at hx
    . cases hx
      exact hc
    . cases hx
  . intro hc
    refine ⟨y.1, hc, ?_⟩
    rw [dif_pos y.2]
    rfl

theorem all_eq_ok_iff {cs : List (Checked α)} {xs : List α} :
    all cs = .ok xs ↔ List.Forall₂ (fun c x => c = .ok x) cs xs := by
  induction cs generalizing xs with
  | nil =>
    rw [List.forall₂_nil_left_iff]
    exact ⟨fun h => (Except.ok.inj h).symm, fun h => congrArg Except.ok h.symm⟩
  | cons c cs ih =>
    constructor
    . intro h
      obtain ⟨⟨y, ys⟩, hboth, rfl⟩ := map_eq_ok_iff.1 h
      obtain ⟨hc, hcs⟩ := both_eq_ok_iff.1 hboth
      exact .cons hc (ih.1 hcs)
    . intro h
      cases h with
      | cons hc hcs =>
        rw [all, hc, ih.2 hcs]
        rfl

theorem each_eq_ok_iff {check : Value → Checked α} {vs : List Value} {xs : List α} :
    each check vs = .ok xs ↔ List.Forall₂ (fun v x => check v = .ok x) vs xs := by
  have hitems : vs = vs.zipIdx.map Prod.fst := (List.zipIdx_map_fst 0 vs).symm
  rw [each, all_eq_ok_iff, List.forall₂_map_left_iff]
  simp only [under_eq_ok_iff]
  conv_rhs => rw [hitems, List.forall₂_map_left_iff]

end Checked

namespace Check

variable {α : Type} {check : Value → Checked α} {v : Value}

theorem list_eq_ok_iff {xs : List α} :
    list check v = .ok xs
      ↔
    ∃ vs, listItems? v = some vs ∧ List.Forall₂ (fun v x => check v = .ok x) vs xs := by
  unfold list
  split
  . next vs hvs => simp [hvs, Checked.each_eq_ok_iff]
  . next hvs => simp [hvs, Checked.fail]

theorem declared_eq_ok_iff {names : List String} {es : List (Value × Value)} :
    declared names es = .ok () ↔ ∀ e ∈ es, ∃ name ∈ names, e.1.isKey name = true := by
  have hnone : (es.map (·.1)).filter (fun k => !names.any fun name => k.isKey name) = []
      ↔ ∀ e ∈ es, ∃ name ∈ names, e.1.isKey name = true := by
    simp [List.filter_eq_nil_iff]
  rw [← hnone]
  unfold declared
  dsimp only
  split
  . next h => simpa using h
  . next h => simpa using h

end Check

/-! ### Checks that fail -/

def Checked.Explained {α : Type} (c : Checked α) : Prop := c ≠ .error []

namespace Checked.Explained

variable {α β : Type} {a : Checked α} {b : Checked β}

theorem ok (x : α) : Explained (.ok x : Checked α) := nofun

theorem fail (cause : Cause) : Explained (.fail cause : Checked α) := nofun

theorem map (h : a.Explained) (f : α → β) : Explained (a.map f) := by
  cases a with
  | ok x => exact ok (f x)
  | error vs => exact fun heq => h (congrArg Except.error (Except.error.inj heq))

theorem bind (h : a.Explained) {next : α → Checked β} (hnext : ∀ x, (next x).Explained) :
    Explained (a >>= next) := by
  cases a with
  | ok x => exact hnext x
  | error vs => exact fun heq => h (congrArg Except.error (Except.error.inj heq))

theorem under (h : a.Explained) (step : Step) : (Checked.under step a).Explained := by
  cases a with
  | ok x => exact ok x
  | error vs => exact fun heq => h (congrArg Except.error (List.map_eq_nil_iff.1 (Except.error.inj heq)))

theorem both (ha : a.Explained) (hb : b.Explained) : (Checked.both a b).Explained := by
  cases a with
  | ok x =>
    cases b with
    | ok y => exact ok (x, y)
    | error vs => exact fun heq => hb (congrArg Except.error (Except.error.inj heq))
  | error vs =>
    exact fun heq => ha (congrArg Except.error (List.append_eq_nil_iff.1 (Except.error.inj heq)).1)

theorem all {cs : List (Checked α)} (h : ∀ c ∈ cs, c.Explained) : (Checked.all cs).Explained := by
  induction cs with
  | nil => exact ok []
  | cons c cs ih =>
    obtain ⟨hc, hcs⟩ := List.forall_mem_cons.1 h
    exact (hc.both (ih hcs)).map _

section

variable {check : Value → Checked α} (hcheck : ∀ v, (check v).Explained) (v : Value)

include hcheck

theorem list : (Check.list check v).Explained := by
  unfold Check.list
  split
  . apply all
    rw [List.forall_mem_map]
    exact fun x _ => (hcheck x.1).under _
  . exact fail _

theorem optional : (Check.optional check v).Explained := by
  unfold Check.optional
  split
  . exact ok none
  . exact (hcheck v).map some

theorem field (name : String) {absent : Checked α} (habsent : absent.Explained) :
    (Check.field name absent check v).Explained := by
  apply under
  split
  . exact habsent
  . exact hcheck _

end

theorem text (v : Value) : (Check.text v).Explained := by
  unfold Check.text
  split
  . exact ok _
  . split
    . exact ok _
    . exact fail _
  . exact fail _

theorem declared (names : List String) (es : List (Value × Value)) :
    (Check.declared names es).Explained := by
  unfold Check.declared
  dsimp only
  split
  . exact ok ()
  . next h =>
    intro heq
    apply h
    rw [List.map_eq_nil_iff.1 (Except.error.inj heq)]
    rfl

end Checked.Explained

end EventTracking
