import EventTracking.Proofs.Manifest.Registration
import EventTracking.Proofs.Pairs
import EventTracking.Proofs.Value.Json

/-!
This module contains the language of manifests: which values of JSON describe a manifest, and which manifest.
The theorem is that checking a document accepts exactly that language.
-/

namespace EventTracking

open Schema (Rules RuleSet Writes)

/-! ### Shapes of values -/

namespace Value

variable {α : Type}

def IsObjectOf (names : List String) (v : Value) : Prop := ∃ ps : Pairs, v = .ofPairs ps ∧ ps.keys ⊆ names

def IsText (v : Value) (s : String) : Prop := v = .str s

inductive Gives (name : String) (absence : Option α) (stands : Value → α → Prop) (v : Value) : α → Prop where
  | absent {a : α} (missing : v.field? name = none) (given : absence = some a) : Gives name absence stands v a
  | present {w : Value} {a : α} (found : v.field? name = some w) (given : stands w a) :
      Gives name absence stands v a

inductive IsNullOr (stands : Value → α → Prop) : Value → Option α → Prop where
  | null : IsNullOr stands .null none
  | some {w : Value} {a : α} (given : stands w a) : IsNullOr stands w (.some a)

inductive IsListOf (stands : Value → α → Prop) : Value → List α → Prop where
  | list {vs : List Value} {as : List α} (items : List.Forall₂ stands vs as) : IsListOf stands (.list vs) as

end Value

/-! ### The language -/

/-- An entity has no keys but the two that it needs; neither its schema nor its data are empty. -/
structure Entity.Describes (v : Value) (e : Entity) : Prop where
  keys : v.IsObjectOf ["sc", "dt"]
  schema : v.field? "sc" = some (.str e.schema)
  data : v.field? "dt" = some (.ofPairs e.data)

/-- An entry needs its entity; a side that is null is as good as none. -/
structure ManifestEntry.Describes (v : Value) (e : ManifestEntry) : Prop where
  keys : v.IsObjectOf ["entity", "accept", "reject"]
  entity : v.Gives "entity" none Entity.Describes e.entity
  accept : v.Gives "accept" (some none) (Value.IsNullOr fun w rules => Writes rules w) e.accept
  reject : v.Gives "reject" (some none) (Value.IsNullOr fun w rules => Writes rules w) e.reject

/-- A manifest may leave out each of its fields, and has the version 1 and no entries if it does. -/
structure Manifest.Describes (v : Value) (m : Manifest) : Prop where
  keys : v.IsObjectOf ["manifest_version", "description", "contexts"]
  version : v.Gives "manifest_version" (some "1") Value.IsText m.version
  description : v.Gives "description" (some none) (Value.IsNullOr Value.IsText) m.description
  entries : v.Gives "contexts" (some []) (Value.IsListOf ManifestEntry.Describes) m.entries

/-! ### Checks that decide a shape -/

theorem Value.IsJson.isData {v : Value} (h : v.IsJson) : v.IsData := by
  induction h with
  | null => exact .null
  | bool b => exact .bool b
  | int n => exact .int n
  | float x => exact .float x
  | nan n => exact .nan n
  | str s => exact .str s
  | list items ih => exact .list ih
  | object keys values ih =>
    refine .object ?_ ?_
    . rw [List.forall_mem_map]
      exact fun p _ => .str p.1
    . rw [List.forall_mem_map]
      exact ih

namespace Check

open Value (Gives IsListOf IsNullOr IsObjectOf IsText)

variable {α : Type} {v : Value} {a : α} {check : Value → Checked α} {stands : Value → α → Prop}

/-- Whether a check finds for each value of JSON what the value stands for, and fails if there is no such thing. -/
def Decides (check : Value → Checked α) (stands : Value → α → Prop) : Prop :=
  ∀ v, v.IsJson → ∀ a, check v = .ok a ↔ stands v a

theorem decides_text : Decides text IsText := by
  intro v h s
  refine ⟨h.isData.eq_str_of_text, ?_⟩
  rintro rfl
  rfl

theorem Decides.optional (h : Decides check stands) (hnull : ∀ a, ¬ stands .null a) :
    Decides (optional check) (IsNullOr stands) := by
  intro v hv o
  unfold Check.optional
  split
  . next hisNull =>
    cases v <;> cases hisNull
    constructor
    . rintro ⟨⟩
      exact .null
    . rintro (_ | given)
      . rfl
      . exact absurd given (hnull _)
  . next hisNull =>
    rw [Checked.map_eq_ok_iff]
    constructor
    . rintro ⟨a, ha, rfl⟩
      exact .some ((h v hv a).1 ha)
    . rintro (_ | given)
      . exact absurd rfl hisNull
      . exact ⟨_, (h v hv _).2 given, rfl⟩

theorem Decides.list (h : Decides check stands) : Decides (list check) (IsListOf stands) := by
  intro v hv as
  rw [list_eq_ok_iff]
  constructor
  . rintro ⟨vs, hvs, hitems⟩
    cases hv with
    | list items =>
      cases hvs
      have hboth := (List.forall₂_and_left _ _).2 ⟨items, hitems⟩
      exact .list (hboth.imp fun w a hw => (h w hw.1 a).1 hw.2)
    | _ => cases hvs
  . rintro ⟨hitems⟩
    cases hv with
    | list items =>
      have hboth := (List.forall₂_and_left _ _).2 ⟨items, hitems⟩
      exact ⟨_, rfl, hboth.imp fun w a hw => (h w hw.1 a).2 hw.2⟩

theorem Decides.field (h : Decides check stands) (hv : v.IsJson) {absent : Checked α} {absence : Option α}
    (habsence : absent = .ok a ↔ absence = some a) (name : String) :
    field name absent check v = .ok a ↔ v.Gives name absence stands a := by
  rw [Check.field, Checked.under_eq_ok_iff]
  cases hfield : v.field? name with
  | none =>
    refine habsence.trans ⟨.absent hfield, ?_⟩
    rintro (⟨_, given⟩ | ⟨found, _⟩)
    . exact given
    . cases hfield.symm.trans found
  | some w =>
    refine (h w (hv.of_field? hfield) a).trans ⟨.present hfield, ?_⟩
    rintro (⟨missing, _⟩ | ⟨found, given⟩)
    . cases hfield.symm.trans missing
    . cases hfield.symm.trans found
      exact given

theorem declared_ofPairs_iff {names : List String} {ps : Pairs} :
    declared names (ps.map fun (k, v) => (.str k, v)) = .ok () ↔ (Value.ofPairs ps).IsObjectOf names := by
  have hkeys : (Value.ofPairs ps).IsObjectOf names ↔ ∀ p ∈ ps, p.1 ∈ names := by
    constructor
    . rintro ⟨qs, heq, hsubset⟩ p hp
      rw [Value.ofPairs_injective heq] at hp
      exact hsubset (List.mem_map_of_mem hp)
    . intro h
      refine ⟨ps, rfl, ?_⟩
      rintro _ hkey
      obtain ⟨p, hp, rfl⟩ := List.mem_map.1 hkey
      exact h p hp
  rw [declared_eq_ok_iff, hkeys, List.forall_mem_map]
  simp [Value.isKey]

theorem object_eq_ok_iff {β : Type} {fields : Checked α} {names : List String} {ps : Pairs} {f : α × Unit → β}
    {b : β} :
    (Checked.both fields (declared names (ps.map fun (k, v) => (.str k, v)))).map f = .ok b
      ↔
    (Value.ofPairs ps).IsObjectOf names ∧ ∃ a, fields = .ok a ∧ f (a, ()) = b := by
  rw [Checked.map_eq_ok_iff, ← declared_ofPairs_iff]
  constructor
  . rintro ⟨⟨a, _⟩, hboth, hf⟩
    obtain ⟨hfields, hdeclared⟩ := Checked.both_eq_ok_iff.1 hboth
    exact ⟨hdeclared, a, hfields, hf⟩
  . rintro ⟨hdeclared, a, hfields, hf⟩
    exact ⟨(a, ()), Checked.both_eq_ok_iff.2 ⟨hfields, hdeclared⟩, hf⟩

theorem fail_eq_ok_iff (cause : Cause) : (.fail cause : Checked α) = .ok a ↔ none = some a := by
  simp [Checked.fail]

theorem ok_eq_ok_iff (b : α) : (.ok b : Checked α) = .ok a ↔ some b = some a := by
  simp

theorem not_isObjectOf {names : List String} (h : ∀ es, v ≠ .object es) : ¬ v.IsObjectOf names := by
  rintro ⟨ps, rfl, _⟩
  exact h _ rfl

end Check

/-! ### Entities -/

namespace Entity

open Check (Decides)

theorem decides_checkSchema : Decides checkSchema fun v s => v.IsText s.1 := by
  intro v h s
  have hrefined : checkSchema v = .ok s ↔ Check.text v = .ok s.1 := Checked.refined_eq_ok_iff
  exact hrefined.trans (Check.decides_text v h s.1)

theorem checkEntries_ofPairs {ps : Pairs} (h : ps.keys.Nodup) :
    checkEntries (ps.map fun (k, v) => (.str k, v)) = .ok ps := by
  rw [checkEntries, List.map_map, Checked.map_eq_ok_iff]
  refine ⟨ps, ?_, Pairs.setAll_eq_append h⟩
  rw [Checked.all_eq_ok_iff, List.forall₂_map_left_iff, List.forall₂_same]
  exact fun _ _ => rfl

theorem decides_checkData : Decides checkData fun v ps => v = .ofPairs ps.1 := by
  intro v h ps
  cases h with
  | @object qs keys values =>
    have hrefined : checkData (.ofPairs qs) = .ok ps ↔ (.ok qs : Checked Pairs) = .ok ps.1 := by
      rw [← checkEntries_ofPairs keys]
      exact Checked.refined_eq_ok_iff
    rw [hrefined, Except.ok.injEq]
    exact Value.ofPairs_injective.eq_iff.symm
  | _ => simp [checkData, Checked.fail, Value.ofPairs]

theorem decides_check : Decides check Describes := by
  intro v h e
  have hv := h
  cases h with
  | @object ps keys values =>
    have hobject : check (.ofPairs ps) = .ok e
        ↔ (Value.ofPairs ps).IsObjectOf ["sc", "dt"]
          ∧ ∃ fields, Checked.both (Check.field "sc" (.fail .missing) checkSchema (.ofPairs ps))
              (Check.field "dt" (.fail .missing) checkData (.ofPairs ps)) = .ok fields
            ∧ (⟨fields.1.1, fields.2.1, fields.1.2, fields.2.2⟩ : Entity) = e :=
      Check.object_eq_ok_iff
    rw [hobject]
    have hfail := fun {α : Type} (a : α) => Check.fail_eq_ok_iff (a := a) .missing
    constructor
    . rintro ⟨hkeys, ⟨s, d⟩, hboth, rfl⟩
      obtain ⟨hs, hd⟩ := Checked.both_eq_ok_iff.1 hboth
      cases (decides_checkSchema.field hv (hfail s) "sc").1 hs with
      | absent _ given => cases given
      | present hschema given =>
        cases given
        cases (decides_checkData.field hv (hfail d) "dt").1 hd with
        | absent _ given => cases given
        | present hdata given =>
          cases given
          exact ⟨hkeys, hschema, hdata⟩
    . rintro ⟨hkeys, hschema, hdata⟩
      refine ⟨hkeys, (⟨e.schema, e.schema_ne⟩, ⟨e.data, e.data_ne⟩), Checked.both_eq_ok_iff.2 ⟨?_, ?_⟩, rfl⟩
      . exact (decides_checkSchema.field hv (hfail _) "sc").2 (.present hschema rfl)
      . exact (decides_checkData.field hv (hfail _) "dt").2 (.present hdata rfl)
  | _ => exact ⟨nofun, fun hdescribes => absurd hdescribes.keys (Check.not_isObjectOf nofun)⟩

theorem explained_checkSchema (v : Value) : (checkSchema v).Explained := by
  apply (Checked.Explained.text v).bind
  intro s
  split
  . exact .ok _
  . exact .fail _

theorem explained_checkEntries (es : List (Value × Value)) : (checkEntries es).Explained := by
  refine .map (.all ?_) _
  rw [List.forall_mem_map]
  exact fun e _ => (((Checked.Explained.text e.1).under _).under _).map _

theorem explained_checkData (v : Value) : (checkData v).Explained := by
  unfold checkData
  split
  . apply (explained_checkEntries _).bind
    intro ps
    split
    . exact .ok _
    . exact .fail _
  . exact .fail _

theorem explained_check (v : Value) : (check v).Explained := by
  unfold check
  split
  . refine .map (.both (.both ?_ ?_) (.declared _ _)) _
    . exact .field explained_checkSchema _ "sc" (.fail _)
    . exact .field explained_checkData _ "dt" (.fail _)
  . exact .fail _

end Entity

/-! ### Entries -/

namespace ManifestEntry

open Check (Decides)

theorem eq_of_checkRuleTexts {v shown : Value} {texts : List String} (h : v.IsJson)
    (hcheck : checkRuleTexts v = .ok (shown, texts)) : v = shown := by
  unfold checkRuleTexts at hcheck
  split at hcheck
  . next s _ htext =>
    cases hcheck
    exact h.isData.eq_str_of_text htext
  . next texts hlist _ =>
    cases hcheck
    have hitems := h.isData.items?_of_list_text hlist
    cases h with
    | list items =>
      rw [Option.some.inj hitems]
      rfl
    | _ => cases hitems
  . cases hcheck

theorem checkRules_of_checkRuleTexts {v shown : Value} {rules : Rules}
    (h : checkRuleTexts v = .ok (shown, rules.1)) : checkRules v = .ok rules := by
  rw [checkRules, h]
  exact dif_pos rules.2

theorem decides_checkRules : Decides checkRules fun v rules => Writes rules v := by
  intro v h rules
  constructor
  . intro hcheck
    obtain ⟨shown, hshown, hwrites⟩ := exists_of_checkRules hcheck
    rwa [eq_of_checkRuleTexts h hshown]
  . rintro (valid | items)
    . exact checkRules_of_checkRuleTexts rfl
    . have hlist := Value.list_text_of_items? items
      cases h with
      | @list vs _ =>
        have htexts : checkRuleTexts (.list vs) = .ok (.ofTexts rules.1, rules.1) := by
          rw [checkRuleTexts, hlist]
          rfl
        exact checkRules_of_checkRuleTexts htexts
      | _ => cases items

theorem not_writes_null (rules : Rules) : ¬ Writes rules .null := by
  rintro (_ | ⟨⟨⟩⟩)

theorem decides_check : Decides check Describes := by
  intro v h e
  have hv := h
  cases h with
  | @object ps keys values =>
    have hobject : check (.ofPairs ps) = .ok e
        ↔ (Value.ofPairs ps).IsObjectOf ["entity", "accept", "reject"]
          ∧ ∃ fields, Checked.both (Check.field "entity" (.fail .missing) Entity.check (.ofPairs ps))
              (Checked.both (Check.field "accept" (.ok none) (Check.optional checkRules) (.ofPairs ps))
                (Check.field "reject" (.ok none) (Check.optional checkRules) (.ofPairs ps))) = .ok fields
            ∧ (⟨fields.1, fields.2.1, fields.2.2⟩ : ManifestEntry) = e :=
      Check.object_eq_ok_iff
    rw [hobject]
    have hentity := fun a => Entity.decides_check.field hv (Check.fail_eq_ok_iff (a := a) .missing) "entity"
    have hside := fun name (a : Option Rules) =>
      (decides_checkRules.optional not_writes_null).field (a := a) hv (Check.ok_eq_ok_iff none) name
    constructor
    . rintro ⟨hkeys, ⟨entity, accept, reject⟩, hboth, rfl⟩
      obtain ⟨he, hsides⟩ := Checked.both_eq_ok_iff.1 hboth
      obtain ⟨ha, hr⟩ := Checked.both_eq_ok_iff.1 hsides
      exact ⟨hkeys, (hentity entity).1 he, (hside "accept" accept).1 ha, (hside "reject" reject).1 hr⟩
    . rintro ⟨hkeys, he, ha, hr⟩
      refine ⟨hkeys, (e.entity, e.accept, e.reject), ?_, rfl⟩
      rw [Checked.both_eq_ok_iff, Checked.both_eq_ok_iff]
      exact ⟨(hentity e.entity).2 he, (hside "accept" e.accept).2 ha, (hside "reject" e.reject).2 hr⟩
  | _ => exact ⟨nofun, fun hdescribes => absurd hdescribes.keys (Check.not_isObjectOf nofun)⟩

theorem explained_checkRules (v : Value) : (checkRules v).Explained := by
  have htexts : (checkRuleTexts v).Explained := by
    unfold checkRuleTexts
    split
    . exact .ok _
    . exact .ok _
    . next single _ hsingle _ =>
      have hne : single ≠ [] := by
        rintro rfl
        exact Checked.Explained.text v hsingle
      intro heq
      apply hne
      simpa [Checked.violations, Checked.under] using (List.append_eq_nil_iff.1 (Except.error.inj heq)).1
  apply htexts.bind
  rintro ⟨shown, texts⟩
  dsimp only
  split
  . exact .ok _
  . exact .fail _

theorem explained_check (v : Value) : (check v).Explained := by
  unfold check
  split
  . refine .map (.both (.both ?_ (.both ?_ ?_)) (.declared _ _)) _
    . exact .field Entity.explained_check _ "entity" (.fail _)
    . exact .field (.optional explained_checkRules) _ "accept" (.ok none)
    . exact .field (.optional explained_checkRules) _ "reject" (.ok none)
  . exact .fail _

def MakesRuleSet (e : ManifestEntry) : Prop :=
  (e.isConditional = true ↔ e.ruleSet?.isSome = true)
    ∧ ∀ rules accept reject, e.ruleSet? = some rules → WritesSide "accept" e.accept accept →
        WritesSide "reject" e.reject reject → RuleSet.check (.ofPairs (accept ++ reject)) = .ok rules

theorem makesRuleSet (e : ManifestEntry) : e.MakesRuleSet := by
  refine ⟨by simp [ruleSet?], ?_⟩
  intro rules accept reject hrules haccept hreject
  unfold ruleSet? at hrules
  split at hrules
  . next hconditional =>
    cases hrules
    have hkeys := Schema.isRuleSetValue_object_iff.1 (isRuleSetValue_sides haccept hreject hconditional)
    exact RuleSet.check_object (givesSide_accept haccept hreject) (givesSide_reject haccept hreject) hkeys.2.1
  . cases hrules

end ManifestEntry

/-! ### Manifests -/

namespace Manifest

open Check (Decides)

theorem decides_check : Decides check Describes := by
  intro v h m
  have hv := h
  cases h with
  | @object ps keys values =>
    have hobject : check (.ofPairs ps) = .ok m
        ↔ (Value.ofPairs ps).IsObjectOf ["manifest_version", "description", "contexts"]
          ∧ ∃ fields, Checked.both (Check.field "manifest_version" (.ok "1") Check.text (.ofPairs ps))
              (Checked.both (Check.field "description" (.ok none) (Check.optional Check.text) (.ofPairs ps))
                (Check.field "contexts" (.ok []) (Check.list ManifestEntry.check) (.ofPairs ps))) = .ok fields
            ∧ (⟨fields.1, fields.2.1, fields.2.2⟩ : Manifest) = m :=
      Check.object_eq_ok_iff
    rw [hobject]
    have hversion := fun a =>
      Check.decides_text.field (a := a) hv (Check.ok_eq_ok_iff "1") "manifest_version"
    have hdescription := fun a =>
      (Check.decides_text.optional (fun _ => nofun)).field (a := a) hv (Check.ok_eq_ok_iff none) "description"
    have hentries := fun a =>
      ManifestEntry.decides_check.list.field (a := a) hv (Check.ok_eq_ok_iff []) "contexts"
    constructor
    . rintro ⟨hkeys, ⟨version, description, entries⟩, hboth, rfl⟩
      obtain ⟨hv, hrest⟩ := Checked.both_eq_ok_iff.1 hboth
      obtain ⟨hd, he⟩ := Checked.both_eq_ok_iff.1 hrest
      exact ⟨hkeys, (hversion version).1 hv, (hdescription description).1 hd, (hentries entries).1 he⟩
    . rintro ⟨hkeys, hv, hd, he⟩
      refine ⟨hkeys, (m.version, m.description, m.entries), ?_, rfl⟩
      rw [Checked.both_eq_ok_iff, Checked.both_eq_ok_iff]
      exact ⟨(hversion m.version).2 hv, (hdescription m.description).2 hd, (hentries m.entries).2 he⟩
  | _ => exact ⟨nofun, fun hdescribes => absurd hdescribes.keys (Check.not_isObjectOf nofun)⟩

theorem explained_check (v : Value) : (check v).Explained := by
  unfold check
  split
  . refine .map (.both (.both ?_ (.both ?_ ?_)) (.declared _ _)) _
    . exact .field .text _ "manifest_version" (.ok "1")
    . exact .field (.optional .text) _ "description" (.ok none)
    . exact .field (.list ManifestEntry.explained_check) _ "contexts" (.ok [])
  . exact .fail _

theorem ofDocument_of_not_object (source : String) {v : Value} (h : ∀ es, v ≠ .object es) :
    ofDocument source v = .error (.notAnObject source v.kind) := by
  cases v with
  | object es => exact absurd rfl (h es)
  | _ => rfl

theorem ofDocument_eq_ok_iff {source : String} {v : Value} {m : Manifest} :
    ofDocument source v = .ok m ↔ check v = .ok m := by
  cases v with
  | object es =>
    rw [ofDocument]
    cases check (.object es) <;> simp
  | _ => exact ⟨nofun, nofun⟩

theorem ofDocument_object_eq_error {source : String} {es : List (Value × Value)} {f : Fault}
    (h : ofDocument source (.object es) = .error f) : ∃ vs, f = .invalid vs ∧ vs ≠ [] := by
  rw [ofDocument] at h
  cases hcheck : check (.object es) with
  | ok m =>
    rw [hcheck] at h
    cases h
  | error vs =>
    rw [hcheck] at h
    cases h
    refine ⟨vs, rfl, ?_⟩
    rintro rfl
    exact explained_check _ hcheck

/--
Of the values of JSON exactly those objects are accepted that describe a manifest, which is then the one that
they describe. What is no object is refused as such; any other object is refused with at least one violation.
-/
theorem ofDocument_language (source : String) {v : Value} (h : v.IsJson) :
    ((∃ f, ofDocument source v = .error f ∧ f.kind = "TypeError") ↔ ∀ es, v ≠ .object es)
      ∧ (∀ m, ofDocument source v = .ok m ↔ Describes v m)
      ∧ (∀ es f, v = .object es → ofDocument source v = .error f →
          f.kind = "ValidationError" ∧ ∃ vs, f = .invalid vs ∧ vs ≠ [])
      ∧ ∀ m, ofDocument source v = .ok m → ∀ e ∈ m.entries, e.MakesRuleSet := by
  refine ⟨?_, fun m => ?_, ?_, fun m _ e _ => e.makesRuleSet⟩
  . constructor
    . rintro ⟨f, hf, hkind⟩ es rfl
      obtain ⟨vs, rfl, _⟩ := ofDocument_object_eq_error hf
      exact absurd (show "ValidationError" = "TypeError" from hkind) (by decide)
    . intro hobject
      exact ⟨_, ofDocument_of_not_object source hobject, rfl⟩
  . rw [ofDocument_eq_ok_iff]
    exact decides_check v h m
  . rintro es f rfl hf
    obtain ⟨vs, rfl, hvs⟩ := ofDocument_object_eq_error hf
    exact ⟨rfl, vs, rfl, hvs⟩

def entityDocument (schema : String) : Value :=
  .ofPairs [("sc", .str schema), ("dt", .ofPairs [("id", .int 1)])]

theorem isJson_entityDocument (schema : String) : (entityDocument schema).IsJson := by
  have hdata : (Value.ofPairs [("id", .int 1)]).IsJson := by
    apply Value.IsJson.object (by decide)
    rw [List.forall_mem_singleton]
    exact .int 1
  apply Value.IsJson.object (by simp [Pairs.keys])
  rw [List.forall_mem_cons, List.forall_mem_singleton]
  exact ⟨.str schema, hdata⟩

def twoEntries : Value :=
  .ofPairs [
    ("contexts", .list [
      .ofPairs [("reject", .list []), ("entity", entityDocument "first")],
      .ofPairs [("entity", entityDocument "second"), ("accept", .str "iglu:com.acme/*/jsonschema/*-*-*"),
        ("reject", .null)]]),
    ("description", .null)]

theorem isJson_twoEntries : twoEntries.IsJson := by
  apply Value.IsJson.object (by decide)
  rw [List.forall_mem_cons, List.forall_mem_singleton]
  refine ⟨.list ?_, .null⟩
  rw [List.forall_mem_cons, List.forall_mem_singleton]
  constructor
  . apply Value.IsJson.object (by decide)
    rw [List.forall_mem_cons, List.forall_mem_singleton]
    exact ⟨.list nofun, isJson_entityDocument "first"⟩
  . apply Value.IsJson.object (by decide)
    rw [List.forall_mem_cons, List.forall_mem_cons, List.forall_mem_singleton]
    exact ⟨isJson_entityDocument "second", .str _, .null⟩

theorem isJson_entityAlone : (Value.list [entityDocument "alone"]).IsJson := by
  apply Value.IsJson.list
  rw [List.forall_mem_singleton]
  exact isJson_entityDocument "alone"

theorem ofDocument_language_twoEntries :
    (∃ m, ofDocument "contexts.yaml" twoEntries = .ok m ∧ Describes twoEntries m ∧ m.entries.length = 2
        ∧ ∀ e ∈ m.entries, e.MakesRuleSet)
      ∧ (∃ vs, ofDocument "contexts.yaml" (entityDocument "alone") = .error (.invalid vs) ∧ vs ≠ [])
      ∧ ∃ f, ofDocument "contexts.yaml" (.list [entityDocument "alone"]) = .error f ∧ f.kind = "TypeError" := by
  refine ⟨?_, ?_, (ofDocument_language "contexts.yaml" isJson_entityAlone).1.2 nofun⟩
  . obtain ⟨_, hlanguage, _, hrules⟩ := ofDocument_language "contexts.yaml" isJson_twoEntries
    have hlength : (ofDocument "contexts.yaml" twoEntries).toOption.map (·.entries.length) = some 2 := by
      decide +kernel
    cases hrun : ofDocument "contexts.yaml" twoEntries with
    | error f =>
      rw [hrun] at hlength
      cases hlength
    | ok m =>
      rw [hrun] at hlength
      exact ⟨m, rfl, (hlanguage m).1 hrun, Option.some.inj hlength, hrules m hrun⟩
  . obtain ⟨_, _, herror, _⟩ := ofDocument_language "contexts.yaml" (isJson_entityDocument "alone")
    have hrefused : (ofDocument "contexts.yaml" (entityDocument "alone")).toOption.isNone = true := by
      decide +kernel
    cases hrun : ofDocument "contexts.yaml" (entityDocument "alone") with
    | error f =>
      obtain ⟨_, vs, rfl, hvs⟩ := herror _ f rfl hrun
      exact ⟨vs, rfl, hvs⟩
    | ok m =>
      rw [hrun] at hrefused
      cases hrefused

end Manifest

end EventTracking
