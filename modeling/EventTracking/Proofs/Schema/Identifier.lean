import EventTracking.Proofs.Number.Decimal
import EventTracking.Proofs.Schema.Spelling

/-!
This module contains schema identifiers with their versions as numbers: the theorem that an identifier that has
been read is written as the text it has been read from, and is the only one to be read from it.
-/

namespace EventTracking.Schema

variable {s t : String}

/-! ### Numbers of a version -/

theorem isDigit_of_isNumber (h : isNumber s = true) : s ≠ "" ∧ ∀ c ∈ s.toList, c.isDigit = true := by
  refine ⟨?_, fun _ => isDigit_of_mem h⟩
  rintro rfl
  cases h

theorem toString_of_isNumber (h : isNumber s = true) :
    toString (Nat.ofDigitChars 10 s.toList 0) = s := by
  rw [Nat.toString_eq_ofList_toDigits, ← String.toList_inj, String.toList_ofList]
  unfold isNumber at h
  split at h
  . cases h
  . next hs =>
    rw [hs]
    rfl
  . next c cs _ hs =>
    simp only [Bool.and_eq_true, bne_iff_ne, List.all_eq_true] at h
    rw [hs]
    exact Text.toDigits_ofDigitChars_of_ne_zero h.1.1 h.1.2 h.2

theorem Identifier.number_of_isNumber (h : isNumber s = true) :
    number s
      =
    if Text.maxDigits < s.length then .error (.tooLong s.length)
    else .ok (Nat.ofDigitChars 10 s.toList 0) := by
  obtain ⟨hne, hdigits⟩ := isDigit_of_isNumber h
  rw [number, Text.readInteger_of_isDigit hne hdigits]
  split <;> rfl

/-! ### Parts of an identifier -/

def Identifier.parts (i : Identifier) : Parts :=
  ⟨i.vendor, i.name, toString i.model, toString i.revision, toString i.addition⟩

namespace Parts

variable {p : Parts}

def identifier (p : Parts) : Identifier where
  vendor := p.vendor
  name := p.name
  model := Nat.ofDigitChars 10 p.model.toList 0
  revision := Nat.ofDigitChars 10 p.revision.toList 0
  addition := Nat.ofDigitChars 10 p.addition.toList 0

def overlong? (p : Parts) : Option String :=
  [p.model, p.revision, p.addition].find? (Text.maxDigits < ·.length)

theorem FormsIdentifier.parts_identifier (h : p.FormsIdentifier) : p.identifier.parts = p := by
  rw [Identifier.parts, identifier, toString_of_isNumber h.model, toString_of_isNumber h.revision,
    toString_of_isNumber h.addition]

theorem FormsIdentifier.ofParts_eq (h : p.FormsIdentifier) :
    Identifier.ofParts p
      =
    match p.overlong? with
    | some t => .error (.tooLong t.length)
    | none => .ok p.identifier := by
  rw [Identifier.ofParts, Identifier.number_of_isNumber h.model, Identifier.number_of_isNumber h.revision,
    Identifier.number_of_isNumber h.addition]
  unfold overlong?
  by_cases hmodel : Text.maxDigits < p.model.length
  . simp [hmodel]
    rfl
  . by_cases hrevision : Text.maxDigits < p.revision.length
    . simp [hmodel, hrevision]
      rfl
    . by_cases haddition : Text.maxDigits < p.addition.length
      . simp [hmodel, hrevision, haddition]
        rfl
      . simp [hmodel, hrevision, haddition]
        rfl

end Parts

/-! ### Texts of identifiers -/

variable {i : Identifier} {p : Parts}

theorem Identifier.identifier_parts (i : Identifier) : i.parts.identifier = i := by
  simp [parts, Parts.identifier, Nat.ofDigitChars_ten_toDigits]

theorem Identifier.uri_eq (i : Identifier) : i.uri = "iglu:" ++ i.parts.text := rfl

theorem identifierOf_str (s : String) :
    identifierOf (.str s)
      =
    match identifierParts? s with
    | none => .ok none
    | some p =>
      match p.overlong? with
      | some t => .error (.integerTooLong t.length)
      | none => .ok (some p.identifier) := by
  unfold identifierOf Identifier.read
  simp only [Value.text?]
  cases hparts : identifierParts? s with
  | none => rfl
  | some p =>
    dsimp only
    rw [(identifierParts?_eq_some_iff.1 hparts).2.ofParts_eq]
    cases p.overlong? <;> rfl

theorem identifierOf_eq_some_iff :
    identifierOf (.str s) = .ok (some i)
      ↔
    identifierParts? s = some i.parts ∧ i.parts.overlong? = none := by
  rw [identifierOf_str]
  cases hparts : identifierParts? s with
  | none => simp
  | some p =>
    have hform := (identifierParts?_eq_some_iff.1 hparts).2
    rw [Option.some.injEq]
    constructor
    . intro h
      dsimp only at h
      split at h
      . cases h
      . next hlong =>
        cases h
        rw [hform.parts_identifier]
        exact ⟨rfl, hlong⟩
    . rintro ⟨rfl, hlong⟩
      dsimp only
      rw [hlong, Identifier.identifier_parts]

theorem Parts.FormsIdentifier.identifierParts?_iff (h : p.FormsIdentifier) :
    identifierParts? s = some p ↔ withoutScheme s = p.text := by
  rw [identifierParts?, Option.filter_eq_some_iff, withoutScheme, ← String.toList_inj, String.toList_ofList]
  constructor
  . rintro ⟨hsplit, _⟩
    exact (Parts.text_of_split? hsplit).symm
  . intro htext
    exact ⟨h.separable.split?_of_dropScheme htext, (Parts.isIdentifier_iff h.vendor_ne_nil).2 h⟩

theorem withoutScheme_append (s : String) : withoutScheme ("iglu:" ++ s) = s := by
  have hscheme : ("iglu:" ++ s).toList = scheme ++ s.toList := String.toList_append
  rw [withoutScheme, hscheme, dropScheme_append, String.ofList_toList]

inductive SpellsIdentifier : List String → Prop where
  | parts {segments : List String} {name model revision addition : String} (hne : segments ≠ [])
      (hvendor : ∀ s ∈ segments, SpellsWord s) (hname : SpellsWord name) (hmodel : SpellsNumber model)
      (hrevision : SpellsNumber revision) (haddition : SpellsNumber addition) :
      SpellsIdentifier [".".intercalate segments, name, "jsonschema", model, revision, addition]

theorem spellsIdentifier_iff {parts : List String} :
    SpellsIdentifier parts ↔ ∃ p : Parts, p.FormsIdentifier ∧ p.toList = parts := by
  constructor
  . rintro (@⟨segments, name, model, revision, addition, hne, hvendor, hname, hmodel, hrevision, haddition⟩)
    refine ⟨⟨segments, name, model, revision, addition⟩, ?_, rfl⟩
    exact ⟨hne, fun s hs => isWord_iff.2 (hvendor s hs), isWord_iff.2 hname, isNumber_iff.2 hmodel,
      isNumber_iff.2 hrevision, isNumber_iff.2 haddition⟩
  . rintro ⟨p, h, rfl⟩
    exact .parts h.vendor_ne_nil (fun s hs => isWord_iff.1 (h.vendor s hs)) (isWord_iff.1 h.name)
      (isNumber_iff.1 h.model) (isNumber_iff.1 h.revision) (isNumber_iff.1 h.addition)

theorem exists_spellsIdentifier_iff :
    (identifierParts? s).isSome = true ↔ ∃ parts, SpellsIdentifier parts ∧ IsJoinedFrom s parts := by
  rw [Option.isSome_iff_exists]
  constructor
  . rintro ⟨p, h⟩
    obtain ⟨hwritten, hform⟩ := identifierParts?_eq_some_iff.1 h
    exact ⟨p.toList, spellsIdentifier_iff.2 ⟨p, hform, rfl⟩, written_iff_isJoinedFrom.1 hwritten⟩
  . rintro ⟨_, hparts, hjoined⟩
    obtain ⟨p, hform, rfl⟩ := spellsIdentifier_iff.1 hparts
    exact ⟨p, identifierParts?_eq_some_iff.2 ⟨written_iff_isJoinedFrom.2 hjoined, hform⟩⟩

theorem identifierOf_eq_none_iff : identifierOf (.str s) = .ok none ↔ identifierParts? s = none := by
  rw [identifierOf_str]
  cases identifierParts? s with
  | none => simp
  | some p => cases hlong : p.overlong? <;> simp [hlong]

theorem identifierOf_eq_error_iff {f : Fault} :
    identifierOf (.str s) = .error f
      ↔
    ∃ p number, identifierParts? s = some p ∧ p.overlong? = some number ∧ f = .integerTooLong number.length := by
  rw [identifierOf_str]
  cases identifierParts? s with
  | none => simp
  | some p => cases hlong : p.overlong? <;> simp [hlong, eq_comm]

/--
A text has the parts of a schema identifier exactly if it is joined from such parts. It is then read as an
identifier, unless a number of its version has more than 4300 digits. The identifier is written as the text with
its scheme, is read again from what it is written as, and is read from no other text, apart from the scheme. Its
segments are those of the vendor that has been found.
-/
theorem identifierOf_round_trip (s : String) :
    ((identifierPartsOf? (.str s)).isSome = true ↔ ∃ parts, SpellsIdentifier parts ∧ IsJoinedFrom s parts)
      ∧ (identifierOf (.str s) = .ok none ↔ identifierPartsOf? (.str s) = none)
      ∧ (∀ f, identifierOf (.str s) = .error f
          ↔
        ∃ p number, identifierPartsOf? (.str s) = some p
          ∧ [p.model, p.revision, p.addition].find? (4300 < ·.length) = some number
          ∧ f = .integerTooLong number.length)
      ∧ ∀ i, identifierOf (.str s) = .ok (some i) →
          i.uri = "iglu:" ++ withoutScheme s
            ∧ identifierOf (.str i.uri) = .ok (some i)
            ∧ (∃ p, identifierPartsOf? (.str s) = some p ∧ ".".intercalate i.vendor = p.vendorText
              ∧ pieces '.' p.vendorText.toList = i.vendor)
            ∧ ∀ t, identifierOf (.str t) = .ok (some i) ↔ withoutScheme t = withoutScheme s := by
  have hreads : identifierPartsOf? (.str s) = identifierParts? s := rfl
  rw [hreads]
  refine ⟨exists_spellsIdentifier_iff, identifierOf_eq_none_iff, fun _ => identifierOf_eq_error_iff, ?_⟩
  intro i h
  obtain ⟨hparts, hlong⟩ := identifierOf_eq_some_iff.1 h
  have hform := (identifierParts?_eq_some_iff.1 hparts).2
  have htext : withoutScheme s = i.parts.text := hform.identifierParts?_iff.1 hparts
  have hread : ∀ t, identifierOf (.str t) = .ok (some i) ↔ withoutScheme t = withoutScheme s := by
    intro t
    rw [identifierOf_eq_some_iff, hform.identifierParts?_iff, htext]
    exact and_iff_left hlong
  refine ⟨?_, ?_, ⟨i.parts, hparts, rfl, ?_⟩, hread⟩
  . rw [htext, i.uri_eq]
  . rw [hread, htext, i.uri_eq, withoutScheme_append]
  . exact pieces_joinWith '.' (by simp) hform.vendor_ne_nil fun t ht => (hform.separable.vendor t ht).1

theorem identifierOf_round_trip_acme :
    let i : Identifier := ⟨["com", "acme", "web"], "link_click", 1, 0, 12⟩
    identifierOf (.str "com.acme.web/link_click/jsonschema/1-0-12") = .ok (some i)
      ∧ i.uri = "iglu:com.acme.web/link_click/jsonschema/1-0-12"
      ∧ identifierOf (.str i.uri) = .ok (some i)
      ∧ identifierOf (.str "com.acme.web/link_click/jsonschema/1-0-13") ≠ .ok (some i) := by
  intro i
  have hread : identifierOf (.str "com.acme.web/link_click/jsonschema/1-0-12") = .ok (some i) := rfl
  obtain ⟨huri, hagain, _, honly⟩ :=
    (identifierOf_round_trip "com.acme.web/link_click/jsonschema/1-0-12").2.2.2 i hread
  refine ⟨hread, huri, hagain, ?_⟩
  rw [ne_eq, honly]
  decide

end EventTracking.Schema
