import EventTracking.Proofs.Value.Entries
import EventTracking.Schema.Valuation
import Mathlib.Data.List.Basic

/-!
This module contains the grammar of schema identifiers and of rules as a description of texts, and the
theorems that reading accepts exactly the described texts and finds the parts they are written from.
-/

namespace EventTracking.Schema

namespace Parts

def Written (p : Parts) (s : String) : Prop :=
  s = p.text ∨ s = String.ofList scheme ++ p.text

structure FormsIdentifier (p : Parts) : Prop where
  vendor_ne_nil : p.vendor ≠ []
  vendor : ∀ s ∈ p.vendor, isWord s = true
  name : isWord p.name = true
  model : isNumber p.model = true
  revision : isNumber p.revision = true
  addition : isNumber p.addition = true

end Parts

def FormsVendor (segments : List String) : Prop :=
  segments ≠ [] ∧ ∃ concrete wildcards, segments = concrete ++ List.replicate wildcards wildcard
    ∧ ∀ s ∈ concrete, isWord s = true

namespace Parts

structure FormsRule (p : Parts) : Prop where
  vendor : FormsVendor p.vendor
  name : p.name = wildcard ∨ isWord p.name = true
  model : p.model = wildcard ∨ isNumber p.model = true
  revision : p.revision = wildcard ∨ isNumber p.revision = true
  addition : p.addition = wildcard ∨ isNumber p.addition = true

end Parts

/-! ### Characters of the parts -/

theorem isWordChar_of_mem {s : String} (h : isWord s = true) {c : Char} (hc : c ∈ s.toList) :
    isWordChar c = true := by
  simp only [isWord, Bool.and_eq_true, List.all_eq_true] at h
  exact h.2 c hc

theorem not_mem_of_isWord {s : String} (h : isWord s = true) {c : Char}
    (hc : isWordChar c = false) : c ∉ s.toList := by
  intro hmem
  have := isWordChar_of_mem h hmem
  simp [hc] at this

theorem isDigit_of_mem {s : String} (h : isNumber s = true) {c : Char} (hc : c ∈ s.toList) :
    c.isDigit = true := by
  unfold isNumber at h
  split at h
  . simp at h
  . next heq =>
    rw [heq] at hc
    simp only [List.mem_singleton] at hc
    rw [hc]
    rfl
  . next d ds _ heq =>
    simp only [Bool.and_eq_true, List.all_eq_true] at h
    rw [heq] at hc
    cases hc with
    | head => exact h.1.1
    | tail _ hmem => exact h.2 c hmem

theorem not_mem_of_isNumber {s : String} (h : isNumber s = true) {c : Char}
    (hc : c.isDigit = false) : c ∉ s.toList := by
  intro hmem
  have := isDigit_of_mem h hmem
  simp [hc] at this

theorem ne_wildcard_of_isWord {s : String} (h : isWord s = true) : s ≠ wildcard := by
  intro heq
  rw [heq] at h
  exact absurd h (by decide)

/-! ### Cutting a written text -/

namespace Parts

/-- What lets a text be cut into the parts that it is written from. -/
structure Separable (p : Parts) : Prop where
  vendor_ne_nil : p.vendor ≠ []
  vendor : ∀ s ∈ p.vendor, '.' ∉ s.toList ∧ '/' ∉ s.toList ∧ ':' ∉ s.toList
  name : '/' ∉ p.name.toList
  version : ∀ s ∈ [p.model, p.revision, p.addition], '-' ∉ s.toList ∧ '/' ∉ s.toList

end Parts

section Joining

variable {separator : String} (mark : Char) {parts : List String}

theorem toList_joinWith (hmark : separator.toList = [mark]) (parts : List String) :
    (joinWith separator parts).toList = [mark].intercalate (parts.map String.toList) := by
  simp [joinWith, String.toList_intercalate, hmark]

theorem mem_intercalate {α : Type} {x separator : α} {parts : List (List α)}
    (h : x ∈ [separator].intercalate parts) : x = separator ∨ ∃ l ∈ parts, x ∈ l := by
  induction parts with
  | nil => simp at h
  | cons l ls ih =>
    cases ls with
    | nil => exact Or.inr ⟨l, by simp, by simpa using h⟩
    | cons l' ls =>
      rw [List.intercalate_cons_cons] at h
      simp only [List.mem_append, List.mem_singleton] at h
      rcases h with (h | h) | h
      . exact Or.inr ⟨l, by simp, h⟩
      . exact Or.inl h
      . rcases ih h with h | ⟨m, hm, hx⟩
        . exact Or.inl h
        . exact Or.inr ⟨m, List.mem_cons_of_mem _ hm, hx⟩

theorem not_mem_joinWith {c : Char} (hmark : separator.toList = [mark]) (hne : c ≠ mark)
    (h : ∀ s ∈ parts, c ∉ s.toList) : c ∉ (joinWith separator parts).toList := by
  intro hmem
  rw [toList_joinWith mark hmark] at hmem
  rcases mem_intercalate hmem with heq | ⟨l, hl, hc⟩
  . exact hne heq
  . obtain ⟨s, hs, rfl⟩ := List.mem_map.1 hl
    exact h s hs hc

theorem splitOn_joinWith (hmark : separator.toList = [mark]) (hne : parts ≠ [])
    (h : ∀ s ∈ parts, mark ∉ s.toList) :
    (joinWith separator parts).toList.splitOn mark = parts.map String.toList := by
  rw [toList_joinWith mark hmark]
  apply List.splitOn_intercalate
  . intro l hl
    obtain ⟨s, hs, rfl⟩ := List.mem_map.1 hl
    exact h s hs
  . simpa using hne

theorem pieces_joinWith (hmark : separator.toList = [mark]) (hne : parts ≠ [])
    (h : ∀ s ∈ parts, mark ∉ s.toList) : pieces mark (joinWith separator parts).toList = parts := by
  unfold pieces
  rw [splitOn_joinWith mark hmark hne h]
  simp [Function.comp_def]

theorem joinWith_pieces (hmark : separator.toList = [mark]) (cs : List Char) :
    (joinWith separator (pieces mark cs)).toList = cs := by
  rw [toList_joinWith mark hmark]
  simp [pieces, Function.comp_def]

end Joining

theorem dropScheme_eq_self {cs : List Char} (h : ¬ scheme <+: cs) : dropScheme cs = cs := by
  simp [dropScheme, h]

theorem dropScheme_append (cs : List Char) : dropScheme (scheme ++ cs) = cs := by
  simp [dropScheme]

theorem dropScheme_or (cs : List Char) : cs = dropScheme cs ∨ cs = scheme ++ dropScheme cs := by
  by_cases h : scheme <+: cs
  . obtain ⟨t, rfl⟩ := h
    rw [dropScheme_append]
    exact Or.inr rfl
  . rw [dropScheme_eq_self h]
    exact Or.inl rfl

namespace Parts

variable {p q : Parts} {s : String}

theorem Separable.slash_not_mem (h : p.Separable) :
    ∀ t ∈ [p.vendorText, p.name, formatName, p.version], '/' ∉ t.toList := by
  have hvendor : '/' ∉ p.vendorText.toList :=
    not_mem_joinWith '.' (by simp) (by decide) fun s hs => (h.vendor s hs).2.1
  have hversion : '/' ∉ p.version.toList :=
    not_mem_joinWith '-' (by simp) (by decide) fun s hs => (h.version s hs).2
  have hformat : '/' ∉ formatName.toList := by decide
  simp [hvendor, hversion, hformat, h.name]

theorem Separable.splitOn_text (h : p.Separable) :
    p.text.toList.splitOn '/'
      =
    [p.vendorText.toList, p.name.toList, formatName.toList, p.version.toList] := by
  unfold text
  rw [splitOn_joinWith '/' (by simp) (by simp) h.slash_not_mem]
  rfl

-- The scheme holds a colon and no slash, so it could only stand inside the vendor.
theorem Separable.scheme_not_leading (h : p.Separable) : ¬ scheme <+: p.text.toList := by
  rintro ⟨t, ht⟩
  have hcolon : ':' ∉ p.vendorText.toList :=
    not_mem_joinWith '.' (by simp) (by decide) fun s hs => (h.vendor s hs).2.2
  have hhead : (scheme ++ t).splitOn '/' = (t.splitOn '/').modifyHead (scheme ++ ·) := by
    simp [scheme, List.splitOn_cons_eq_if_modifyHead, Function.comp_def]
  rw [ht, h.splitOn_text] at hhead
  cases hparts : t.splitOn '/' with
  | nil => exact absurd hparts (List.splitOn_ne_nil _ _)
  | cons l ls =>
    rw [hparts] at hhead
    simp only [List.modifyHead_cons, List.cons.injEq] at hhead
    apply hcolon
    rw [hhead.1]
    simp [scheme]

theorem Separable.split?_of_dropScheme (h : p.Separable) (hs : dropScheme s.toList = p.text.toList) :
    split? s = some p := by
  have hvendor : pieces '.' p.vendorText.toList = p.vendor :=
    pieces_joinWith '.' (by simp) h.vendor_ne_nil fun s hs => (h.vendor s hs).1
  have hversion : pieces '-' p.version.toList = [p.model, p.revision, p.addition] :=
    pieces_joinWith '-' (by simp) (by simp) fun s hs => (h.version s hs).1
  unfold split?
  rw [hs, h.splitOn_text]
  simp [hvendor, hversion]

theorem Separable.split?_of_written (h : p.Separable) (hs : p.Written s) : split? s = some p := by
  apply h.split?_of_dropScheme
  rcases hs with rfl | rfl
  . exact dropScheme_eq_self h.scheme_not_leading
  . rw [String.toList_append, String.toList_ofList, dropScheme_append]

theorem text_of_split? (h : split? s = some p) : p.text.toList = dropScheme s.toList := by
  unfold split? at h
  split at h
  . next vendor name format version hslash =>
    split at h
    . next hformat =>
      split at h
      . next model revision addition hversion =>
        cases h
        have hversion : (joinWith "-" [model, revision, addition]).toList = version := by
          rw [← hversion]
          exact joinWith_pieces '-' (by simp) version
        have hvendor : (joinWith "." (pieces '.' vendor)).toList = vendor :=
          joinWith_pieces '.' (by simp) vendor
        have hformat : formatName.toList = format := by
          rw [← hformat, String.toList_ofList]
        have hjoined : ['/'].intercalate ((dropScheme s.toList).splitOn '/') = dropScheme s.toList :=
          List.intercalate_splitOn '/'
        rw [← hjoined, hslash]
        unfold text vendorText Parts.version
        rw [toList_joinWith '/' (by simp)]
        simp only [List.map_cons, List.map_nil, String.toList_ofList, hversion, hvendor, hformat]
      . simp at h
    . simp at h
  . simp at h

theorem written_of_split? (h : split? s = some p) : p.Written s := by
  have htext := text_of_split? h
  rcases dropScheme_or s.toList with hs | hs
  . left
    apply String.toList_injective
    rw [htext, ← hs]
  . right
    apply String.toList_injective
    rw [String.toList_append, String.toList_ofList, htext, ← hs]

theorem vendor_ne_nil_of_split? (h : split? s = some p) : p.vendor ≠ [] := by
  unfold split? at h
  split at h
  . split at h
    . split at h
      . cases h
        simp [pieces, List.splitOn_ne_nil]
      . simp at h
    . simp at h
  . simp at h

theorem FormsIdentifier.separable (h : p.FormsIdentifier) : p.Separable where
  vendor_ne_nil := h.vendor_ne_nil
  vendor := fun s hs =>
    have hword := h.vendor s hs
    ⟨not_mem_of_isWord hword rfl, not_mem_of_isWord hword rfl, not_mem_of_isWord hword rfl⟩
  name := not_mem_of_isWord h.name rfl
  version := by
    simp only [List.mem_cons, List.not_mem_nil, or_false, forall_eq_or_imp, forall_eq]
    exact ⟨⟨not_mem_of_isNumber h.model rfl, not_mem_of_isNumber h.model rfl⟩,
      ⟨not_mem_of_isNumber h.revision rfl, not_mem_of_isNumber h.revision rfl⟩,
      not_mem_of_isNumber h.addition rfl, not_mem_of_isNumber h.addition rfl⟩

theorem isIdentifier_iff (hne : p.vendor ≠ []) : p.isIdentifier = true ↔ p.FormsIdentifier := by
  simp only [isIdentifier, Bool.and_eq_true, List.all_eq_true]
  constructor
  . rintro ⟨⟨⟨⟨hvendor, hname⟩, hmodel⟩, hrevision⟩, haddition⟩
    exact ⟨hne, hvendor, hname, hmodel, hrevision, haddition⟩
  . intro h
    exact ⟨⟨⟨⟨h.vendor, h.name⟩, h.model⟩, h.revision⟩, h.addition⟩

end Parts

/-! ### Vendors of rules -/

theorem isVendorParts_go_iff {seenWildcard : Bool} {xs : List Value} :
    isVendorParts.go seenWildcard xs = true
      ↔
    (∀ x ∈ xs, x.truthy = true) ∧ (seenWildcard = true → ∀ x ∈ xs, x = .str wildcard)
      ∧ xs.Pairwise fun x y => x = .str wildcard → y = .str wildcard := by
  induction xs generalizing seenWildcard with
  | nil => simp [isVendorParts.go]
  | cons x xs ih =>
    have hkey : x.isKey wildcard = true ↔ x = .str wildcard := Value.isKey_iff
    rw [isVendorParts.go, Bool.and_eq_true, List.forall_mem_cons, List.forall_mem_cons, List.pairwise_cons]
    by_cases hx : x = .str wildcard
    . rw [if_pos (hkey.2 hx), ih]
      simp only [hx, true_and, forall_const]
      constructor
      . rintro ⟨hx, hxs, hwildcards, hpairwise⟩
        exact ⟨⟨hx, hxs⟩, fun _ => hwildcards, hwildcards, hpairwise⟩
      . rintro ⟨⟨hx, hxs⟩, _, hwildcards, hpairwise⟩
        exact ⟨hx, hxs, hwildcards, hpairwise⟩
    . rw [if_neg (fun h => hx (hkey.1 h)), Bool.and_eq_true, ih]
      simp only [hx, false_and, false_imp_iff, implies_true, true_and, imp_false, Bool.not_eq_true,
        Bool.not_eq_true', Bool.false_eq_true]
      constructor
      . rintro ⟨hx, hseen, hxs, hpairwise⟩
        exact ⟨⟨hx, hxs⟩, hseen, hpairwise⟩
      . rintro ⟨⟨hx, hxs⟩, hseen, hpairwise⟩
        exact ⟨hx, hseen, hxs, hpairwise⟩

theorem isVendorParts_go_texts (seenWildcard : Bool) (segments : List String) :
    isVendorParts.go seenWildcard (segments.map .str) = isVendor.go seenWildcard segments := by
  induction segments generalizing seenWildcard with
  | nil => rfl
  | cons s segments ih =>
    rw [List.map_cons, isVendorParts.go, isVendor.go, ih, ih]
    simp [Value.truthy, Value.isKey]

theorem isVendor_iff {segments : List String} :
    isVendor segments = true
      ↔
    segments ≠ [] ∧ (∀ s ∈ segments, s ≠ "") ∧ segments.Pairwise fun s t => s = wildcard → t = wildcard := by
  rw [isVendor, ← isVendorParts_go_texts, Bool.and_eq_true, isVendorParts_go_iff, List.forall_mem_map,
    List.pairwise_map]
  simp [Value.truthy]

theorem pairwise_wildcards {concrete : List String} (hconcrete : ∀ s ∈ concrete, isWord s = true) (n : Nat) :
    (concrete ++ List.replicate n wildcard).Pairwise fun s t => s = wildcard → t = wildcard := by
  rw [List.pairwise_append]
  refine ⟨?_, ?_, ?_⟩
  . apply List.pairwise_of_forall_mem_list
    intro s hs t _ heq
    exact absurd heq (ne_wildcard_of_isWord (hconcrete s hs))
  . exact List.pairwise_replicate.2 (Or.inr id)
  . intro s _ t ht _
    exact List.eq_of_mem_replicate ht

theorem exists_of_pairwise {segments : List String}
    (hsegment : ∀ s ∈ segments, s = wildcard ∨ isWord s = true)
    (htrailing : segments.Pairwise fun s t => s = wildcard → t = wildcard) :
    ∃ concrete n, segments = concrete ++ List.replicate n wildcard ∧ ∀ s ∈ concrete, isWord s = true := by
  induction segments with
  | nil => exact ⟨[], 0, rfl, by simp⟩
  | cons s rest ih =>
    obtain ⟨hs, hrest⟩ := List.forall_mem_cons.1 hsegment
    obtain ⟨hlater, htrailing⟩ := List.pairwise_cons.1 htrailing
    rcases hs with rfl | hs
    . -- Nothing but wildcards follows the first one.
      refine ⟨[], rest.length + 1, ?_, by simp⟩
      rw [List.nil_append, List.replicate_succ, ← List.eq_replicate_of_mem fun t ht => hlater t ht rfl]
    . obtain ⟨concrete, n, rfl, hconcrete⟩ := ih hrest htrailing
      exact ⟨s :: concrete, n, rfl, List.forall_mem_cons.2 ⟨hs, hconcrete⟩⟩

theorem formsVendor_iff_pairwise {segments : List String} :
    FormsVendor segments
      ↔
    segments ≠ [] ∧ (∀ s ∈ segments, s = wildcard ∨ isWord s = true)
      ∧ segments.Pairwise fun s t => s = wildcard → t = wildcard := by
  constructor
  . rintro ⟨hne, concrete, n, rfl, hconcrete⟩
    refine ⟨hne, ?_, pairwise_wildcards hconcrete n⟩
    intro s hs
    rcases List.mem_append.1 hs with hs | hs
    . exact Or.inr (hconcrete s hs)
    . exact Or.inl (List.eq_of_mem_replicate hs)
  . rintro ⟨hne, hsegment, htrailing⟩
    exact ⟨hne, exists_of_pairwise hsegment htrailing⟩

theorem formsVendor_iff {segments : List String} :
    (segments.all isWordPattern = true ∧ isVendor segments = true) ↔ FormsVendor segments := by
  have hpattern : segments.all isWordPattern = true ↔ ∀ s ∈ segments, s = wildcard ∨ isWord s = true := by
    simp [isWordPattern]
  rw [hpattern, isVendor_iff, formsVendor_iff_pairwise]
  constructor
  . rintro ⟨hsegment, hne, _, htrailing⟩
    exact ⟨hne, hsegment, htrailing⟩
  . rintro ⟨hne, hsegment, htrailing⟩
    refine ⟨hsegment, hne, ?_, htrailing⟩
    rintro s hs rfl
    exact absurd (hsegment "" hs) (by decide)

namespace Parts

variable {p : Parts} {s : String}

theorem FormsRule.separable (h : p.FormsRule) : p.Separable where
  vendor_ne_nil := h.vendor.1
  vendor := by
    obtain ⟨_, concrete, wildcards, hvendor, hwords⟩ := h.vendor
    intro s hs
    rw [hvendor] at hs
    rcases List.mem_append.1 hs with hs | hs
    . have hword := hwords s hs
      exact ⟨not_mem_of_isWord hword rfl, not_mem_of_isWord hword rfl, not_mem_of_isWord hword rfl⟩
    . rw [List.eq_of_mem_replicate hs]
      decide
  name := by
    rcases h.name with hname | hname
    . rw [hname]
      decide
    . exact not_mem_of_isWord hname rfl
  version := by
    have hnumber : ∀ s, s = wildcard ∨ isNumber s = true → '-' ∉ s.toList ∧ '/' ∉ s.toList := by
      rintro s (rfl | hs)
      . decide
      . exact ⟨not_mem_of_isNumber hs rfl, not_mem_of_isNumber hs rfl⟩
    simp only [List.mem_cons, List.not_mem_nil, or_false, forall_eq_or_imp, forall_eq]
    exact ⟨hnumber _ h.model, hnumber _ h.revision, hnumber _ h.addition⟩

theorem isRule_iff : p.isRule = true ↔ p.FormsRule := by
  have hword : ∀ s, isWordPattern s = true ↔ s = wildcard ∨ isWord s = true := by
    simp [isWordPattern]
  have hnumber : ∀ s, isNumberPattern s = true ↔ s = wildcard ∨ isNumber s = true := by
    simp [isNumberPattern]
  simp only [isRule, Bool.and_eq_true, hword, hnumber]
  rw [formsVendor_iff]
  constructor
  . rintro ⟨⟨⟨⟨hvendor, hname⟩, hmodel⟩, hrevision⟩, haddition⟩
    exact ⟨hvendor, hname, hmodel, hrevision, haddition⟩
  . intro h
    exact ⟨⟨⟨⟨h.vendor, h.name⟩, h.model⟩, h.revision⟩, h.addition⟩

end Parts

/-! ### Readers and grammar -/

variable {p : Parts} {s : String}

theorem identifierParts?_eq_some_iff :
    identifierParts? s = some p ↔ p.Written s ∧ p.FormsIdentifier := by
  rw [identifierParts?, Option.filter_eq_some_iff]
  constructor
  . rintro ⟨hsplit, hform⟩
    have hne := Parts.vendor_ne_nil_of_split? hsplit
    exact ⟨Parts.written_of_split? hsplit, (Parts.isIdentifier_iff hne).1 hform⟩
  . rintro ⟨hwritten, hform⟩
    refine ⟨hform.separable.split?_of_written hwritten, ?_⟩
    exact (Parts.isIdentifier_iff hform.vendor_ne_nil).2 hform

theorem ruleParts?_eq_some_iff : ruleParts? s = some p ↔ p.Written s ∧ p.FormsRule := by
  rw [ruleParts?, Option.filter_eq_some_iff]
  constructor
  . rintro ⟨hsplit, hform⟩
    exact ⟨Parts.written_of_split? hsplit, Parts.isRule_iff.1 hform⟩
  . rintro ⟨hwritten, hform⟩
    exact ⟨hform.separable.split?_of_written hwritten, Parts.isRule_iff.2 hform⟩

end EventTracking.Schema
