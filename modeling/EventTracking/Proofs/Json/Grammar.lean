import EventTracking.Proofs.Json.RoundTrip

/-!
This module contains the grammar of JSON texts and the theorem that the text of a document belongs to it
exactly if all floating point numbers of the document are finite, in every style of writing.
-/

namespace EventTracking.Json

/-! ### The grammar -/

inductive FormsExponent : List Char → Prop where
  | none : FormsExponent []
  | some {mark : Char} {sign ds : List Char} (hmark : mark = 'e' ∨ mark = 'E')
      (hsign : sign = [] ∨ sign = ['-'] ∨ sign = ['+']) (hds : AreDigits ds) (hne : ds ≠ []) :
      FormsExponent (mark :: (sign ++ ds))

inductive FormsNumber : List Char → Prop where
  | intro {sign whole frac exponent : List Char} (hsign : sign = [] ∨ sign = ['-'])
      (hwhole : IsWhole whole) (hfrac : AreDigits frac) (hexponent : FormsExponent exponent) :
      FormsNumber (sign ++ (whole ++ (fractionChars frac ++ exponent)))

def isHexDigit (c : Char) : Bool := c.isDigit || 'a' ≤ c && c ≤ 'f' || 'A' ≤ c && c ≤ 'F'

inductive FormsCharacter : List Char → Prop where
  | plain {c : Char} (hcontrol : 0x20 ≤ c.toNat) (hquote : c ≠ '"') (hslash : c ≠ '\\') :
      FormsCharacter [c]
  | named {e : Char} (he : e ∈ ['"', '\\', '/', 'b', 'f', 'n', 'r', 't']) : FormsCharacter ['\\', e]
  | unit {a b c d : Char} (h : ∀ x ∈ [a, b, c, d], isHexDigit x = true) :
      FormsCharacter ['\\', 'u', a, b, c, d]

inductive FormsCharacters : List Char → Prop where
  | nil : FormsCharacters []
  | cons {cs rest : List Char} (h : FormsCharacter cs) (hrest : FormsCharacters rest) :
      FormsCharacters (cs ++ rest)

inductive FormsString : List Char → Prop where
  | intro {cs : List Char} (h : FormsCharacters cs) : FormsString ('"' :: cs ++ ['"'])

mutual

inductive FormsValue : List Char → Prop where
  | null : FormsValue ['n', 'u', 'l', 'l']
  | true : FormsValue ['t', 'r', 'u', 'e']
  | false : FormsValue ['f', 'a', 'l', 's', 'e']
  | number {cs : List Char} (h : FormsNumber cs) : FormsValue cs
  | string {cs : List Char} (h : FormsString cs) : FormsValue cs
  | emptyArray {blanks : List Char} (h : AreBlanks blanks) : FormsValue ('[' :: (blanks ++ [']']))
  | array {cs : List Char} (h : FormsItems cs) : FormsValue ('[' :: (cs ++ [']']))
  | emptyObject {blanks : List Char} (h : AreBlanks blanks) : FormsValue ('\x7b' :: (blanks ++ ['\x7d']))
  | object {cs : List Char} (h : FormsMembers cs) : FormsValue ('\x7b' :: (cs ++ ['\x7d']))

inductive FormsText : List Char → Prop where
  | intro {before cs after : List Char} (hbefore : AreBlanks before) (h : FormsValue cs)
      (hafter : AreBlanks after) : FormsText (before ++ (cs ++ after))

inductive FormsItems : List Char → Prop where
  | one {cs : List Char} (h : FormsText cs) : FormsItems cs
  | more {cs rest : List Char} (h : FormsText cs) (hrest : FormsItems rest) : FormsItems (cs ++ ',' :: rest)

inductive FormsMember : List Char → Prop where
  | intro {before key after cs : List Char} (hbefore : AreBlanks before) (hkey : FormsString key)
      (hafter : AreBlanks after) (h : FormsText cs) : FormsMember (before ++ (key ++ (after ++ ':' :: cs)))

inductive FormsMembers : List Char → Prop where
  | one {cs : List Char} (h : FormsMember cs) : FormsMembers cs
  | more {cs rest : List Char} (h : FormsMember cs) (hrest : FormsMembers rest) :
      FormsMembers (cs ++ ',' :: rest)

end

def isFiniteScalar : Json → Bool
  | .float .nan => false
  | .float (.infinity _) => false
  | _ => true

def isFinite (j : Json) : Bool := everyScalar isFiniteScalar j

/-! ### Written numbers -/

theorem isWhole_toDigits (n : Nat) : IsWhole (Nat.toDigits 10 n) := by
  cases Nat.eq_zero_or_pos n with
  | inl hzero =>
    rw [hzero]
    exact Or.inl (Nat.toDigits_zero 10)
  | inr hpos =>
    have hdigits : AreDigits (Nat.toDigits 10 n) :=
      fun c hc => Nat.isDigit_of_mem_toDigits (by decide) (by decide) hc
    obtain ⟨c, cs, hcs, _⟩ := exists_toDigits_eq_cons n
    refine Or.inr ⟨hdigits, c, cs, hcs, ?_⟩
    rintro rfl
    exact head?_toDigits hpos (by rw [hcs]; rfl)

theorem formsNumber_toString (n : Int) : FormsNumber (toString n).toList := by
  have hdigits : ∀ sign, (sign = [] ∨ sign = ['-']) → ∀ m, FormsNumber (sign ++ Nat.toDigits 10 m) := by
    intro sign hsign m
    have hall := FormsNumber.intro hsign (isWhole_toDigits m) (areDigits_zeros 0) .none
    rwa [List.replicate_zero, fractionChars, List.isEmpty_nil, if_pos rfl, List.append_nil,
      List.append_nil] at hall
  cases n with
  | ofNat m =>
    rw [Int.ofNat_eq_natCast, toList_toString_natCast]
    exact hdigits [] (Or.inl rfl) m
  | negSucc m =>
    rw [toList_toString_negSucc]
    exact hdigits ['-'] (Or.inr rfl) (m + 1)

theorem IsExponent.forms {cs : List Char} (h : IsExponent cs) : FormsExponent cs := by
  cases h with
  | none => exact .none
  | @signed sign ds hsign hds hne =>
    have hone : [sign] = ['-'] ∨ [sign] = ['+'] := by
      rcases hsign with rfl | rfl
      . exact Or.inl rfl
      . exact Or.inr rfl
    exact .some (Or.inl rfl) (Or.inr hone) hds hne

theorem IsFloating.forms {cs : List Char} (h : IsFloating cs) {sign : List Char}
    (hsign : sign = [] ∨ sign = ['-']) : FormsNumber (sign ++ cs) := by
  cases h with
  | intro hwhole hfrac hexponent _ => exact .intro hsign hwhole hfrac hexponent.forms

theorem formsNumber_render {x : Binary64} (h : isFiniteScalar (.float x) = true) :
    FormsNumber (x.render floatLayout).toList := by
  cases x with
  | nan => cases h
  | infinity negative => cases h
  | finite negative m e hcanonical =>
    rw [Binary64.render, String.toList_append, String.toList_ofList]
    apply (isFloating_unsigned hcanonical).forms
    cases negative with
    | true => exact Or.inr rfl
    | false => exact Or.inl rfl

/-! ### Written strings -/

theorem isHexDigit_hexDigit (n : Nat) : isHexDigit (Text.hexDigit (n % 16)) = true := by
  have hall : ∀ m < 16, isHexDigit (Text.hexDigit m) = true := by decide
  exact hall _ (Nat.mod_lt n (by decide))

theorem formsCharacter_unitEscape (n : Nat) : FormsCharacter (unitEscape n) := by
  refine .unit ?_
  simp [isHexDigit_hexDigit]

theorem FormsCharacter.characters {cs : List Char} (h : FormsCharacter cs) : FormsCharacters cs := by
  rw [← List.append_nil cs]
  exact .cons h .nil

theorem FormsCharacters.append {cs ds : List Char} (hcs : FormsCharacters cs) (hds : FormsCharacters ds) :
    FormsCharacters (cs ++ ds) := by
  induction hcs with
  | nil => exact hds
  | cons h _ ih =>
    rw [List.append_assoc]
    exact .cons h ih

theorem formsCharacters_charEscape (c : Char) : FormsCharacters (charEscape c) := by
  unfold charEscape
  dsimp only
  split
  . exact (formsCharacter_unitEscape _).characters
  . exact .cons (formsCharacter_unitEscape _) (formsCharacter_unitEscape _).characters

theorem formsCharacters_stringChar (asciiOnly : Bool) (c : Char) :
    FormsCharacters (stringChar asciiOnly c) := by
  have hnamed : ∀ e, e ∈ ['"', '\\', '/', 'b', 'f', 'n', 'r', 't'] → FormsCharacters ['\\', e] :=
    fun e he => (FormsCharacter.named he).characters
  unfold stringChar
  simp only [beq_iff_eq, Bool.or_eq_true, Bool.and_eq_true, decide_eq_true_eq]
  split
  . exact hnamed '"' (by simp)
  next hquote =>
  split
  . exact hnamed '\\' (by simp)
  next hslash =>
  -- What comes before the last choice are escapes with a letter.
  repeat (split; . exact hnamed _ (by simp))
  split
  . exact formsCharacters_charEscape c
  . next h => exact (FormsCharacter.plain (Nat.not_lt.1 fun hlow => h (Or.inl hlow)) hquote hslash).characters

theorem formsString_stringChars (asciiOnly : Bool) (s : String) : FormsString (stringChars asciiOnly s) := by
  have hall : ∀ cs : List Char, FormsCharacters (cs.flatMap (stringChar asciiOnly)) := by
    intro cs
    induction cs with
    | nil => exact .nil
    | cons c cs ih =>
      rw [List.flatMap_cons]
      exact (formsCharacters_stringChar asciiOnly c).append ih
  exact .intro (hall s.toList)

/-! ### Written documents -/

mutual

theorem formsValue_chars (st : Style) (depth : Nat) (j : Json) (h : j.isFinite = true) :
    FormsValue (chars st depth j) := by
  cases j with
  | null => exact .null
  | bool b =>
    cases b with
    | true => exact .true
    | false => exact .false
  | int n => exact .number (formsNumber_toString n)
  | float x => exact .number (formsNumber_render h)
  | str s => exact .string (formsString_stringChars st.asciiOnly s)
  | arr xs =>
    match xs with
    | [] => exact .emptyArray areBlanks_nil
    | x :: xs =>
      simp only [isFinite, everyScalar, everyItem, Bool.and_eq_true] at h
      have hx := formsValue_chars st (depth + 1) x h.1
      have hitems := formsItems_itemChars st (depth + 1) xs h.2 (areBlanks_gap st (depth + 1)) hx
        (areBlanks_gap st depth)
      simpa [chars] using FormsValue.array hitems
  | obj ms =>
    match ms with
    | [] => exact .emptyObject areBlanks_nil
    | (k, v) :: ms =>
      simp only [isFinite, everyScalar, everyMember, Bool.and_eq_true] at h
      have hv := formsValue_chars st (depth + 1) v h.1
      have hmembers := formsMembers_memberChars st (depth + 1) ms h.2 (areBlanks_gap st (depth + 1)) k hv
        (areBlanks_gap st depth)
      simpa [chars] using FormsValue.object hmembers

theorem formsItems_itemChars (st : Style) (depth : Nat) (xs : List Json)
    (h : everyItem isFiniteScalar xs = true) {before cs after : List Char} (hbefore : AreBlanks before)
    (hcs : FormsValue cs) (hafter : AreBlanks after) :
    FormsItems (before ++ (cs ++ (itemChars st depth xs ++ after))) := by
  match xs with
  | [] => exact .one (.intro hbefore hcs hafter)
  | x :: xs =>
    rw [everyItem, Bool.and_eq_true] at h
    obtain ⟨blanks, hblanks, hcomma⟩ := exists_comma_eq st
    have hx := formsValue_chars st depth x h.1
    have hrest := formsItems_itemChars st depth xs h.2 (hblanks.append (areBlanks_gap st depth)) hx hafter
    have hmore := FormsItems.more (.intro hbefore hcs areBlanks_nil) hrest
    simpa [itemChars, hcomma] using hmore

theorem formsMembers_memberChars (st : Style) (depth : Nat) (ms : List (String × Json))
    (h : everyMember isFiniteScalar ms = true) {before cs after : List Char} (hbefore : AreBlanks before)
    (k : String) (hcs : FormsValue cs) (hafter : AreBlanks after) :
    FormsMembers (before
      ++ (stringChars st.asciiOnly k ++ (st.colon ++ (cs ++ (memberChars st depth ms ++ after))))) := by
  have hkey := formsString_stringChars st.asciiOnly k
  obtain ⟨spaces, hspaces, hcolon⟩ := exists_colon_eq st
  match ms with
  | [] =>
    have hone := FormsMembers.one (.intro hbefore hkey areBlanks_nil (.intro hspaces hcs hafter))
    simpa [memberChars, hcolon] using hone
  | (l, v) :: ms =>
    rw [everyMember, Bool.and_eq_true] at h
    obtain ⟨blanks, hblanks, hcomma⟩ := exists_comma_eq st
    have hv := formsValue_chars st depth v h.1
    have hrest := formsMembers_memberChars st depth ms h.2 (hblanks.append (areBlanks_gap st depth)) l hv hafter
    have hmore := FormsMembers.more
      (.intro hbefore hkey areBlanks_nil (.intro hspaces hcs areBlanks_nil)) hrest
    simpa [memberChars, hcolon, hcomma] using hmore

end

/-! ### Names of numbers outside strings -/

inductive Place where
  | outside
  | inString
  | escaped

def Place.next : Place → Char → Place
  | .outside, c => if c = '"' then .inString else .outside
  | .inString, c => if c = '"' then .outside else if c = '\\' then .escaped else .inString
  | .escaped, _ => .inString

def isNameLetter (c : Char) : Bool := c == 'N' || c == 'I'

def hasName : Place → List Char → Bool
  | _, [] => false
  | .outside, c :: cs => isNameLetter c || hasName (Place.outside.next c) cs
  | p, c :: cs => hasName (p.next c) cs

def Names (cs : List Char) (b : Bool) : Prop :=
  ∀ rest, hasName .outside (cs ++ rest) = (b || hasName .outside rest)

theorem Names.append {cs ds : List Char} {a b : Bool} (hcs : Names cs a) (hds : Names ds b) :
    Names (cs ++ ds) (a || b) := by
  intro rest
  rw [List.append_assoc, hcs, hds, Bool.or_assoc]

theorem Names.cons {c : Char} {cs : List Char} {b : Bool} (hc : c ≠ '"' ∧ isNameLetter c = false)
    (h : Names cs b) : Names (c :: cs) b := by
  intro rest
  rw [List.cons_append, hasName, hc.2, Place.next, if_neg hc.1]
  exact h rest

theorem Names.eq {cs : List Char} {a b : Bool} (ha : Names cs a) (hb : Names cs b) : a = b := by
  have heq := (ha []).symm.trans (hb [])
  simpa [hasName] using heq

theorem names_nil : Names [] false := fun _ => rfl

theorem names_of_forall {cs : List Char} (h : ∀ c ∈ cs, c ≠ '"' ∧ isNameLetter c = false) :
    Names cs false := by
  induction cs with
  | nil => exact names_nil
  | cons c cs ih =>
    obtain ⟨hc, hcs⟩ := List.forall_mem_cons.1 h
    exact .cons hc (ih hcs)

theorem AreBlanks.names {cs : List Char} (h : AreBlanks cs) : Names cs false := by
  refine names_of_forall fun c hc => ?_
  have hblank := h c hc
  simp only [isBlank, Bool.or_eq_true, beq_iff_eq] at hblank
  rcases hblank with ((rfl | rfl) | rfl) | rfl <;> decide

/-! #### Numbers and strings of the grammar -/

theorem AreDigits.names {cs : List Char} (h : AreDigits cs) : Names cs false := by
  refine names_of_forall fun c hc => ?_
  have hne : ∀ {d : Char}, d.isDigit = false → c ≠ d := ne_of_isDigit (h c hc)
  refine ⟨hne rfl, ?_⟩
  simp [isNameLetter, hne (d := 'N') rfl, hne (d := 'I') rfl]

theorem IsWhole.areDigits {cs : List Char} (h : IsWhole cs) : AreDigits cs := by
  rcases h with rfl | ⟨hdigits, _⟩
  . exact areDigits_zeros 1
  . exact hdigits

theorem names_sign {sign : List Char} (h : sign = [] ∨ sign = ['-'] ∨ sign = ['+']) : Names sign false := by
  rcases h with rfl | rfl | rfl
  . exact names_nil
  . exact names_nil.cons (by decide)
  . exact names_nil.cons (by decide)

theorem names_fractionChars {frac : List Char} (h : AreDigits frac) : Names (fractionChars frac) false := by
  unfold fractionChars
  split
  . exact names_nil
  . exact h.names.cons (by decide)

theorem FormsExponent.names {cs : List Char} (h : FormsExponent cs) : Names cs false := by
  cases h with
  | none => exact names_nil
  | some hmark hsign hds =>
    refine ((names_sign hsign).append hds.names).cons ?_
    rcases hmark with rfl | rfl <;> decide

theorem FormsNumber.names {cs : List Char} (h : FormsNumber cs) : Names cs false := by
  cases h with
  | intro hsign hwhole hfrac hexponent =>
    have hsigned := names_sign (hsign.imp_right Or.inl)
    exact hsigned.append (hwhole.areDigits.names.append ((names_fractionChars hfrac).append hexponent.names))

theorem hasName_plain {c : Char} (hquote : c ≠ '"') (hslash : c ≠ '\\') (cs : List Char) :
    hasName .inString (c :: cs) = hasName .inString cs := by
  have hnext : Place.inString.next c = .inString := by rw [Place.next, if_neg hquote, if_neg hslash]
  rw [hasName, hnext]
  exact Place.noConfusion

theorem hasName_hexDigit {c : Char} (h : isHexDigit c = true) (cs : List Char) :
    hasName .inString (c :: cs) = hasName .inString cs := by
  apply hasName_plain
  . rintro rfl
    exact absurd h (by decide)
  . rintro rfl
    exact absurd h (by decide)

theorem FormsCharacter.hasName_append {cs : List Char} (h : FormsCharacter cs) (rest : List Char) :
    hasName .inString (cs ++ rest) = hasName .inString rest := by
  cases h with
  | plain _ hquote hslash => exact hasName_plain hquote hslash rest
  | named => rfl
  | @unit a b c d hdigits =>
    have hskip : ∀ x ∈ [a, b, c, d], ∀ cs, hasName .inString (x :: cs) = hasName .inString cs :=
      fun x hx => hasName_hexDigit (hdigits x hx)
    calc hasName .inString (['\\', 'u', a, b, c, d] ++ rest)
      _ = hasName .inString (a :: b :: c :: d :: rest) := rfl
      _ = hasName .inString rest := by
        rw [hskip a (by simp), hskip b (by simp), hskip c (by simp), hskip d (by simp)]

theorem FormsCharacters.hasName_append {cs : List Char} (h : FormsCharacters cs) (rest : List Char) :
    hasName .inString (cs ++ rest) = hasName .inString rest := by
  induction h with
  | nil => rfl
  | cons h _ ih => rw [List.append_assoc, h.hasName_append, ih]

theorem FormsString.names {cs : List Char} (h : FormsString cs) : Names cs false := by
  intro rest
  cases h with
  | @intro cs hcs =>
    calc hasName .outside ('"' :: cs ++ ['"'] ++ rest)
      _ = hasName .inString (cs ++ '"' :: rest) := by
        rw [List.append_assoc]
        rfl
      _ = hasName .outside rest := hcs.hasName_append _

/-! #### Texts of the grammar -/

mutual

theorem FormsValue.names {cs : List Char} (h : FormsValue cs) : Names cs false := by
  match h with
  | .null => exact names_of_forall (by simp [isNameLetter])
  | .true => exact names_of_forall (by simp [isNameLetter])
  | .false => exact names_of_forall (by simp [isNameLetter])
  | .number h => exact h.names
  | .string h => exact h.names
  | .emptyArray h => exact (h.names.append (names_nil.cons (by decide))).cons (by decide)
  | .array h => exact (h.names.append (names_nil.cons (by decide))).cons (by decide)
  | .emptyObject h => exact (h.names.append (names_nil.cons (by decide))).cons (by decide)
  | .object h => exact (h.names.append (names_nil.cons (by decide))).cons (by decide)

theorem FormsText.names {cs : List Char} (h : FormsText cs) : Names cs false := by
  match h with
  | .intro hbefore h hafter => exact hbefore.names.append (h.names.append hafter.names)

theorem FormsItems.names {cs : List Char} (h : FormsItems cs) : Names cs false := by
  match h with
  | .one h => exact h.names
  | .more h hrest => exact h.names.append (hrest.names.cons (by decide))

theorem FormsMember.names {cs : List Char} (h : FormsMember cs) : Names cs false := by
  match h with
  | .intro hbefore hkey hafter h =>
    exact hbefore.names.append (hkey.names.append (hafter.names.append (h.names.cons (by decide))))

theorem FormsMembers.names {cs : List Char} (h : FormsMembers cs) : Names cs false := by
  match h with
  | .one h => exact h.names
  | .more h hrest => exact h.names.append (hrest.names.cons (by decide))

end

/-! #### Texts of documents -/

theorem names_gap (st : Style) (depth : Nat) : Names (st.gap depth) false := (areBlanks_gap st depth).names

theorem names_comma (st : Style) : Names st.comma false := by
  obtain ⟨blanks, hblanks, heq⟩ := exists_comma_eq st
  rw [heq]
  exact hblanks.names.cons (by decide)

theorem names_colon (st : Style) : Names st.colon false := by
  obtain ⟨blanks, hblanks, heq⟩ := exists_colon_eq st
  rw [heq]
  exact hblanks.names.cons (by decide)

theorem names_stringChars (asciiOnly : Bool) (s : String) : Names (stringChars asciiOnly s) false :=
  (formsString_stringChars asciiOnly s).names

theorem names_render (x : Binary64) :
    Names (x.render floatLayout).toList (!isFiniteScalar (.float x)) := by
  cases x with
  | nan => exact fun _ => rfl
  | infinity negative => cases negative <;> exact fun _ => rfl
  | finite => exact (formsNumber_render rfl).names

mutual

theorem names_chars (st : Style) (depth : Nat) (j : Json) : Names (chars st depth j) (!j.isFinite) := by
  cases j with
  | null => exact FormsValue.null.names
  | bool b =>
    cases b with
    | true => exact FormsValue.true.names
    | false => exact FormsValue.false.names
  | int n => exact (formsNumber_toString n).names
  | float x => exact names_render x
  | str s => exact names_stringChars st.asciiOnly s
  | arr xs =>
    match xs with
    | [] => exact (FormsValue.emptyArray areBlanks_nil).names
    | x :: xs =>
      have hclose : Names [']'] false := names_nil.cons (by decide)
      have hend := (names_gap st depth).append hclose
      have hitems := (names_chars st (depth + 1) x).append
        ((names_itemChars st (depth + 1) xs).append hend)
      have hall := ((names_gap st (depth + 1)).append hitems).cons (c := '[') (by decide)
      simpa [chars, isFinite, everyScalar, everyItem] using hall
  | obj ms =>
    match ms with
    | [] => exact (FormsValue.emptyObject areBlanks_nil).names
    | (k, v) :: ms =>
      have hclose : Names ['\x7d'] false := names_nil.cons (by decide)
      have hend := (names_gap st depth).append hclose
      have hmembers := (names_chars st (depth + 1) v).append
        ((names_memberChars st (depth + 1) ms).append hend)
      have hkey := (names_stringChars st.asciiOnly k).append ((names_colon st).append hmembers)
      have hall := ((names_gap st (depth + 1)).append hkey).cons (c := '\x7b') (by decide)
      simpa [chars, isFinite, everyScalar, everyMember] using hall

theorem names_itemChars (st : Style) (depth : Nat) (xs : List Json) :
    Names (itemChars st depth xs) (!everyItem isFiniteScalar xs) := by
  match xs with
  | [] => exact names_nil
  | x :: xs =>
    have hitems := (names_chars st depth x).append (names_itemChars st depth xs)
    have hall := (names_comma st).append ((names_gap st depth).append hitems)
    simpa [itemChars, isFinite, everyItem] using hall

theorem names_memberChars (st : Style) (depth : Nat) (ms : List (String × Json)) :
    Names (memberChars st depth ms) (!everyMember isFiniteScalar ms) := by
  match ms with
  | [] => exact names_nil
  | (k, v) :: ms =>
    have hmembers := (names_chars st depth v).append (names_memberChars st depth ms)
    have hkey := (names_stringChars st.asciiOnly k).append ((names_colon st).append hmembers)
    have hall := (names_comma st).append ((names_gap st depth).append hkey)
    simpa [memberChars, isFinite, everyMember] using hall

end

theorem formsText_render_iff (st : Style) (j : Json) :
    FormsText (j.render st).toList ↔ j.isFinite = true := by
  rw [render, String.toList_ofList]
  constructor
  . intro h
    have hnames : (!j.isFinite) = false := (names_chars st 0 j).eq h.names
    simpa using hnames
  . intro h
    have htext := FormsText.intro areBlanks_nil (formsValue_chars st 0 j h) areBlanks_nil
    rwa [List.append_nil] at htext

end EventTracking.Json
