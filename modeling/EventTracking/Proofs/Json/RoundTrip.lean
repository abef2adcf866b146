import EventTracking.Proofs.Json.Floating

/-!
This module contains the theorem that reading a written document gives the document back, in every style
of writing, with what its floating point numbers are read as; the integers must not be too long.
-/

namespace EventTracking.Json

mutual

def everyScalar (p : Json → Bool) : Json → Bool
  | .arr xs => everyItem p xs
  | .obj ms => everyMember p ms
  | j => p j

def everyItem (p : Json → Bool) : List Json → Bool
  | [] => true
  | x :: xs => everyScalar p x && everyItem p xs

def everyMember (p : Json → Bool) : List (String × Json) → Bool
  | [] => true
  | (_, v) :: ms => everyScalar p v && everyMember p ms

end

def isWritableScalar : Json → Bool
  | .int n => Text.isWritableInteger n
  | _ => true

def isExactScalar : Json → Bool
  | .int n => Text.isWritableInteger n
  | .float _ => false
  | _ => true

def isWritable (j : Json) : Bool := everyScalar isWritableScalar j

def isExact (j : Json) : Bool := everyScalar isExactScalar j

def rereadNumber (x : Binary64) : Binary64 :=
  match readValue? 1 (x.render floatLayout).toList with
  | some (.float y, _) => y
  | _ => x

mutual

def reread : Json → Json
  | .null => .null
  | .bool b => .bool b
  | .int n => .int n
  | .float x => .float (rereadNumber x)
  | .str s => .str s
  | .arr xs => .arr (rereadItems xs)
  | .obj ms => .obj (rereadMembers ms)

def rereadItems : List Json → List Json
  | [] => []
  | x :: xs => reread x :: rereadItems xs

def rereadMembers : List (String × Json) → List (String × Json)
  | [] => []
  | (k, v) :: ms => (k, reread v) :: rereadMembers ms

end

mutual

theorem isWritable_of_isExact (j : Json) (h : j.isExact = true) : j.isWritable = true := by
  cases j with
  | arr xs => exact isWritableItems_of_isExact xs h
  | obj ms => exact isWritableMembers_of_isExact ms h
  | int n => exact h
  | _ => rfl

theorem isWritableItems_of_isExact (xs : List Json) (h : everyItem isExactScalar xs = true) :
    everyItem isWritableScalar xs = true := by
  match xs with
  | [] => rfl
  | x :: xs =>
    obtain ⟨hx, hxs⟩ := Bool.and_eq_true_iff.1 h
    exact Bool.and_eq_true_iff.2 ⟨isWritable_of_isExact x hx, isWritableItems_of_isExact xs hxs⟩

theorem isWritableMembers_of_isExact (ms : List (String × Json)) (h : everyMember isExactScalar ms = true) :
    everyMember isWritableScalar ms = true := by
  match ms with
  | [] => rfl
  | (k, v) :: ms =>
    obtain ⟨hv, hms⟩ := Bool.and_eq_true_iff.1 h
    exact Bool.and_eq_true_iff.2 ⟨isWritable_of_isExact v hv, isWritableMembers_of_isExact ms hms⟩

end

mutual

theorem reread_of_isExact (j : Json) (h : j.isExact = true) : j.reread = j := by
  cases j with
  | float x => simp [isExact, everyScalar, isExactScalar] at h
  | arr xs =>
    simp only [isExact, everyScalar] at h
    rw [reread, rereadItems_of_isExact xs h]
  | obj ms =>
    simp only [isExact, everyScalar] at h
    rw [reread, rereadMembers_of_isExact ms h]
  | _ => simp only [reread]

theorem rereadItems_of_isExact (xs : List Json) (h : everyItem isExactScalar xs = true) :
    rereadItems xs = xs := by
  match xs with
  | [] => rfl
  | x :: xs =>
    rw [everyItem, Bool.and_eq_true] at h
    rw [rereadItems, reread_of_isExact x h.1, rereadItems_of_isExact xs h.2]

theorem rereadMembers_of_isExact (ms : List (String × Json)) (h : everyMember isExactScalar ms = true) :
    rereadMembers ms = ms := by
  match ms with
  | [] => rfl
  | (k, v) :: ms =>
    rw [everyMember, Bool.and_eq_true] at h
    rw [rereadMembers, reread_of_isExact v h.1, rereadMembers_of_isExact ms h.2]

end

/-! ### Blanks between tokens -/

def AreBlanks (cs : List Char) : Prop := ∀ c ∈ cs, isBlank c = true

theorem areBlanks_nil : AreBlanks [] := by simp [AreBlanks]

theorem AreBlanks.cons {c : Char} {cs : List Char} (hc : isBlank c = true) (h : AreBlanks cs) :
    AreBlanks (c :: cs) :=
  List.forall_mem_cons.2 ⟨hc, h⟩

theorem AreBlanks.append {cs ds : List Char} (hcs : AreBlanks cs) (hds : AreBlanks ds) :
    AreBlanks (cs ++ ds) :=
  List.forall_mem_append.2 ⟨hcs, hds⟩

theorem AreBlanks.skipBlanks_append {blanks : List Char} (h : AreBlanks blanks) (cs : List Char) :
    skipBlanks (blanks ++ cs) = skipBlanks cs :=
  List.dropWhile_append_of_pos h

theorem areBlanks_gap (st : Style) (depth : Nat) : AreBlanks (st.gap depth) := by
  unfold Style.gap
  split
  . exact areBlanks_nil
  . refine .cons rfl fun c hc => ?_
    rw [List.eq_of_mem_replicate hc]
    rfl

theorem skipBlanks_gap (st : Style) (depth : Nat) (cs : List Char) :
    skipBlanks (st.gap depth ++ cs) = skipBlanks cs :=
  (areBlanks_gap st depth).skipBlanks_append cs

theorem skipBlanks_cons {c : Char} (h : isBlank c = false) (cs : List Char) :
    skipBlanks (c :: cs) = c :: cs := by
  simp [skipBlanks, h]

def BeginsDocument (cs : List Char) : Prop :=
  ∃ c rest, cs = c :: rest ∧ isBlank c = false ∧ c ≠ ']' ∧ c ≠ '\x7d'

theorem BeginsDocument.append {cs : List Char} (h : BeginsDocument cs) (tail : List Char) :
    BeginsDocument (cs ++ tail) := by
  obtain ⟨c, rest, rfl, hc⟩ := h
  exact ⟨c, rest ++ tail, rfl, hc⟩

theorem BeginsDocument.skipBlanks_eq {cs : List Char} (h : BeginsDocument cs) : skipBlanks cs = cs := by
  obtain ⟨c, rest, rfl, hc⟩ := h
  exact skipBlanks_cons hc.1 rest

/-! ### Integers and words -/

theorem toList_toString_natCast (n : Nat) : (toString (n : Int)).toList = Nat.toDigits 10 n :=
  Nat.toList_repr

theorem toList_toString_negSucc (n : Nat) :
    (toString (Int.negSucc n)).toList = '-' :: Nat.toDigits 10 (n + 1) := by
  rw [Int.toString_eq_repr, Int.repr]
  simp

theorem exists_toDigits_eq_cons (n : Nat) :
    ∃ c cs, Nat.toDigits 10 n = c :: cs ∧ c.isDigit = true := by
  cases h : Nat.toDigits 10 n with
  | nil => exact absurd h Nat.toDigits_ne_nil
  | cons c cs =>
    have hc : c ∈ Nat.toDigits 10 n := by
      rw [h]
      exact List.mem_cons_self
    exact ⟨c, cs, rfl, Nat.isDigit_of_mem_toDigits (by decide) (by decide) hc⟩

theorem ne_of_isDigit {c d : Char} (hc : c.isDigit = true) (hd : d.isDigit = false) : c ≠ d := by
  rintro rfl
  simp [hc] at hd

theorem isBlank_of_isDigit {c : Char} (hc : c.isDigit = true) : isBlank c = false := by
  simp only [isBlank, Bool.or_eq_false_iff, beq_eq_false_iff_ne]
  exact ⟨⟨⟨ne_of_isDigit hc rfl, ne_of_isDigit hc rfl⟩, ne_of_isDigit hc rfl⟩, ne_of_isDigit hc rfl⟩

theorem readValue?_unquoted {c : Char} (hc : c ∉ ['"', '[', '\x7b', '-']) (fuel : Nat) (cs : List Char) :
    readValue? (fuel + 1) (c :: cs) = (readNumber? false (c :: cs) <|> readWord? (c :: cs)) := by
  rw [readValue?]
  all_goals
    intro rest h
    cases h
    simp at hc

theorem readValue?_minus (fuel : Nat) (cs : List Char) :
    readValue? (fuel + 1) ('-' :: cs) = (readNumber? true cs <|> readWord? ('-' :: cs)) := by
  rw [readValue?]

theorem readValue?_digit {c : Char} (hc : c.isDigit = true) (fuel : Nat) (cs : List Char) :
    readValue? (fuel + 1) (c :: cs) = (readNumber? false (c :: cs) <|> readWord? (c :: cs)) := by
  apply readValue?_unquoted
  simp [ne_of_isDigit hc]

theorem readValue?_toString {n : Int} (h : Text.isWritableInteger n = true) (fuel : Nat)
    {tail : List Char} (htail : EndsNumber tail) :
    readValue? (fuel + 1) ((toString n).toList ++ tail) = some (.int n, tail) := by
  simp only [Text.isWritableInteger, decide_eq_true_eq] at h
  cases n with
  | ofNat m =>
    obtain ⟨c, cs, hcs, hc⟩ := exists_toDigits_eq_cons m
    have hnumber := readNumber?_toDigits (n := m) h false htail
    rw [Int.ofNat_eq_natCast, toList_toString_natCast]
    rw [hcs, List.cons_append] at hnumber ⊢
    rw [readValue?_digit hc, hnumber]
    rfl
  | negSucc m =>
    have hnumber := readNumber?_toDigits (n := m + 1) h true htail
    rw [toList_toString_negSucc, List.cons_append, readValue?_minus, hnumber]
    rfl

theorem readNumber?_letter {c : Char} (hc : c.isDigit = false) (negative : Bool) (cs : List Char) :
    readNumber? negative (c :: cs) = none := by
  have hwhole : takeWhole (c :: cs) = ([], c :: cs) := by
    unfold takeWhole
    split
    . next heq =>
      cases heq
      exact absurd hc (by decide)
    . simp [List.span_eq_takeWhile_dropWhile, hc]
  simp [readNumber?, hwhole]

theorem readValue?_letter {c : Char} (hdigit : c.isDigit = false) (hc : c ∉ ['"', '[', '\x7b', '-'])
    (fuel : Nat) (cs : List Char) : readValue? (fuel + 1) (c :: cs) = readWord? (c :: cs) := by
  rw [readValue?_unquoted hc, readNumber?_letter hdigit]
  rfl

theorem readValue?_null (fuel : Nat) (tail : List Char) :
    readValue? (fuel + 1) (['n', 'u', 'l', 'l'] ++ tail) = some (.null, tail) :=
  readValue?_letter rfl (by decide) fuel _

theorem readValue?_true (fuel : Nat) (tail : List Char) :
    readValue? (fuel + 1) (['t', 'r', 'u', 'e'] ++ tail) = some (.bool true, tail) :=
  readValue?_letter rfl (by decide) fuel _

theorem readValue?_false (fuel : Nat) (tail : List Char) :
    readValue? (fuel + 1) (['f', 'a', 'l', 's', 'e'] ++ tail) = some (.bool false, tail) :=
  readValue?_letter rfl (by decide) fuel _

theorem readValue?_nan (fuel : Nat) (tail : List Char) :
    readValue? (fuel + 1) (['N', 'a', 'N'] ++ tail) = some (.float .nan, tail) :=
  readValue?_letter rfl (by decide) fuel _

theorem readValue?_infinity (fuel : Nat) (tail : List Char) :
    readValue? (fuel + 1) (['I', 'n', 'f', 'i', 'n', 'i', 't', 'y'] ++ tail)
      =
    some (.float (.infinity false), tail) :=
  readValue?_letter rfl (by decide) fuel _

theorem readValue?_negativeInfinity (fuel : Nat) (tail : List Char) :
    readValue? (fuel + 1) (['-', 'I', 'n', 'f', 'i', 'n', 'i', 't', 'y'] ++ tail)
      =
    some (.float (.infinity true), tail) :=
  readValue?_minus fuel _

/-! ### Floating point numbers -/

theorem exists_render_eq_cons (x : Binary64) :
    ∃ c cs, (x.render floatLayout).toList = c :: cs ∧ (c.isDigit = true ∨ c = '-' ∨ c = 'N' ∨ c = 'I') := by
  cases x with
  | nan => exact ⟨'N', _, rfl, .inr (.inr (.inl rfl))⟩
  | infinity negative =>
    cases negative with
    | true => exact ⟨'-', _, rfl, .inr (.inl rfl)⟩
    | false => exact ⟨'I', _, rfl, .inr (.inr (.inr rfl))⟩
  | finite negative m e h =>
    rw [Binary64.render, String.toList_append, String.toList_ofList]
    cases negative with
    | true => exact ⟨'-', _, rfl, by simp⟩
    | false =>
      obtain ⟨c, cs, hcs, hc⟩ := (isFloating_unsigned h).exists_digit
      exact ⟨c, cs, hcs, Or.inl hc⟩

theorem exists_readValue?_render (x : Binary64) :
    ∃ y, ∀ fuel tail, EndsNumber tail →
      readValue? (fuel + 1) ((x.render floatLayout).toList ++ tail) = some (.float y, tail) := by
  cases x with
  | nan => exact ⟨.nan, fun fuel tail _ => readValue?_nan fuel tail⟩
  | infinity negative =>
    refine ⟨.infinity negative, fun fuel tail _ => ?_⟩
    cases negative with
    | true => exact readValue?_negativeInfinity fuel tail
    | false => exact readValue?_infinity fuel tail
  | finite negative m e h =>
    obtain ⟨y, hy⟩ := (isFloating_unsigned h).exists_readNumber? negative
    refine ⟨y, fun fuel tail htail => ?_⟩
    rw [Binary64.render, String.toList_append, String.toList_ofList, List.append_assoc]
    cases negative with
    | true =>
      have hminus : (if true = true then "-" else "").toList = ['-'] := rfl
      rw [hminus, List.singleton_append, readValue?_minus, hy tail htail]
      rfl
    | false =>
      have hempty : (if false = true then "-" else "").toList = [] := rfl
      obtain ⟨c, cs, hcs, hc⟩ := (isFloating_unsigned h).exists_digit
      have hread := hy tail htail
      rw [hempty, List.nil_append]
      rw [hcs, List.cons_append] at hread ⊢
      rw [readValue?_digit hc, hread]
      rfl

theorem readValue?_render (x : Binary64) (fuel : Nat) {tail : List Char} (htail : EndsNumber tail) :
    readValue? (fuel + 1) ((x.render floatLayout).toList ++ tail)
      =
    some (.float (rereadNumber x), tail) := by
  obtain ⟨y, hy⟩ := exists_readValue?_render x
  have hone := hy 0 [] (by simp [EndsNumber])
  rw [List.append_nil] at hone
  rw [hy fuel tail htail, rereadNumber, hone]

theorem beginsDocument_chars (st : Style) (depth : Nat) (j : Json) : BeginsDocument (chars st depth j) := by
  cases j with
  | null => exact ⟨_, _, rfl, by decide⟩
  | bool b => cases b <;> exact ⟨_, _, rfl, by decide⟩
  | int n =>
    cases n with
    | ofNat m =>
      obtain ⟨c, cs, hcs, hc⟩ := exists_toDigits_eq_cons m
      refine ⟨c, cs, ?_, isBlank_of_isDigit hc, ne_of_isDigit hc rfl, ne_of_isDigit hc rfl⟩
      rw [chars, Int.ofNat_eq_natCast, toList_toString_natCast, hcs]
    | negSucc m =>
      rw [chars, toList_toString_negSucc]
      exact ⟨_, _, rfl, by decide⟩
  | float x =>
    obtain ⟨c, cs, hcs, hc⟩ := exists_render_eq_cons x
    refine ⟨c, cs, hcs, ?_⟩
    rcases hc with hc | rfl | rfl | rfl
    . exact ⟨isBlank_of_isDigit hc, ne_of_isDigit hc rfl, ne_of_isDigit hc rfl⟩
    . decide
    . decide
    . decide
  | str s => exact ⟨_, _, rfl, by decide⟩
  | arr xs => cases xs <;> exact ⟨_, _, rfl, by decide⟩
  | obj ms =>
    match ms with
    | [] => exact ⟨_, _, rfl, by decide⟩
    | (k, v) :: ms => exact ⟨_, _, rfl, by decide⟩

/-! ### Separators -/

theorem exists_comma_eq (st : Style) : ∃ blanks, AreBlanks blanks ∧ st.comma = ',' :: blanks := by
  unfold Style.comma
  split
  . exact ⟨[' '], .cons rfl areBlanks_nil, rfl⟩
  . exact ⟨[], areBlanks_nil, rfl⟩

theorem exists_colon_eq (st : Style) : ∃ blanks, AreBlanks blanks ∧ st.colon = ':' :: blanks := by
  unfold Style.colon
  split
  . exact ⟨[' '], .cons rfl areBlanks_nil, rfl⟩
  . exact ⟨[], areBlanks_nil, rfl⟩

theorem exists_comma_eq_cons (st : Style) (cs : List Char) :
    ∃ rest, st.comma ++ cs = ',' :: rest ∧ skipBlanks rest = skipBlanks cs := by
  obtain ⟨blanks, hblanks, hcomma⟩ := exists_comma_eq st
  rw [hcomma]
  exact ⟨blanks ++ cs, rfl, hblanks.skipBlanks_append cs⟩

theorem exists_colon_eq_cons (st : Style) (cs : List Char) :
    ∃ rest, st.colon ++ cs = ':' :: rest ∧ skipBlanks rest = skipBlanks cs := by
  obtain ⟨blanks, hblanks, hcolon⟩ := exists_colon_eq st
  rw [hcolon]
  exact ⟨blanks ++ cs, rfl, hblanks.skipBlanks_append cs⟩

theorem endsNumber_comma (st : Style) (cs : List Char) : EndsNumber (st.comma ++ cs) := by
  obtain ⟨rest, heq, _⟩ := exists_comma_eq_cons st cs
  rw [heq]
  exact .cons rfl (by decide) (by decide) (by decide) rest

theorem endsNumber_gap (st : Style) (depth : Nat) {cs : List Char} (h : EndsNumber cs) :
    EndsNumber (st.gap depth ++ cs) := by
  unfold Style.gap
  split
  . exact h
  . exact .cons rfl (by decide) (by decide) (by decide) _

theorem endsNumber_itemChars (st : Style) (depth outer : Nat) (xs : List Json) (tail : List Char) :
    EndsNumber (itemChars st depth xs ++ (st.gap outer ++ ']' :: tail)) := by
  cases xs with
  | nil =>
    apply endsNumber_gap
    exact .cons rfl (by decide) (by decide) (by decide) tail
  | cons x xs =>
    rw [itemChars, List.append_assoc, List.append_assoc, List.append_assoc]
    exact endsNumber_comma st _

theorem endsNumber_memberChars (st : Style) (depth outer : Nat) (ms : List (String × Json))
    (tail : List Char) : EndsNumber (memberChars st depth ms ++ (st.gap outer ++ '\x7d' :: tail)) := by
  cases ms with
  | nil =>
    apply endsNumber_gap
    exact .cons rfl (by decide) (by decide) (by decide) tail
  | cons m ms =>
    rw [memberChars, List.append_assoc, List.append_assoc, List.append_assoc, List.append_assoc,
      List.append_assoc]
    exact endsNumber_comma st _

/-! ### Lists and objects -/

section Reading

variable {fuel : Nat} {cs rest tail : List Char} {x v : Json} {xs : List Json} {k : String}
  {ms : List (String × Json)}

theorem readValue?_list (st : Style) (depth : Nat) (hcs : BeginsDocument cs)
    (hx : readValue? fuel cs = some (x, rest))
    (hxs : readItems? fuel (skipBlanks rest) = some (xs, tail)) :
    readValue? (fuel + 1) ('[' :: (st.gap depth ++ cs)) = some (.arr (x :: xs), tail) := by
  have hskip := hcs.skipBlanks_eq
  obtain ⟨c, more, rfl, _, hclose, _⟩ := hcs
  rw [readValue?, skipBlanks_gap, hskip]
  split
  . next heq =>
    cases heq
    exact absurd rfl hclose
  . simp [hx, hxs]

theorem readItems?_cons (st : Style) (depth : Nat) (hcs : BeginsDocument cs)
    (hx : readValue? fuel cs = some (x, rest))
    (hxs : readItems? fuel (skipBlanks rest) = some (xs, tail)) :
    readItems? (fuel + 1) (skipBlanks (st.comma ++ (st.gap depth ++ cs))) = some (x :: xs, tail) := by
  obtain ⟨more, hcomma, hmore⟩ := exists_comma_eq_cons st (st.gap depth ++ cs)
  rw [hcomma, skipBlanks_cons rfl, readItems?, hmore, skipBlanks_gap, hcs.skipBlanks_eq, hx]
  simp [hxs]

theorem readValue?_stringChars (asciiOnly : Bool) (s : String) (fuel : Nat) (tail : List Char) :
    readValue? (fuel + 1) (stringChars asciiOnly s ++ tail) = some (.str s, tail) := by
  rw [stringChars, List.cons_append, List.cons_append, List.append_assoc, List.singleton_append,
    readValue?, readString?_stringChars]
  rfl

theorem beginsDocument_stringChars (asciiOnly : Bool) (s : String) :
    BeginsDocument (stringChars asciiOnly s) :=
  ⟨'"', _, rfl, by decide⟩

theorem readMember?_stringChars (st : Style) (hcs : BeginsDocument cs)
    (hv : readValue? fuel cs = some (v, rest)) :
    readMember? (fuel + 1) (stringChars st.asciiOnly k ++ (st.colon ++ cs)) = some ((k, v), rest) := by
  obtain ⟨more, hcolon, hmore⟩ := exists_colon_eq_cons st cs
  rw [stringChars, List.cons_append, List.cons_append, List.append_assoc, List.singleton_append,
    readMember?, readString?_stringChars, hcolon]
  simp [skipBlanks_cons (c := ':') rfl, hmore, hcs.skipBlanks_eq, hv]

theorem readValue?_object (st : Style) (depth : Nat) (hcs : BeginsDocument cs)
    (hv : readValue? fuel cs = some (v, rest))
    (hms : readMembers? (fuel + 1) (skipBlanks rest) = some (ms, tail)) :
    readValue? (fuel + 2)
        ('\x7b' :: (st.gap depth ++ (stringChars st.asciiOnly k ++ (st.colon ++ cs))))
      =
    some (.obj ((k, v) :: ms), tail) := by
  have hopen := (beginsDocument_stringChars st.asciiOnly k).append (st.colon ++ cs)
  have hm := readMember?_stringChars (k := k) st hcs hv
  rw [readValue?, skipBlanks_gap, hopen.skipBlanks_eq]
  obtain ⟨c, more, heq, _, _, hclose⟩ := hopen
  rw [heq] at hm ⊢
  split
  . next heq =>
    cases heq
    exact absurd rfl hclose
  . simp [hm, hms]

theorem readMembers?_cons (st : Style) (depth : Nat) (hcs : BeginsDocument cs)
    (hv : readValue? fuel cs = some (v, rest))
    (hms : readMembers? (fuel + 1) (skipBlanks rest) = some (ms, tail)) :
    readMembers? (fuel + 2)
        (skipBlanks (st.comma
          ++ (st.gap depth ++ (stringChars st.asciiOnly k ++ (st.colon ++ cs)))))
      =
    some ((k, v) :: ms, tail) := by
  have hopen := (beginsDocument_stringChars st.asciiOnly k).append (st.colon ++ cs)
  have hm := readMember?_stringChars (k := k) st hcs hv
  obtain ⟨more, hcomma, hmore⟩ := exists_comma_eq_cons st
    (st.gap depth ++ (stringChars st.asciiOnly k ++ (st.colon ++ cs)))
  rw [hcomma, skipBlanks_cons rfl, readMembers?, hmore, skipBlanks_gap, hopen.skipBlanks_eq, hm]
  simp [hms]

end Reading

/-! ### Documents -/

theorem length_comma_pos (st : Style) : 1 ≤ st.comma.length := by
  unfold Style.comma
  split <;> simp

theorem length_chars_pos (st : Style) (depth : Nat) (j : Json) : 1 ≤ (chars st depth j).length := by
  obtain ⟨c, cs, hcs, _⟩ := beginsDocument_chars st depth j
  simp [hcs]

mutual

theorem readValue?_chars (st : Style) (j : Json) (h : j.isWritable = true) (depth fuel : Nat)
    (tail : List Char) (htail : EndsNumber tail) (hfuel : 2 * (chars st depth j).length ≤ fuel) :
    readValue? fuel (chars st depth j ++ tail) = some (j.reread, tail) := by
  have hlen := length_chars_pos st depth j
  obtain ⟨fuel, rfl⟩ := Nat.exists_eq_add_one.2 (by omega : 0 < fuel)
  cases j with
  | null => exact readValue?_null fuel tail
  | bool b =>
    cases b with
    | true => exact readValue?_true fuel tail
    | false => exact readValue?_false fuel tail
  | int n =>
    simp only [isWritable, everyScalar, isWritableScalar] at h
    rw [chars, reread]
    exact readValue?_toString h fuel htail
  | float x =>
    rw [chars, reread]
    exact readValue?_render x fuel htail
  | str s =>
    rw [chars, reread]
    exact readValue?_stringChars st.asciiOnly s fuel tail
  | arr xs =>
    match xs with
    | [] => rfl
    | x :: xs =>
      -- The opening bracket pays for this step and for the one that ends the items.
      simp only [isWritable, everyScalar, everyItem, Bool.and_eq_true] at h
      simp only [chars, List.length_cons, List.length_append] at hfuel
      have hopen := beginsDocument_chars st (depth + 1) x
      have hend := endsNumber_itemChars st (depth + 1) depth xs tail
      have hx := readValue?_chars st x h.1 (depth + 1) fuel _ hend (by omega)
      have hxs := readItems?_itemChars st xs h.2 (depth + 1) depth fuel tail (by omega)
      have hread := readValue?_list st (depth + 1) (hopen.append _) hx hxs
      simpa [chars, reread, rereadItems] using hread
  | obj ms =>
    match ms with
    | [] => rfl
    | (k, v) :: ms =>
      simp only [isWritable, everyScalar, everyMember, Bool.and_eq_true] at h
      simp only [chars, List.length_cons, List.length_append] at hfuel
      -- A member is a step of its own before the step into its value.
      obtain ⟨fuel, rfl⟩ := Nat.exists_eq_add_one.2 (by omega : 0 < fuel)
      have hopen := beginsDocument_chars st (depth + 1) v
      have hend := endsNumber_memberChars st (depth + 1) depth ms tail
      have hv := readValue?_chars st v h.1 (depth + 1) fuel _ hend (by omega)
      have hms := readMembers?_memberChars st ms h.2 (depth + 1) depth (fuel + 1) tail (by omega)
      have hread := readValue?_object (k := k) st (depth + 1) (hopen.append _) hv hms
      simpa [chars, reread, rereadMembers] using hread

theorem readItems?_itemChars (st : Style) (xs : List Json) (h : everyItem isWritableScalar xs = true)
    (depth outer fuel : Nat) (tail : List Char)
    (hfuel : 2 * (itemChars st depth xs).length + 1 ≤ fuel) :
    readItems? fuel (skipBlanks (itemChars st depth xs ++ (st.gap outer ++ ']' :: tail)))
      =
    some (rereadItems xs, tail) := by
  obtain ⟨fuel, rfl⟩ := Nat.exists_eq_add_one.2 (by omega : 0 < fuel)
  match xs with
  | [] => rw [itemChars, List.nil_append, skipBlanks_gap, skipBlanks_cons rfl, readItems?, rereadItems]
  | x :: xs =>
    simp only [everyItem, Bool.and_eq_true] at h
    simp only [itemChars, List.length_append] at hfuel
    have hcomma := length_comma_pos st
    have hopen := beginsDocument_chars st depth x
    have hend := endsNumber_itemChars st depth outer xs tail
    have hx := readValue?_chars st x h.1 depth fuel _ hend (by omega)
    have hxs := readItems?_itemChars st xs h.2 depth outer fuel tail (by omega)
    simpa [itemChars, rereadItems] using readItems?_cons st depth (hopen.append _) hx hxs

theorem readMembers?_memberChars (st : Style) (ms : List (String × Json))
    (h : everyMember isWritableScalar ms = true) (depth outer fuel : Nat) (tail : List Char)
    (hfuel : 2 * (memberChars st depth ms).length + 1 ≤ fuel) :
    readMembers? fuel (skipBlanks (memberChars st depth ms ++ (st.gap outer ++ '\x7d' :: tail)))
      =
    some (rereadMembers ms, tail) := by
  obtain ⟨fuel, rfl⟩ := Nat.exists_eq_add_one.2 (by omega : 0 < fuel)
  match ms with
  | [] => rw [memberChars, List.nil_append, skipBlanks_gap, skipBlanks_cons rfl, readMembers?, rereadMembers]
  | (k, v) :: ms =>
    simp only [everyMember, Bool.and_eq_true] at h
    simp only [memberChars, List.length_append] at hfuel
    have hcomma := length_comma_pos st
    have hlen := length_chars_pos st depth v
    obtain ⟨fuel, rfl⟩ := Nat.exists_eq_add_one.2 (by omega : 0 < fuel)
    have hopen := beginsDocument_chars st depth v
    have hend := endsNumber_memberChars st depth outer ms tail
    have hv := readValue?_chars st v h.1 depth fuel _ hend (by omega)
    have hms := readMembers?_memberChars st ms h.2 depth outer (fuel + 1) tail (by omega)
    simpa [memberChars, rereadMembers] using readMembers?_cons (k := k) st depth (hopen.append _) hv hms

end

theorem parse?_render_of_isWritable (st : Style) {j : Json} (h : j.isWritable = true) :
    parse? (j.render st) = some j.reread := by
  have hopen := beginsDocument_chars st 0 j
  have hread := readValue?_chars st j h 0 (2 * (chars st 0 j).length + 2) [] (by simp [EndsNumber])
    (by omega)
  rw [List.append_nil] at hread
  simp only [parse?, render, String.toList_ofList, hopen.skipBlanks_eq, hread]
  rfl

theorem parse?_render (st : Style) {j : Json} (h : j.isExact = true) : parse? (j.render st) = some j := by
  rw [parse?_render_of_isWritable st (isWritable_of_isExact j h), reread_of_isExact j h]

end EventTracking.Json
