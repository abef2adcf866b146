import EventTracking.Proofs.Json.RoundTrip

/-!
This module contains the theorems on the characters of a written document: in every style they are no
control characters but line feeds, and in a style for one line of ASCII they are printable characters of
ASCII.
-/

namespace EventTracking

/-! ### Classes of characters -/

namespace Text

def isShown (c : Char) : Bool := c == '\n' || 0x20 ≤ c.toNat

def isVisibleAscii (c : Char) : Bool := 0x20 ≤ c.toNat && c.toNat < 0x7F

theorem isShown_of_isVisibleAscii {c : Char} (h : isVisibleAscii c = true) : isShown c = true := by
  simp only [isVisibleAscii, Bool.and_eq_true, decide_eq_true_eq] at h
  simp [isShown, h.1]

theorem all_of_sublist {p : Char → Bool} {cs ds : List Char} (h : cs.all p = true) (hds : ds.Sublist cs) :
    ds.all p = true := by
  rw [List.all_eq_true] at h ⊢
  exact fun c hc => h c (hds.mem hc)

theorem isVisibleAscii_decimalChars (n : Nat) : (decimalChars n).all isVisibleAscii = true := by
  rw [List.all_eq_true]
  intro c hc
  have hdigit : c.isDigit = true := Nat.isDigit_of_mem_toDigits (by decide) (by decide) hc
  simp only [Char.isDigit, ge_iff_le, Bool.and_eq_true, decide_eq_true_eq, UInt32.le_iff_toNat_le] at hdigit
  have hspace : 0x20 ≤ c.toNat := Nat.le_trans (by decide) hdigit.1
  have htilde : c.toNat < 0x7F := Nat.lt_of_le_of_lt hdigit.2 (by decide)
  simp [isVisibleAscii, hspace, htilde]

theorem isVisibleAscii_hexDigit {n : Nat} (h : n < 16) : isVisibleAscii (hexDigit n) = true := by
  revert n
  decide

theorem isVisibleAscii_hexChars (width n : Nat) : (hexChars width n).all isVisibleAscii = true := by
  induction width generalizing n with
  | zero => rfl
  | succ width ih => simp [hexChars, ih, isVisibleAscii_hexDigit (Nat.mod_lt n (by decide))]

theorem dropTail_sublist (p : Char → Bool) (cs : List Char) : (dropTail p cs).Sublist cs := by
  have h := (List.dropWhile_sublist p (l := cs.reverse)).reverse
  rwa [List.reverse_reverse] at h

end Text

/-! ### Numbers -/

namespace Binary64

open Text

variable {ds : List Char}

theorem isVisibleAscii_withPoint (h : ds.all isVisibleAscii = true) (k : Int) :
    (withPoint ds k).all isVisibleAscii = true := by
  have hwhole := fun n => all_of_sublist h (List.take_sublist n ds)
  have hfrac := fun n => all_of_sublist h (List.drop_sublist n ds)
  unfold withPoint
  split
  . simp [h, isVisibleAscii]
  . dsimp only
    split <;> simp [hwhole, hfrac, isVisibleAscii]

theorem isVisibleAscii_exponentChars (width : Nat) (e : Int) :
    (exponentChars width e).all isVisibleAscii = true := by
  unfold exponentChars
  split <;> simp [isVisibleAscii_decimalChars, isVisibleAscii]

theorem isVisibleAscii_unsigned (l : Layout) (m : Nat) (e : Int) (h : IsCanonical m e) :
    (unsigned l m e h).all isVisibleAscii = true := by
  have hdigits : ∀ n, (dropZeros n).1.all isVisibleAscii = true :=
    fun n => all_of_sublist (isVisibleAscii_decimalChars n) (dropTail_sublist _ _)
  unfold unsigned
  split
  . simp [isVisibleAscii]
  . dsimp only
    generalize hds : (dropZeros _).1 = ds
    have hvisible : ds.all isVisibleAscii = true := by
      rw [← hds]
      exact hdigits _
    have hfirst := all_of_sublist hvisible (List.take_sublist 1 ds)
    have hrest := all_of_sublist hvisible (List.tail_sublist ds)
    split
    . exact isVisibleAscii_withPoint hvisible _
    . split <;> simp [hfirst, hrest, isVisibleAscii_exponentChars, isVisibleAscii]

theorem isVisibleAscii_render (x : Binary64) :
    (x.render Json.floatLayout).toList.all isVisibleAscii = true := by
  have hsign : ∀ s : Bool, (if s then "-" else "").toList.all isVisibleAscii = true := by
    rintro (_ | _) <;> simp [isVisibleAscii]
  cases x with
  | nan => simp [render, Json.floatLayout, isVisibleAscii]
  | infinity s =>
    rw [render, String.toList_append, List.all_append, hsign, Bool.true_and]
    simp [Json.floatLayout, isVisibleAscii]
  | finite s m e h =>
    rw [render, String.toList_append, String.toList_ofList, List.all_append, hsign, Bool.true_and]
    exact isVisibleAscii_unsigned _ m e h

end Binary64

/-! ### Documents -/

namespace Json

open Text

theorem isVisibleAscii_toString (n : Int) : (toString n).toList.all isVisibleAscii = true := by
  cases n with
  | ofNat n =>
    rw [Int.ofNat_eq_natCast, toList_toString_natCast]
    exact isVisibleAscii_decimalChars n
  | negSucc n =>
    rw [toList_toString_negSucc, List.all_cons]
    exact isVisibleAscii_decimalChars (n + 1)

theorem isVisibleAscii_charEscape (c : Char) : (charEscape c).all isVisibleAscii = true := by
  unfold charEscape unitEscape
  dsimp only
  split <;> simp [isVisibleAscii_hexChars, isVisibleAscii]

theorem stringChar_spec (asciiOnly : Bool) (c : Char) :
    (stringChar asciiOnly c).all isVisibleAscii = true
      ∨ stringChar asciiOnly c = [c] ∧ 0x20 ≤ c.toNat ∧ asciiOnly = false := by
  have hlast :
      let cs := if c.toNat < 0x20 || (asciiOnly && 0x7F ≤ c.toNat) then charEscape c else [c]
      cs.all isVisibleAscii = true ∨ cs = [c] ∧ 0x20 ≤ c.toNat ∧ asciiOnly = false := by
    dsimp only
    split
    . exact .inl (isVisibleAscii_charEscape c)
    . next h =>
      rw [Bool.or_eq_true, Bool.and_eq_true, decide_eq_true_iff, decide_eq_true_iff, not_or, not_and,
        Nat.not_lt] at h
      obtain ⟨hlow, hhigh⟩ := h
      cases asciiOnly with
      | true =>
        left
        simpa [isVisibleAscii] using ⟨hlow, Nat.not_le.1 (hhigh rfl)⟩
      | false => exact .inr ⟨rfl, hlow, rfl⟩
  unfold stringChar
  -- What comes before the last choice are escapes with a letter.
  repeat (split; . simp [isVisibleAscii])
  exact hlast

structure Style.WritesIn (st : Style) (p : Char → Bool) : Prop where
  ascii : ∀ c, isVisibleAscii c = true → p c = true
  string : ∀ c, (stringChar st.asciiOnly c).all p = true
  gap : ∀ depth, (st.gap depth).all p = true

namespace Style.WritesIn

variable {st : Style} {p : Char → Bool}

theorem all_of_isVisibleAscii (h : st.WritesIn p) {cs : List Char} (hcs : cs.all isVisibleAscii = true) :
    cs.all p = true := by
  rw [List.all_eq_true] at hcs ⊢
  exact fun c hc => h.ascii c (hcs c hc)

theorem comma (h : st.WritesIn p) : st.comma.all p = true := by
  apply h.all_of_isVisibleAscii
  unfold Style.comma
  split <;> rfl

theorem colon (h : st.WritesIn p) : st.colon.all p = true := by
  apply h.all_of_isVisibleAscii
  unfold Style.colon
  split <;> rfl

theorem stringChars (h : st.WritesIn p) (s : String) : (stringChars st.asciiOnly s).all p = true := by
  simp [Json.stringChars, List.all_flatMap, h.string, h.ascii '"' rfl]

mutual

theorem chars (h : st.WritesIn p) (depth : Nat) (j : Json) : (chars st depth j).all p = true := by
  cases j with
  | null => exact h.all_of_isVisibleAscii rfl
  | bool b => cases b <;> exact h.all_of_isVisibleAscii rfl
  | int n => exact h.all_of_isVisibleAscii (isVisibleAscii_toString n)
  | float x => exact h.all_of_isVisibleAscii x.isVisibleAscii_render
  | str s => exact h.stringChars s
  | arr xs =>
    cases xs with
    | nil => exact h.all_of_isVisibleAscii rfl
    | cons x xs =>
      simp [Json.chars, h.gap, chars h _ x, itemChars h _ xs, h.ascii '[' rfl, h.ascii ']' rfl]
  | obj ms =>
    cases ms with
    | nil => exact h.all_of_isVisibleAscii rfl
    | cons m ms =>
      obtain ⟨k, v⟩ := m
      simp [Json.chars, h.gap, h.colon, h.stringChars, chars h _ v, memberChars h _ ms,
        h.ascii '\x7b' rfl, h.ascii '\x7d' rfl]

theorem itemChars (h : st.WritesIn p) (depth : Nat) (xs : List Json) :
    (itemChars st depth xs).all p = true := by
  match xs with
  | [] => rfl
  | x :: xs => simp [Json.itemChars, h.comma, h.gap, chars h depth x, itemChars h depth xs]

theorem memberChars (h : st.WritesIn p) (depth : Nat) (ms : List (String × Json)) :
    (memberChars st depth ms).all p = true := by
  match ms with
  | [] => rfl
  | (k, v) :: ms =>
    simp [Json.memberChars, h.comma, h.gap, h.colon, h.stringChars, chars h depth v,
      memberChars h depth ms]

end

theorem render (h : st.WritesIn p) (j : Json) : ∀ c ∈ (j.render st).toList, p c = true := by
  rw [Json.render, String.toList_ofList, ← List.all_eq_true]
  exact h.chars 0 j

end Style.WritesIn

theorem writesIn_isShown (st : Style) : st.WritesIn isShown where
  ascii _ := isShown_of_isVisibleAscii
  string c := by
    rcases stringChar_spec st.asciiOnly c with hvisible | ⟨heq, hc, _⟩
    . rw [List.all_eq_true] at hvisible ⊢
      exact fun d hd => isShown_of_isVisibleAscii (hvisible d hd)
    . simp [heq, isShown, hc]
  gap depth := by
    unfold Style.gap
    split <;> simp [isShown]

theorem writesIn_isVisibleAscii {st : Style} (hascii : st.asciiOnly = true) (hline : st.indent = none) :
    st.WritesIn isVisibleAscii where
  ascii _ h := h
  string c := by
    rcases stringChar_spec st.asciiOnly c with hvisible | ⟨_, _, hall⟩
    . exact hvisible
    . rw [hascii] at hall
      cases hall
  gap depth := by
    rw [Style.gap, hline]
    rfl

theorem isShown_render (st : Style) (j : Json) : ∀ c ∈ (j.render st).toList, isShown c = true :=
  (writesIn_isShown st).render j

theorem isVisibleAscii_render_line (j : Json) :
    ∀ c ∈ (j.render .line).toList, isVisibleAscii c = true :=
  (writesIn_isVisibleAscii rfl rfl).render j

end Json

end EventTracking
