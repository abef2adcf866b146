import EventTracking.Fault
import EventTracking.Yaml.Cursor

/-!
This module contains the reading of scalars in each of their styles: plain, between quotes, and as a
block of indented lines.
-/

namespace EventTracking.Yaml.Scalar

/-- A single line break becomes a space, of several the first one is dropped. -/
def fold (first : Char) (others : List Char) : List Char :=
  if first != '\n' then first :: others else if others.isEmpty then [' '] else others

/-! ## Plain scalars -/

def isFlowIndicator (c : Char) : Bool :=
  c == ',' || c == '[' || c == ']' || c == '\x7b' || c == '\x7d'

def plainRun (inFlow : Bool) : List Char → List Char
  | [] => []
  | c :: rest =>
    let colonEnds := endsWord rest.head? || (inFlow && rest.head?.any isFlowIndicator)
    if isBlank c || isLineBreak c || (c == ':' && colonEnds)
        || (inFlow && (c == '?' || isFlowIndicator c)) then []
    else c :: plainRun inFlow rest

structure Gap where
  text : List Char
  crossesLine : Bool
  cursor : Cursor

def gapBreaks : (fuel : Nat) → Cursor → Option (List Char) × Cursor
  | 0, c => (some [], c)
  | fuel + 1, c =>
    if c.startsWith (· == ' ') then gapBreaks fuel c.next
    else
      match c.lineBreak? with
      | none => (some [], c)
      | some (b, c) =>
        if c.isSeparator then (none, c)
        else
          let (breaks, c) := gapBreaks fuel c
          (breaks.map (b :: ·), c)

def gap (c : Cursor) : Gap :=
  let (blanks, c) := c.span (· == ' ')
  match c.lineBreak? with
  | none => ⟨blanks, false, c⟩
  | some (b, c) =>
    if c.isSeparator then ⟨[], true, c⟩
    else
      match gapBreaks (c.left + 1) c with
      | (some breaks, c) => ⟨fold b breaks, true, c⟩
      | (none, c) => ⟨[], true, c⟩

/--
Reads a plain scalar that continues on lines of at least the given indentation. The flag says whether
the scalar ended behind a line break.
-/
def plain (inFlow : Bool) (indent : Int) (c : Cursor) : List Char × Bool × Cursor :=
  go (c.left + 1) ⟨[], false, c⟩
where
  go : (fuel : Nat) → Gap → List Char × Bool × Cursor
    | 0, before => ([], before.crossesLine, before.cursor)
    | fuel + 1, before =>
      let run := plainRun inFlow before.cursor.rest
      if run.isEmpty then ([], before.crossesLine, before.cursor)
      else
        let after := gap (before.cursor.forward run.length)
        let c := after.cursor
        if after.text.isEmpty || c.startsWith (· == '#') || (!inFlow && c.column < indent) then
          (before.text ++ run, after.crossesLine, c)
        else
          let (more, crosses, c) := go fuel after
          (before.text ++ run ++ more, crosses, c)

/-! ## Quoted scalars -/

def quotedBreaks : (fuel : Nat) → Cursor → Except Fault (List Char × Cursor)
  | 0, _ => .error .notYaml
  | fuel + 1, c =>
    if c.isSeparator then .error .notYaml
    else
      let c := c.skip isBlank
      match c.lineBreak? with
      | none => .ok ([], c)
      | some (b, c) => do
        let (breaks, c) ← quotedBreaks fuel c
        return (b :: breaks, c)

def quotedGap (c : Cursor) : Except Fault (List Char × Cursor) := do
  let (blanks, c) := c.span isBlank
  match c.lineBreak? with
  | none => return (blanks, c)
  | some (b, c) =>
    let (breaks, c) ← quotedBreaks (c.left + 1) c
    return (fold b breaks, c)

def escaped? (c : Char) : Option Char :=
  if c == '0' then some (Char.ofNat 0)
  else if c == 'a' then some (Char.ofNat 0x07)
  else if c == 'b' then some (Char.ofNat 0x08)
  else if c == 't' || c == '\t' then some '\t'
  else if c == 'n' then some '\n'
  else if c == 'v' then some (Char.ofNat 0x0B)
  else if c == 'f' then some (Char.ofNat 0x0C)
  else if c == 'r' then some '\r'
  else if c == 'e' then some (Char.ofNat 0x1B)
  else if c == ' ' || c == '"' || c == '\\' || c == '/' then some c
  else if c == 'N' then some (Char.ofNat 0x85)
  else if c == '_' then some (Char.ofNat 0xA0)
  else if c == 'L' then some (Char.ofNat 0x2028)
  else if c == 'P' then some (Char.ofNat 0x2029)
  else none

def escapeWidth? (c : Char) : Option Nat :=
  if c == 'x' then some 2 else if c == 'u' then some 4 else if c == 'U' then some 8 else none

/-- The character with a number; half of a surrogate pair is replaced. -/
def charOf (n : Nat) : Except Fault Char :=
  if 0x80000000 ≤ n then .error (.badScalar "OverflowError" "Python int too large to convert to C int")
  else if 0x110000 ≤ n then .error (.badScalar "ValueError" "chr() arg not in range(0x110000)")
  else if 0xD800 ≤ n && n < 0xE000 then .ok (Char.ofNat 0xFFFD)
  else .ok (Char.ofNat n)

def escape (c : Cursor) : Except Fault (List Char × Cursor) :=
  match c.rest with
  | [] => .error .notYaml
  | ch :: rest =>
    match escaped? ch, escapeWidth? ch with
    | some x, _ => .ok ([x], c.next)
    | none, some width =>
      match (rest.take width).mapM (Text.digitOfBase? 16) with
      | some ds =>
        if ds.length = width then do
          return ([← charOf (Text.ofDigits 16 ds)], c.forward (width + 1))
        else .error .notYaml
      | none => .error .notYaml
    | none, none =>
      match c.lineBreak? with
      | some (_, c) => quotedBreaks (c.left + 1) c
      | none => .error .notYaml

def quoted (quote : Char) (c : Cursor) : Except Fault (List Char × Cursor) :=
  go (c.left + 1) c
where
  go : (fuel : Nat) → Cursor → Except Fault (List Char × Cursor)
    | 0, _ => .error .notYaml
    | fuel + 1, c =>
      match c.rest with
      | [] => .error .notYaml
      | ch :: rest =>
        if ch == quote then
          if quote == '\'' && rest.head? == some quote then continueWith fuel [quote] (c.forward 2)
          else .ok ([], c.next)
        else if quote == '"' && ch == '\\' then
          match escape c.next with
          | .ok (part, c) => continueWith fuel part c
          | .error f => .error f
        else if isBlank ch || isLineBreak ch then
          match quotedGap c with
          | .ok (part, c) => continueWith fuel part c
          | .error f => .error f
        else
          continueWith fuel [ch] c.next
  continueWith (fuel : Nat) (part : List Char) (c : Cursor) : Except Fault (List Char × Cursor) :=
    match go fuel c with
    | .ok (more, c) => .ok (part ++ more, c)
    | .error f => .error f

/-! ## Block scalars -/

inductive Chomping where
  | none
  | one
  | all
  deriving DecidableEq, Repr

structure Header where
  chomping : Chomping
  indent : Option Nat
  deriving Repr

def chomping? (c : Cursor) : Option Chomping :=
  match c.peek? 0 with
  | some '+' => some .all
  | some '-' => some .none
  | _ => none

def indentDigit? (c : Cursor) : Option (Option Nat) :=
  match c.peek? 0 with
  | some ch => if ch.isDigit then some (if ch == '0' then none else some (ch.toNat - 48)) else none
  | none => none

def header? (c : Cursor) : Option (Header × Cursor) :=
  match chomping? c, indentDigit? c with
  | some k, _ =>
    match indentDigit? c.next with
    | some (some n) => finish ⟨k, some n⟩ (c.forward 2)
    | some none => none
    | none => finish ⟨k, none⟩ c.next
  | none, some (some n) =>
    match chomping? c.next with
    | some k => finish ⟨k, some n⟩ (c.forward 2)
    | none => finish ⟨.one, some n⟩ c.next
  | none, some none => none
  | none, none => finish ⟨.one, none⟩ c
where
  finish (h : Header) (c : Cursor) : Option (Header × Cursor) :=
    if endsLine (c.peek? 0) || c.startsWith (· == ' ') then c.finishLine?.map (h, ·) else none

/-- The breaks of leading empty lines, and the greatest column that spaces reach on the way. -/
def leadingBreaks : (fuel : Nat) → (deepest : Nat) → Cursor → List Char × Nat × Cursor
  | 0, deepest, c => ([], deepest, c)
  | fuel + 1, deepest, c =>
    if c.startsWith (· == ' ') then leadingBreaks fuel (max deepest c.next.column) c.next
    else
      match c.lineBreak? with
      | none => ([], deepest, c)
      | some (b, c) =>
        let (breaks, deepest, c) := leadingBreaks fuel deepest c
        (b :: breaks, deepest, c)

def skipIndent (indent : Nat) (c : Cursor) : Cursor :=
  c.forward (((c.rest.takeWhile (· == ' ')).take (indent - c.column)).length)

def emptyLines (indent : Nat) : (fuel : Nat) → Cursor → List Char × Cursor
  | 0, c => ([], c)
  | fuel + 1, c =>
    let c := skipIndent indent c
    match c.lineBreak? with
    | none => ([], c)
    | some (b, c) =>
      let (breaks, c) := emptyLines indent fuel c
      (b :: breaks, c)

structure Block where
  text : List Char
  lastBreak : List Char
  trailing : List Char
  cursor : Cursor

def inBlock (indent : Nat) (c : Cursor) : Bool := c.column == indent && !c.atEnd

def blockLines (folded : Bool) (indent : Nat) : (fuel : Nat) → (breaks : List Char) → Cursor → Block
  | 0, breaks, c => ⟨[], [], breaks, c⟩
  | fuel + 1, breaks, c =>
    if !inBlock indent c then ⟨[], [], breaks, c⟩
    else
      let flush := !c.startsWith isBlank
      let (line, c) := c.span (!isLineBreak ·)
      let (lineBreak, c) :=
        match c.lineBreak? with
        | some (b, c) => ([b], c)
        | none => ([], c)
      let (empty, c) := emptyLines indent (c.left + 1) c
      if inBlock indent c then
        let folds := folded && lineBreak == ['\n'] && flush && !c.startsWith isBlank
        let joint := if folds then (if empty.isEmpty then [' '] else []) else lineBreak
        let more := blockLines folded indent fuel empty c
        { more with text := breaks ++ line ++ joint ++ more.text }
      else
        ⟨breaks ++ line, lineBreak, empty, c⟩

def chomp (k : Chomping) (b : Block) : List Char :=
  match k with
  | .none => []
  | .one => b.lastBreak
  | .all => b.lastBreak ++ b.trailing

def block? (folded : Bool) (parent : Int) (c : Cursor) : Option (List Char × Cursor) :=
  (header? c).map fun (h, c) =>
    let least := max (parent + 1).toNat 1
    let fuel := c.left + 1
    let (breaks, indent, c) :=
      match h.indent with
      | none =>
        let (breaks, deepest, c) := leadingBreaks fuel 0 c
        (breaks, max least deepest, c)
      | some n =>
        let indent := least + n - 1
        let (breaks, c) := emptyLines indent fuel c
        (breaks, indent, c)
    let b := blockLines folded indent fuel breaks c
    (b.text ++ chomp h.chomping b, b.cursor)

end EventTracking.Yaml.Scalar
