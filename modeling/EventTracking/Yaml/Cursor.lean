/-!
This module contains a place in a YAML text: what follows it and where it stands in its line, with the
character classes and the line breaks that the notation knows.
-/

namespace EventTracking.Yaml

structure Cursor where
  rest : List Char
  index : Nat
  line : Nat
  column : Nat
  length : Nat
  deriving Repr

def isLineBreak (c : Char) : Bool :=
  c == '\n' || c == '\r' || c.toNat == 0x85 || c.toNat == 0x2028 || c.toNat == 0x2029

def isBlank (c : Char) : Bool := c == ' ' || c == '\t'

/-- A mark of the byte order takes no column. -/
def byteOrderMark : Char := Char.ofNat 0xFEFF

def endsLine (next : Option Char) : Bool := next.all isLineBreak

def endsWord (next : Option Char) : Bool := next.all fun c => isBlank c || isLineBreak c

def isAllowed (c : Char) : Bool :=
  let n := c.toNat
  n == 9 || n == 10 || n == 13 || (0x20 ≤ n && n ≤ 0x7E) || n == 0x85 || (0xA0 ≤ n && n ≤ 0xD7FF)
    || (0xE000 ≤ n && n ≤ 0xFFFD) || 0x10000 ≤ n

def isNameChar (c : Char) : Bool := c.isAlphanum || c == '-' || c == '_'

namespace Cursor

def start (s : String) : Cursor := ⟨s.toList, 0, 0, 0, s.length⟩

def left (c : Cursor) : Nat := c.length - c.index

def peek? (c : Cursor) (n : Nat) : Option Char := c.rest[n]?

def atEnd (c : Cursor) : Bool := c.rest.isEmpty

def startsWith (p : Char → Bool) (c : Cursor) : Bool := (c.peek? 0).any p

/-- Moves past one character. A return and the line feed behind it are one break. -/
def next (c : Cursor) : Cursor :=
  match c.rest with
  | [] => c
  | ch :: rest =>
    if isLineBreak ch && !(ch == '\r' && rest.head? == some '\n') then
      { c with rest := rest, index := c.index + 1, line := c.line + 1, column := 0 }
    else
      let column := if ch == byteOrderMark then c.column else c.column + 1
      { c with rest := rest, index := c.index + 1, column := column }

def forward : Nat → Cursor → Cursor
  | 0, c => c
  | n + 1, c => forward n c.next

def span (p : Char → Bool) (c : Cursor) : List Char × Cursor :=
  let run := c.rest.takeWhile p
  (run, c.forward run.length)

def skip (p : Char → Bool) (c : Cursor) : Cursor := (c.span p).2

def skipSpaces (c : Cursor) : Cursor := c.skip (· == ' ')

/-- Reads a line break. All but the separators of lines and paragraphs are read as line feeds. -/
def lineBreak? (c : Cursor) : Option (Char × Cursor) :=
  match c.rest with
  | '\r' :: '\n' :: _ => some ('\n', c.forward 2)
  | ch :: _ =>
    if isLineBreak ch then
      some (if ch.toNat == 0x2028 || ch.toNat == 0x2029 then ch else '\n', c.next)
    else none
  | [] => none

def isTriple (ch : Char) (c : Cursor) : Bool :=
  [ch, ch, ch].isPrefixOf c.rest && endsWord (c.peek? 3)

def isSeparator (c : Cursor) : Bool := c.isTriple '-' || c.isTriple '.'

def finishLine? (c : Cursor) : Option Cursor :=
  let c := c.skipSpaces
  let c := if c.startsWith (· == '#') then c.skip (!isLineBreak ·) else c
  if endsLine (c.peek? 0) then some ((c.lineBreak?.map (·.2)).getD c) else none

end Cursor

end EventTracking.Yaml
