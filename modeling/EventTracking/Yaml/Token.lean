import EventTracking.Yaml.Scalar

/-!
This module contains the tokens of a YAML text. Indentation becomes tokens too: a block opens where a
line is indented further than its surroundings and closes where one is not.
-/

namespace EventTracking.Yaml

inductive Directive where
  | version (major minor : Nat)
  | tag (handle replacement : String)
  | other
  deriving DecidableEq, Repr

inductive Token where
  | directive (d : Directive)
  | documentStart
  | documentEnd
  | blockSequenceStart
  | blockMappingStart
  | blockEnd
  | flowSequenceStart
  | flowSequenceEnd
  | flowMappingStart
  | flowMappingEnd
  | blockEntry
  | flowEntry
  | key
  | value
  | alias (name : String)
  | anchor (name : String)
  | tag (handle : Option String) (suffix : String)
  | scalar (text : String) (isPlain : Bool)
  deriving DecidableEq, Repr

structure SimpleKey where
  position : Nat
  required : Bool
  index : Nat
  line : Nat
  column : Nat

structure Lexer where
  cursor : Cursor
  flowDepth : Nat
  indent : Int
  indents : List Int
  allowsKey : Bool
  keys : List (Nat × SimpleKey)
  tokens : List Token
  count : Nat

namespace Lexer

def start (s : String) : Lexer := ⟨.start s, 0, -1, [], true, [], [], 0⟩

def inFlow (l : Lexer) : Bool := l.flowDepth != 0

def push (t : Token) (l : Lexer) : Lexer := { l with tokens := t :: l.tokens, count := l.count + 1 }

def moveTo (c : Cursor) (l : Lexer) : Lexer := { l with cursor := c }

def allowKey (b : Bool) (l : Lexer) : Lexer := { l with allowsKey := b }

def insertAt (position : Nat) (t : Token) (l : Lexer) : Lexer :=
  let behind := l.count - position
  { l with tokens := l.tokens.take behind ++ t :: l.tokens.drop behind, count := l.count + 1 }

/-! ## Blocks -/

def openBlock? (column : Nat) (l : Lexer) : Option Lexer :=
  if l.indent < column then some { l with indents := l.indent :: l.indents, indent := column }
  else none

def closeBlocks (column : Int) (l : Lexer) : Lexer :=
  if l.inFlow then l else go l.indents l
where
  go : List Int → Lexer → Lexer
    | [], l => l
    | outer :: rest, l =>
      if column < l.indent then go rest ({ l with indent := outer, indents := rest }.push .blockEnd)
      else l

def openHere (t : Token) (l : Lexer) : Lexer :=
  match l.openBlock? l.cursor.column with
  | some l => l.push t
  | none => l

/-! ## Possible keys -/

def key? (l : Lexer) : Option SimpleKey := l.keys.lookup l.flowDepth

def dropKey (l : Lexer) : Lexer := { l with keys := l.keys.filter (·.1 != l.flowDepth) }

def removeKey (l : Lexer) : Except Fault Lexer :=
  match l.key? with
  | some k => if k.required then .error .notYaml else .ok l.dropKey
  | none => .ok l

/-- Notes that a key may begin at the cursor. In a block the first token of a line has to be one. -/
def saveKey (l : Lexer) : Except Fault Lexer :=
  if l.allowsKey then do
    let l ← l.removeKey
    let c := l.cursor
    let required := !l.inFlow && l.indent == c.column
    let k : SimpleKey := ⟨l.count, required, c.index, c.line, c.column⟩
    return { l with keys := (l.flowDepth, k) :: l.keys }
  else .ok l

def maxKeyLength : Nat := 1024

/-- A key ends in its line and is not too long. -/
def isStale (c : Cursor) (k : SimpleKey) : Bool :=
  k.line != c.line || maxKeyLength < c.index - k.index

def removeStaleKeys (l : Lexer) : Except Fault Lexer :=
  if l.keys.any fun k => isStale l.cursor k.2 && k.2.required then .error .notYaml
  else .ok { l with keys := l.keys.filter fun k => !isStale l.cursor k.2 }

/-! ## Names, tags and directives -/

def name? (c : Cursor) : Option (String × Cursor) :=
  let (name, c) := c.span isNameChar
  let isEnd := endsWord (c.peek? 0) || c.startsWith fun ch => "?:,]\x7d%@\x60".toList.contains ch
  if name.isEmpty || !isEnd then none else some (String.ofList name, c)

def isUriChar (c : Char) : Bool :=
  c.isAlphanum || "-;/?:@&=+$,_.!~*'()[]".toList.contains c

def escapedByte? : List Char → Option UInt8
  | '%' :: a :: b :: _ => do
    let ds ← [a, b].mapM (Text.digitOfBase? 16)
    return UInt8.ofNat (Text.ofDigits 16 ds)
  | _ => none

def escapedBytes : (fuel : Nat) → Cursor → Option (List UInt8 × Cursor)
  | 0, c => some ([], c)
  | fuel + 1, c =>
    if c.startsWith (· == '%') then do
      let b ← escapedByte? c.rest
      let (bs, c) ← escapedBytes fuel (c.forward 3)
      return (b :: bs, c)
    else some ([], c)

def uriChars : (fuel : Nat) → Cursor → Option (List Char × Cursor)
  | 0, c => some ([], c)
  | fuel + 1, c =>
    let (run, c) := c.span isUriChar
    if c.startsWith (· == '%') then do
      let (bytes, c) ← escapedBytes fuel c
      let text ← String.fromUTF8? ⟨bytes.toArray⟩
      let (more, c) ← uriChars fuel c
      return (run ++ text.toList ++ more, c)
    else some (run, c)

def uri? (c : Cursor) : Option (String × Cursor) := do
  let (cs, behind) ← uriChars (c.left + 1) c
  if behind.index = c.index then none else some (String.ofList cs, behind)

def handle? (c : Cursor) : Option (String × Cursor) :=
  if c.startsWith (· == '!') then
    let (name, behind) := c.next.span isNameChar
    if behind.startsWith (· == '!') then
      some (String.ofList ('!' :: name ++ ['!']), behind.next)
    else if c.next.startsWith (· == ' ') then some ("!", c.next)
    else none
  else none

def hasHandle (c : Cursor) : Bool :=
  (c.rest.takeWhile fun ch => ch != ' ' && !isLineBreak ch).contains '!'

def tag? (c : Cursor) : Option (Token × Cursor) := do
  let (t, c) ← body
  if endsLine (c.peek? 0) || c.startsWith (· == ' ') then some (t, c) else none
where
  body : Option (Token × Cursor) := do
    if c.next.startsWith (· == '<') then
      let (suffix, c) ← uri? (c.forward 2)
      if c.startsWith (· == '>') then some (.tag none suffix, c.next) else none
    else if endsWord (c.peek? 1) then
      some (.tag none "!", c.next)
    else
      let (handle, c) ← if hasHandle c.next then handle? c else some ("!", c.next)
      let (suffix, c) ← uri? c
      some (.tag (some handle) suffix, c)

def number (c : Cursor) : Except Fault (Nat × Cursor) :=
  let (ds, c) := c.span Char.isDigit
  if ds.isEmpty then .error .notYaml
  else if Text.maxDigits < ds.length then .error (.integerTooLong ds.length)
  else .ok (Text.ofDigits 10 (ds.map fun d => d.toNat - 48), c)

def endsValue (c : Cursor) : Bool := endsLine (c.peek? 0) || c.startsWith (· == ' ')

def version (c : Cursor) : Except Fault (Directive × Cursor) := do
  let (major, c) ← number c.skipSpaces
  if c.startsWith (· == '.') then
    let (minor, c) ← number c.next
    if endsValue c then return (.version major minor, c) else throw .notYaml
  else throw .notYaml

def tagDirective? (c : Cursor) : Option (Directive × Cursor) := do
  let (handle, c) ← handle? c.skipSpaces
  if c.startsWith (· == ' ') then
    let (replacement, c) ← uri? c.skipSpaces
    if endsValue c then some (.tag handle replacement, c) else none
  else none

def wellFormed {α : Type} : Option α → Except Fault α
  | some a => .ok a
  | none => .error .notYaml

def directive (c : Cursor) : Except Fault (Directive × Cursor) := do
  let (name, c) := c.next.span isNameChar
  if name.isEmpty || !endsValue c then throw .notYaml
  else
    let (d, c) ←
      if name == "YAML".toList then version c
      else if name == "TAG".toList then wellFormed (tagDirective? c)
      else pure (.other, c.skip (!isLineBreak ·))
    return (d, ← wellFormed c.finishLine?)

/-! ## Tokens -/

/-- Moves past spaces, comments and line breaks. Behind a break a key may begin unless in brackets. -/
def skipToToken (l : Lexer) : Lexer :=
  let c := l.cursor
  let c := if c.index = 0 && c.startsWith (· == byteOrderMark) then c.next else c
  go (c.left + 1) (l.moveTo c)
where
  go : (fuel : Nat) → Lexer → Lexer
    | 0, l => l
    | fuel + 1, l =>
      let c := l.cursor.skipSpaces
      let c := if c.startsWith (· == '#') then c.skip (!isLineBreak ·) else c
      match c.lineBreak? with
      | some (_, c) => go fuel { l with cursor := c, allowsKey := l.allowsKey || !l.inFlow }
      | none => l.moveTo c

def topLevel (t : Token) (c : Cursor) (l : Lexer) : Except Fault Lexer := do
  let l ← (l.closeBlocks (-1)).removeKey
  return ((l.allowKey false).moveTo c).push t

def flowStart (t : Token) (l : Lexer) : Except Fault Lexer := do
  let l ← l.saveKey
  return (({ l with flowDepth := l.flowDepth + 1 }.allowKey true).moveTo l.cursor.next).push t

def flowEnd (t : Token) (l : Lexer) : Except Fault Lexer := do
  if !l.inFlow then throw .notYaml
  else
    let l ← l.removeKey
    return (({ l with flowDepth := l.flowDepth - 1 }.allowKey false).moveTo l.cursor.next).push t

def flowEntry (l : Lexer) : Except Fault Lexer := do
  let l ← (l.allowKey true).removeKey
  return (l.moveTo l.cursor.next).push .flowEntry

def openForIndicator (t : Token) (l : Lexer) : Except Fault Lexer :=
  if l.inFlow then .ok l
  else if l.allowsKey then .ok (l.openHere t)
  else .error .notYaml

def blockEntry (l : Lexer) : Except Fault Lexer := do
  let l ← l.openForIndicator .blockSequenceStart
  let l ← (l.allowKey true).removeKey
  return (l.moveTo l.cursor.next).push .blockEntry

def explicitKey (l : Lexer) : Except Fault Lexer := do
  let l ← l.openForIndicator .blockMappingStart
  let l ← (l.allowKey (!l.inFlow)).removeKey
  return (l.moveTo l.cursor.next).push .key

def confirmKey (k : SimpleKey) (l : Lexer) : Lexer :=
  let l := l.dropKey.insertAt k.position .key
  let opened := if l.inFlow then none else l.openBlock? k.column
  match opened with
  | some l => l.insertAt k.position .blockMappingStart
  | none => l

def value (l : Lexer) : Except Fault Lexer := do
  let l ←
    match l.key? with
    | some k => .ok ((l.confirmKey k).allowKey false)
    | none => do
      let l ← l.openForIndicator .blockMappingStart
      (l.allowKey (!l.inFlow)).removeKey
  return (l.moveTo l.cursor.next).push .value

def keyToken (read : Option (Token × Cursor)) (l : Lexer) : Except Fault Lexer := do
  let l ← l.saveKey
  let (t, c) ← wellFormed read
  return ((l.allowKey false).moveTo c).push t

def nameToken (make : String → Token) (l : Lexer) : Except Fault Lexer :=
  l.keyToken ((name? l.cursor.next).map fun (n, c) => (make n, c))

def quotedScalar (quote : Char) (l : Lexer) : Except Fault Lexer := do
  let l ← l.saveKey
  let (text, c) ← Scalar.quoted quote l.cursor.next
  return ((l.allowKey false).moveTo c).push (.scalar (String.ofList text) false)

def plainScalar (l : Lexer) : Except Fault Lexer := do
  let l ← l.saveKey
  let (text, crossesLine, c) := Scalar.plain l.inFlow (l.indent + 1) l.cursor
  return ((l.allowKey crossesLine).moveTo c).push (.scalar (String.ofList text) true)

def blockScalar (folded : Bool) (l : Lexer) : Except Fault Lexer := do
  let l ← (l.allowKey true).removeKey
  let (text, c) ← wellFormed (Scalar.block? folded l.indent l.cursor.next)
  return (l.moveTo c).push (.scalar (String.ofList text) false)

def indicators : List Char := "-?:,[]\x7b\x7d#&*!|>'\"%@\x60".toList

def startsPlain (inFlow : Bool) (ch : Char) (following : Option Char) : Bool :=
  !(isBlank ch || isLineBreak ch || indicators.contains ch)
    || (!endsWord following && (ch == '-' || (!inFlow && (ch == '?' || ch == ':'))))

def readToken (ch : Char) (l : Lexer) : Except Fault Lexer :=
  let c := l.cursor
  let standsAlone := endsWord (c.peek? 1)
  if ch == '%' && c.column == 0 then do
    let (d, c) ← directive c
    l.topLevel (.directive d) c
  else if c.column == 0 && c.isTriple '-' then l.topLevel .documentStart (c.forward 3)
  else if c.column == 0 && c.isTriple '.' then l.topLevel .documentEnd (c.forward 3)
  else if ch == '[' then l.flowStart .flowSequenceStart
  else if ch == '\x7b' then l.flowStart .flowMappingStart
  else if ch == ']' then l.flowEnd .flowSequenceEnd
  else if ch == '\x7d' then l.flowEnd .flowMappingEnd
  else if ch == ',' then l.flowEntry
  else if ch == '-' && standsAlone then l.blockEntry
  else if ch == '?' && (l.inFlow || standsAlone) then l.explicitKey
  else if ch == ':' && (l.inFlow || standsAlone) then l.value
  else if ch == '*' then l.nameToken .alias
  else if ch == '&' then l.nameToken .anchor
  else if ch == '!' then l.keyToken (tag? c)
  else if ch == '|' && !l.inFlow then l.blockScalar false
  else if ch == '>' && !l.inFlow then l.blockScalar true
  else if ch == '\'' || ch == '"' then l.quotedScalar ch
  else if startsPlain l.inFlow ch (c.peek? 1) then l.plainScalar
  else .error .notYaml

def readNext (l : Lexer) : Except Fault (Bool × Lexer) := do
  let l ← l.skipToToken.removeStaleKeys
  let l := l.closeBlocks l.cursor.column
  match l.cursor.peek? 0 with
  | some ch => return (false, ← l.readToken ch)
  | none => return (true, ← (l.closeBlocks (-1)).removeKey)

/--
The tokens that are certain before more of the text is read: those before the first one with which a key
may have begun.
-/
def settled (l : Lexer) : List Token :=
  let possible := l.keys.filter fun k => !isStale l.cursor k.2
  l.tokens.reverse.take (possible.foldl (fun n k => min n k.2.position) l.count)

def run : (fuel : Nat) → Lexer → List Token × Option Fault
  | 0, l => (l.settled, some .notYaml)
  | fuel + 1, l =>
    match l.readNext with
    | .ok (true, l) => (l.tokens.reverse, none)
    | .ok (false, l) => run fuel l
    | .error f => (l.settled, some f)

end Lexer

/--
The tokens of a text, up to a fault in the text if there is one. A token does not wait for what follows it
unless that may show it to begin a key.
-/
def Token.ofText (s : String) : List Token × Option Fault :=
  if s.toList.all isAllowed then (Lexer.start s).run (s.length + 1) else ([], some .notYaml)

end EventTracking.Yaml
