import EventTracking.Json.Basic

/-!
This module contains the reading of JSON documents. Besides the grammar of JSON the reader takes the
names of the infinities and of the NaN, and it refuses integers of too many digits.
-/

namespace EventTracking.Json

def isBlank (c : Char) : Bool := c == ' ' || c == '\t' || c == '\n' || c == '\r'

def skipBlanks (cs : List Char) : List Char := cs.dropWhile isBlank

def unit? (a b c d : Char) : Option Nat := do
  let ds ← [a, b, c, d].mapM (Text.digitOfBase? 16)
  return Text.ofDigits 16 ds

def isHighSurrogate (n : Nat) : Bool := 0xD800 ≤ n && n < 0xDC00

def isLowSurrogate (n : Nat) : Bool := 0xDC00 ≤ n && n < 0xE000

/-- The character of a code unit; half of a pair on its own is replaced. -/
def ofUnit (n : Nat) : Char :=
  if isHighSurrogate n || isLowSurrogate n then Char.ofNat 0xFFFD else Char.ofNat n

def ofPair (high low : Nat) : Char :=
  Char.ofNat (0x10000 + (high - 0xD800) * 0x400 + (low - 0xDC00))

def joinPairs : List Nat → List Char
  | [] => []
  | [n] => [ofUnit n]
  | m :: n :: rest =>
    if isHighSurrogate m && isLowSurrogate n then ofPair m n :: joinPairs rest
    else ofUnit m :: joinPairs (n :: rest)

def simpleEscape? : Char → Option Char
  | '"' => some '"'
  | '\\' => some '\\'
  | '/' => some '/'
  | 'b' => some (Char.ofNat 0x08)
  | 'f' => some (Char.ofNat 0x0C)
  | 'n' => some '\n'
  | 'r' => some '\r'
  | 't' => some '\t'
  | _ => none

def readUnits? : List Char → Option (List Nat × List Char)
  | [] => none
  | '"' :: rest => some ([], rest)
  | '\\' :: 'u' :: a :: b :: c :: d :: rest => do
    let n ← unit? a b c d
    let (units, tail) ← readUnits? rest
    return (n :: units, tail)
  | '\\' :: e :: rest => do
    let c ← simpleEscape? e
    let (units, tail) ← readUnits? rest
    return (c.toNat :: units, tail)
  | c :: rest =>
    if c.toNat < 0x20 || c == '\\' then none
    else do
      let (units, tail) ← readUnits? rest
      return (c.toNat :: units, tail)

def readString? (cs : List Char) : Option (String × List Char) :=
  (readUnits? cs).map fun (units, tail) => (String.ofList (joinPairs units), tail)

def digitValue (c : Char) : Nat := c.toNat - 48

def takeWhole (cs : List Char) : List Char × List Char :=
  match cs with
  | '0' :: rest => (['0'], rest)
  | _ => cs.span Char.isDigit

def takeFraction (cs : List Char) : List Char × List Char :=
  match cs with
  | '.' :: rest =>
    let (ds, tail) := rest.span Char.isDigit
    if ds.isEmpty then ([], cs) else (ds, tail)
  | _ => ([], cs)

def takeExponent (cs : List Char) : Option Int × List Char :=
  match cs with
  | c :: rest =>
    if c == 'e' || c == 'E' then
      let (negative, rest) := Text.takeSign rest
      let (ds, tail) := rest.span Char.isDigit
      if ds.isEmpty then (none, cs)
      else
        let n := Text.ofDigits 10 (ds.map digitValue)
        (some (if negative then -(n : Int) else n), tail)
    else
      (none, cs)
  | [] => (none, cs)

def readNumber? (negative : Bool) (cs : List Char) : Option (Json × List Char) :=
  let (whole, rest) := takeWhole cs
  if whole.isEmpty then none
  else
    let (frac, rest) := takeFraction rest
    let (exponent, rest) := takeExponent rest
    if frac.isEmpty && exponent.isNone then
      if Text.maxDigits < whole.length then none
      else
        let n := Text.ofDigits 10 (whole.map digitValue)
        some (.int (if negative then -(n : Int) else n), rest)
    else
      let n := Text.ofDigits 10 ((whole ++ frac).map digitValue)
      some (.float (.ofDecimal negative n (exponent.getD 0 - frac.length)), rest)

def afterWord? (word : String) (cs : List Char) : Option (List Char) :=
  if word.toList.isPrefixOf cs then some (cs.drop word.length) else none

def readWord? (cs : List Char) : Option (Json × List Char) :=
  ((afterWord? "null" cs).map (Json.null, ·))
    <|> ((afterWord? "true" cs).map (Json.bool true, ·))
    <|> ((afterWord? "false" cs).map (Json.bool false, ·))
    <|> ((afterWord? "NaN" cs).map (Json.float .nan, ·))
    <|> ((afterWord? "Infinity" cs).map (Json.float (.infinity false), ·))
    <|> ((afterWord? "-Infinity" cs).map (Json.float (.infinity true), ·))

mutual

def readValue? : (fuel : Nat) → List Char → Option (Json × List Char)
  | 0, _ => none
  | fuel + 1, cs =>
    match cs with
    | '"' :: rest => (readString? rest).map fun (s, tail) => (.str s, tail)
    | '[' :: rest =>
      match skipBlanks rest with
      | ']' :: tail => some (.arr [], tail)
      | rest => do
        let (x, tail) ← readValue? fuel rest
        let (xs, tail) ← readItems? fuel (skipBlanks tail)
        return (.arr (x :: xs), tail)
    | '\x7b' :: rest =>
      match skipBlanks rest with
      | '\x7d' :: tail => some (.obj [], tail)
      | rest => do
        let (m, tail) ← readMember? fuel rest
        let (ms, tail) ← readMembers? fuel (skipBlanks tail)
        return (.obj (m :: ms), tail)
    | '-' :: rest => readNumber? true rest <|> readWord? cs
    | _ => readNumber? false cs <|> readWord? cs

def readItems? : (fuel : Nat) → List Char → Option (List Json × List Char)
  | 0, _ => none
  | fuel + 1, cs =>
    match cs with
    | ']' :: tail => some ([], tail)
    | ',' :: rest => do
      let (x, tail) ← readValue? fuel (skipBlanks rest)
      let (xs, tail) ← readItems? fuel (skipBlanks tail)
      return (x :: xs, tail)
    | _ => none

def readMember? : (fuel : Nat) → List Char → Option ((String × Json) × List Char)
  | 0, _ => none
  | fuel + 1, cs =>
    match cs with
    | '"' :: rest => do
      let (k, tail) ← readString? rest
      match skipBlanks tail with
      | ':' :: rest =>
        let (v, tail) ← readValue? fuel (skipBlanks rest)
        return ((k, v), tail)
      | _ => none
    | _ => none

def readMembers? : (fuel : Nat) → List Char → Option (List (String × Json) × List Char)
  | 0, _ => none
  | fuel + 1, cs =>
    match cs with
    | '\x7d' :: tail => some ([], tail)
    | ',' :: rest => do
      let (m, tail) ← readMember? fuel (skipBlanks rest)
      let (ms, tail) ← readMembers? fuel (skipBlanks tail)
      return (m :: ms, tail)
    | _ => none

end

/--
Reads a whole text as a document. Each step but those that open an object consumes a character, so
twice the length of the text is fuel enough.
-/
def parse? (s : String) : Option Json :=
  let cs := skipBlanks s.toList
  match readValue? (2 * cs.length + 2) cs with
  | some (j, rest) => if (skipBlanks rest).isEmpty then some j else none
  | none => none

end EventTracking.Json
