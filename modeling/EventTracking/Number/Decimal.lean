import EventTracking.Number.Binary64
import EventTracking.Text.Blank
import EventTracking.Text.Digit

/-!
This module contains the reading of decimal notation: integers with separators between digits, and
decimal fractions as the nearest 64-bit binary floating point number.
-/

namespace EventTracking

namespace Binary64

/--
The number nearest to `digits * 10 ^ exponent`. A power of ten far outside the range is not computed:
a magnitude of 10 ^ 310 and more overflows and one below 10 ^ -330 is zero.
-/
def ofDecimal (negative : Bool) (digits : Nat) (exponent : Int) : Binary64 :=
  if digits = 0 then zero negative
  else
    let magnitude := (Text.decimalChars digits).length + exponent
    if 310 < magnitude then .infinity negative
    else if magnitude < -330 then zero negative
    else if 0 ≤ exponent then ofRatio negative (digits * Nat.pow 10 exponent.toNat) 1
    else ofRatio negative digits (Nat.pow 10 (-exponent).toNat)

end Binary64

namespace Text

def takeSign : List Char → Bool × List Char
  | '-' :: rest => (true, rest)
  | '+' :: rest => (false, rest)
  | cs => (false, cs)

def separatedDigits? (digit? : Char → Option Nat) : List Char → Option (List Nat)
  | [] => none
  | [c] => (digit? c).map ([·])
  | c :: '_' :: rest => do return (← digit? c) :: (← separatedDigits? digit? rest)
  | c :: rest => do return (← digit? c) :: (← separatedDigits? digit? rest)

/-- The longest integer that is read from or written as decimal digits. -/
def maxDigits : Nat := 4300

def tooLongInteger : Nat := Nat.pow 10 maxDigits

def isWritableInteger (n : Int) : Bool := n.natAbs < tooLongInteger

def integerText? (n : Int) : Option String :=
  if isWritableInteger n then some (toString n) else none

def tooManyDigits (detail : String) : String :=
  "Exceeds the limit (" ++ toString maxDigits ++ " digits) for integer string conversion" ++ detail
    ++ "; use sys.set_int_max_str_digits() to increase the limit"

inductive IntegerError where
  | notDecimal
  | tooLong (digits : Nat)

def unpadded (s : String) : List Char := strip isNumberBlank s.toList

def signed (negative : Bool) (n : Nat) : Int := if negative then -(n : Int) else n

/--
An integer in decimal notation of any script, with an optional sign and blanks around it. The digits are
counted before what follows them is looked at.
-/
def readInteger (s : String) : Except IntegerError Int :=
  let (negative, body) := takeSign (unpadded s)
  let (row, rest) := body.span fun c => c == '_' || (decimalDigit? c).isSome
  match separatedDigits? decimalDigit? row with
  | none => .error .notDecimal
  | some ds =>
    if maxDigits < ds.length then .error (.tooLong ds.length)
    else if rest.isEmpty then .ok (signed negative (ofDigits 10 ds))
    else .error .notDecimal

def baseMark? (base : Nat) : Option Char :=
  if base = 2 then some 'b' else if base = 8 then some 'o' else if base = 16 then some 'x' else none

def dropBaseMark (base : Nat) : List Char → List Char
  | '0' :: m :: rest => if some m.toLower == baseMark? base then rest else '0' :: m :: rest
  | cs => cs

/-- A digit of a base, a decimal digit of any script counting as one. -/
def anyDigit? (base : Nat) (c : Char) : Option Nat :=
  (decimalDigit? c <|> digitOfBase? base c).filter (· < base)

def readInBase? (base : Nat) (s : String) : Option Int :=
  let (negative, body) := takeSign (unpadded s)
  (separatedDigits? (anyDigit? base) (dropBaseMark base body)).map fun ds =>
    signed negative (ofDigits base ds)

def exponentPart? : List Char → Option Int
  | [] => some 0
  | c :: rest =>
    if c == 'e' || c == 'E' then
      let (negative, ds) := takeSign rest
      (separatedDigits? decimalDigit? ds).map fun ds =>
        let n := ofDigits 10 ds
        if negative then -(n : Int) else n
    else
      none

def optionalDigits? (ds : List Char) : Option (List Nat) :=
  if ds.isEmpty then some [] else separatedDigits? decimalDigit? ds

/--
A decimal fraction: digits with an optional point among or beside them and an optional exponent, or
the name of an infinity or of a NaN, with an optional sign and blanks around it.
-/
def readFraction? (s : String) : Option Binary64 :=
  let (negative, body) := takeSign (unpadded s)
  let name := String.ofList (body.map Char.toLower)
  if name == "inf" || name == "infinity" then some (.infinity negative)
  else if name == "nan" then some .nan
  else
    let (mantissa, tail) := body.span fun c => !(c == 'e' || c == 'E')
    let (whole, frac) := mantissa.span (· != '.')
    match exponentPart? tail, optionalDigits? whole, optionalDigits? (frac.drop 1) with
    | some e, some ws, some fs =>
      if ws.isEmpty && fs.isEmpty then none
      else some (.ofDecimal negative (ofDigits 10 (ws ++ fs)) (e - fs.length))
    | _, _, _ => none

end Text

end EventTracking
