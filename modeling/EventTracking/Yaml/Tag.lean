import EventTracking.Calendar
import EventTracking.Text.Digit

/-!
This module contains the tags that say what a YAML node is, and the resolution of plain scalars, whose
tag follows from their text.
-/

namespace EventTracking.Yaml

inductive Tag where
  | null
  | bool
  | int
  | float
  | str
  | binary
  | timestamp
  | seq
  | map
  | set
  | pairs
  | orderedMap
  | merge
  | value
  /-- A character with which properties and aliases begin; it stands for no value. -/
  | indicator
  | other (uri : String)
  deriving DecidableEq, Repr

namespace Tag

def home : String := "tag:yaml.org,2002:"

def names : List (String × Tag) :=
  [("null", .null), ("bool", .bool), ("int", .int), ("float", .float), ("str", .str),
    ("binary", .binary), ("timestamp", .timestamp), ("seq", .seq), ("map", .map), ("set", .set),
    ("pairs", .pairs), ("omap", .orderedMap), ("merge", .merge), ("value", .value),
    ("yaml", .indicator)]

def ofUri (uri : String) : Tag :=
  ((names.find? fun (name, _) => home ++ name == uri).map (·.2)).getD (.other uri)

end Tag

namespace Plain

def boolWords : List String :=
  ["yes", "Yes", "YES", "no", "No", "NO", "true", "True", "TRUE", "false", "False", "FALSE", "on",
    "On", "ON", "off", "Off", "OFF"]

def nullWords : List String := ["~", "null", "Null", "NULL", ""]

def indicators : List String := ["!", "&", "*"]

def isSign (c : Char) : Bool := c == '-' || c == '+'

def dropSign : List Char → List Char
  | [] => []
  | c :: cs => if isSign c then cs else c :: cs

def isDigitOrUnderscore (c : Char) : Bool := c.isDigit || c == '_'

def isRow (p : Char → Bool) (cs : List Char) : Bool := !cs.isEmpty && cs.all p

def isGrouped (first : Char → Bool) : List Char → Bool
  | [] => false
  | c :: cs => first c && cs.all isDigitOrUnderscore

def isNonZeroDigit (c : Char) : Bool := c.isDigit && c != '0'

def isSixtieth : List Char → Bool
  | [a] => a.isDigit
  | [a, b] => '0' ≤ a && a ≤ '5' && b.isDigit
  | _ => false

def isSexagesimal (first : List Char → Bool) (cs : List Char) : Bool :=
  match cs.splitOn ':' with
  | head :: part :: parts => first head && (part :: parts).all isSixtieth
  | _ => false

def isHexDigit (c : Char) : Bool := (Text.digitOfBase? 16 c).isSome || c == '_'

def isInt (cs : List Char) : Bool :=
  match dropSign cs with
  | ['0'] => true
  | '0' :: 'b' :: rest => isRow (fun c => c == '0' || c == '1' || c == '_') rest
  | '0' :: 'x' :: rest => isRow isHexDigit rest
  | '0' :: rest => isRow (fun c => ('0' ≤ c && c ≤ '7') || c == '_') rest
  | rest => isGrouped isNonZeroDigit rest || isSexagesimal (isGrouped isNonZeroDigit) rest

def isExponent : List Char → Bool
  | [] => true
  | [_] => false
  | e :: s :: ds => (e == 'e' || e == 'E') && isSign s && isRow Char.isDigit ds

def isFraction (cs : List Char) : Bool := isExponent (cs.dropWhile isDigitOrUnderscore)

def splitPoint? (cs : List Char) : Option (List Char × List Char) :=
  if cs.contains '.' then
    let (whole, frac) := cs.span (· != '.')
    some (whole, frac.drop 1)
  else none

def infinities : List String := [".inf", ".Inf", ".INF"]

def nans : List String := [".nan", ".NaN", ".NAN"]

def isFloat (cs : List Char) : Bool :=
  infinities.contains (String.ofList (dropSign cs)) || nans.contains (String.ofList cs)
    || match splitPoint? cs with
      | none => false
      | some ([], frac) => (frac.head?.any Char.isDigit) && isFraction frac
      | some (whole, frac) =>
        (isGrouped Char.isDigit (dropSign whole) && isFraction frac)
          || (isSexagesimal (isGrouped Char.isDigit) (dropSign whole)
            && frac.all isDigitOrUnderscore)

end Plain

structure Clock where
  hour : List Char
  minute : List Char
  second : List Char
  fraction : List Char
  offset : Option Int

structure Stamp where
  year : List Char
  month : List Char
  day : List Char
  clock : Option Clock

namespace Stamp

def digits? (least most : Nat) (cs : List Char) : Option (List Char × List Char) :=
  let ds := (cs.take most).takeWhile Char.isDigit
  if ds.length < least then none else some (ds, cs.drop ds.length)

def expect? (c : Char) : List Char → Option (List Char)
  | [] => none
  | x :: rest => if x == c then some rest else none

def number (ds : List Char) : Nat := Text.ofDigits 10 (ds.map fun d => d.toNat - 48)

def dateEnd? : List Char → Option (List Char)
  | [] => none
  | c :: rest =>
    if c == 'T' || c == 't' then some rest
    else if c == ' ' || c == '\t' then some (rest.dropWhile fun c => c == ' ' || c == '\t')
    else none

def zone? (cs : List Char) : Option (Option Int) :=
  match cs.dropWhile fun c => c == ' ' || c == '\t' with
  | [] => if cs.isEmpty then some none else none
  | ['Z'] => some (some 0)
  | s :: rest =>
    if s == '-' || s == '+' then do
      let (hours, rest) ← digits? 1 2 rest
      let minutes ←
        match rest with
        | [] => some []
        | ':' :: rest => do
          let (minutes, rest) ← digits? 2 2 rest
          if rest.isEmpty then some minutes else none
        | _ => none
      let seconds : Int := number hours * 3600 + number minutes * 60
      return some (if s == '-' then -seconds else seconds)
    else none

def clock? (cs : List Char) : Option Clock := do
  let (hour, rest) ← digits? 1 2 cs
  let (minute, rest) ← digits? 2 2 (← expect? ':' rest)
  let (second, rest) ← digits? 2 2 (← expect? ':' rest)
  let (fraction, rest) :=
    match rest with
    | '.' :: rest => rest.span Char.isDigit
    | rest => ([], rest)
  return ⟨hour, minute, second, fraction, ← zone? rest⟩

def parse? (cs : List Char) : Option Stamp := do
  let (year, rest) ← digits? 4 4 cs
  let (month, rest) ← digits? 1 2 (← expect? '-' rest)
  let (day, rest) ← digits? 1 2 (← expect? '-' rest)
  match rest with
  | [] => return ⟨year, month, day, none⟩
  | rest => return ⟨year, month, day, some (← clock? (← dateEnd? rest))⟩

/-- Whether a plain scalar with these digits is a timestamp: a date alone has two-digit parts. -/
def isPlain (s : Stamp) : Bool :=
  s.clock.isSome || (s.month.length == 2 && s.day.length == 2)

def microseconds (ds : List Char) : Nat :=
  number (ds.take 6 ++ List.replicate (6 - ds.length) '0')

end Stamp

def dropFinalBreak (cs : List Char) : List Char :=
  if cs.getLast? == some '\n' then cs.dropLast else cs

def Tag.ofPlain (text : String) : Tag :=
  let cs := dropFinalBreak text.toList
  let s := String.ofList cs
  if text.isEmpty then .null
  else if cs.isEmpty then .str
  else if Plain.boolWords.contains s then .bool
  else if Plain.isFloat cs then .float
  else if Plain.isInt cs then .int
  else if s == "<<" then .merge
  else if Plain.nullWords.contains s then .null
  else if ((Stamp.parse? cs).map Stamp.isPlain).getD false then .timestamp
  else if s == "=" then .value
  else if Plain.indicators.contains s then .indicator
  else .str

end EventTracking.Yaml
