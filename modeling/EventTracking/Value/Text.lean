import EventTracking.Number.Shortest
import EventTracking.Text.Quoted
import EventTracking.Value

/-!
This module contains the text of a value, as messages and payload pairs show it: a text stands for
itself, and inside a container or in a message it is quoted.
-/

namespace EventTracking.Value

/--
Floating point numbers are written positionally from 10 ^ -4 to 10 ^ 16 and with an exponent of two
digits and more outside.
-/
def floatLayout : Binary64.Layout := ⟨-4, 16, 2, "nan", "inf"⟩

def floatText (x : Binary64) : String := x.render floatLayout

def boolText (b : Bool) : String := if b then "True" else "False"

def commaSeparated (parts : List String) : String := ", ".intercalate parts

def quoteByte (quote : Char) (b : UInt8) : List Char :=
  let c := Char.ofNat b.toNat
  if c == quote || c == '\\' then ['\\', c]
  else if c == '\n' then ['\\', 'n']
  else if c == '\r' then ['\\', 'r']
  else if c == '\t' then ['\\', 't']
  else if 32 ≤ b && b < 127 then [c]
  else '\\' :: 'x' :: Text.hexChars 2 b.toNat

def bytesText (data : List UInt8) : String :=
  let q := Text.quoteFor (data.map fun b => Char.ofNat b.toNat)
  String.ofList ('b' :: q :: data.flatMap (quoteByte q) ++ [q])

def numbersText (ns : List Nat) : String := commaSeparated (ns.map toString)

def dateText (d : Date) : String :=
  "datetime.date(" ++ numbersText [d.year, d.month, d.day] ++ ")"

def zoneText (seconds : Int) : String :=
  if seconds = 0 then "datetime.timezone.utc"
  else "datetime.timezone(" ++ Moment.spanText seconds ++ ")"

def momentText (t : Moment) : String :=
  let tail :=
    if t.microsecond != 0 then [t.second, t.microsecond]
    else if t.second != 0 then [t.second]
    else []
  let zone := (t.offset.map fun n => ", tzinfo=" ++ zoneText n).getD ""
  "datetime.datetime("
    ++ numbersText ([t.date.year, t.date.month, t.date.day, t.hour, t.minute] ++ tail) ++ zone ++ ")"

def textsText (ts : List String) : String :=
  "[" ++ commaSeparated (ts.map Text.quote) ++ "]"

def sidesText (r : Schema.RuleSet) : List String :=
  ["accept=" ++ textsText r.accept, "reject=" ++ textsText r.reject]

def tupleText : List String → String
  | [t] => "(" ++ t ++ ",)"
  | ts => "(" ++ commaSeparated ts ++ ")"

def ruleSetText (r : Schema.RuleSet) : String := "RuleSet(" ++ commaSeparated (sidesText r) ++ ")"

def callableText : Callable → String
  | .routine r => if r.isNamed then "<function " ++ r.name ++ ">" else "<" ++ r.name ++ " object>"
  | .constructor .object => "<class 'dict'>"
  | .constructor .list => "<class 'list'>"

mutual

def quoted : Value → String
  | .null => "None"
  | .bool b => boolText b
  | .int n => toString n
  | .float x => floatText x
  | .nan _ => floatText .nan
  | .str s => Text.quote s
  | .list xs => "[" ++ commaSeparated (quotedItems xs) ++ "]"
  | .tuple xs => tupleText (quotedItems xs)
  | .object es => "\x7b" ++ commaSeparated (quotedEntries es) ++ "\x7d"
  | .set [] => "set()"
  | .set xs => "\x7b" ++ commaSeparated (quotedItems xs) ++ "\x7d"
  | .bytes d => bytesText d
  | .date d => dateText d
  | .moment t => momentText t
  | .callable f => callableText f
  | .ruleSet r => ruleSetText r
  | .primitive p _ => quotedPrimitive p
  | .provider p _ => quotedProvider p
  | .foreign kind _ => "<" ++ kind ++ " object>"

def quotedItems : List Value → List String
  | [] => []
  | x :: xs => quoted x :: quotedItems xs

def quotedEntries : List (Value × Value) → List String
  | [] => []
  | (k, v) :: rest => (quoted k ++ ": " ++ quoted v) :: quotedEntries rest

def quotedPrimitive : Primitive → String
  | .fixed e => "StaticContext(entity=" ++ quoted e ++ ")"
  | .generator f => "ContextGenerator(fn=" ++ callableText f ++ ")"

def quotedPrimitives : List Primitive → List String
  | [] => []
  | p :: ps => quotedPrimitive p :: quotedPrimitives ps

def quotedProvider : Provider → String
  | .filter f ps =>
    "FilterProvider(predicate=" ++ callableText f ++ ", primitives="
      ++ tupleText (quotedPrimitives ps) ++ ")"
  | .ruled r ps =>
    "RuleSetProvider(rule_set=" ++ ruleSetText r ++ ", primitives="
      ++ tupleText (quotedPrimitives ps) ++ ")"

end

mutual

def isWritable : Value → Bool
  | .int n => Text.isWritableInteger n
  | .list xs | .tuple xs | .set xs => areWritable xs
  | .object es => areWritableEntries es
  | .primitive p _ => isWritablePrimitive p
  | .provider (.filter _ ps) _ | .provider (.ruled _ ps) _ => areWritablePrimitives ps
  | _ => true

def areWritable : List Value → Bool
  | [] => true
  | x :: xs => isWritable x && areWritable xs

def areWritableEntries : List (Value × Value) → Bool
  | [] => true
  | (k, v) :: rest => isWritable k && isWritable v && areWritableEntries rest

def isWritablePrimitive : Primitive → Bool
  | .fixed e => isWritable e
  | .generator _ => true

def areWritablePrimitives : List Primitive → Bool
  | [] => true
  | p :: ps => isWritablePrimitive p && areWritablePrimitives ps

end

/-- A name that every value has: its unambiguous text, or its kind if it cannot be written. -/
def label (v : Value) : String :=
  if v.isWritable then v.quoted else "<unprintable " ++ v.kind ++ " object>"

def text : Value → String
  | .str s => s
  | .date d => d.text
  | .moment t => t.text " "
  | .ruleSet r => " ".intercalate (sidesText r)
  | v => v.quoted

end EventTracking.Value
