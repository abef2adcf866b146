import EventTracking.Json.Basic

/-!
This module contains the writing of JSON documents as text.
-/

namespace EventTracking.Json

structure Style where
  spaceAfterComma : Bool
  spaceAfterColon : Bool
  /-- Characters outside ASCII, and the delete character, are written as escapes. -/
  asciiOnly : Bool
  indent : Option Nat

namespace Style

def compact : Style := ⟨false, false, false, none⟩

def line : Style := ⟨true, true, true, none⟩

def page : Style := ⟨false, true, true, some 2⟩

def gap (st : Style) (depth : Nat) : List Char :=
  match st.indent with
  | none => []
  | some n => '\n' :: List.replicate (n * depth) ' '

def comma (st : Style) : List Char := if st.spaceAfterComma then [',', ' '] else [',']

def colon (st : Style) : List Char := if st.spaceAfterColon then [':', ' '] else [':']

end Style

def unitEscape (n : Nat) : List Char := '\\' :: 'u' :: Text.hexChars 4 n

def charEscape (c : Char) : List Char :=
  let n := c.toNat
  if n < 0x10000 then unitEscape n
  else unitEscape (0xD800 + (n - 0x10000) / 0x400) ++ unitEscape (0xDC00 + (n - 0x10000) % 0x400)

def stringChar (asciiOnly : Bool) (c : Char) : List Char :=
  if c == '"' then ['\\', '"']
  else if c == '\\' then ['\\', '\\']
  else if c == '\n' then ['\\', 'n']
  else if c == '\r' then ['\\', 'r']
  else if c == '\t' then ['\\', 't']
  else if c.toNat == 0x0C then ['\\', 'f']
  else if c.toNat == 0x08 then ['\\', 'b']
  else if c.toNat < 0x20 || (asciiOnly && 0x7F ≤ c.toNat) then charEscape c
  else [c]

def stringChars (asciiOnly : Bool) (s : String) : List Char :=
  '"' :: s.toList.flatMap (stringChar asciiOnly) ++ ['"']

mutual

def chars (st : Style) (depth : Nat) : Json → List Char
  | .null => ['n', 'u', 'l', 'l']
  | .bool true => ['t', 'r', 'u', 'e']
  | .bool false => ['f', 'a', 'l', 's', 'e']
  | .int n => (toString n).toList
  | .float x => (x.render floatLayout).toList
  | .str s => stringChars st.asciiOnly s
  | .arr [] => ['[', ']']
  | .arr (x :: xs) =>
    '[' :: st.gap (depth + 1) ++ chars st (depth + 1) x ++ itemChars st (depth + 1) xs
      ++ st.gap depth ++ [']']
  | .obj [] => ['\x7b', '\x7d']
  | .obj ((k, v) :: ms) =>
    '\x7b' :: st.gap (depth + 1) ++ stringChars st.asciiOnly k ++ st.colon
      ++ chars st (depth + 1) v ++ memberChars st (depth + 1) ms ++ st.gap depth ++ ['\x7d']

def itemChars (st : Style) (depth : Nat) : List Json → List Char
  | [] => []
  | x :: xs => st.comma ++ st.gap depth ++ chars st depth x ++ itemChars st depth xs

def memberChars (st : Style) (depth : Nat) : List (String × Json) → List Char
  | [] => []
  | (k, v) :: ms =>
    st.comma ++ st.gap depth ++ stringChars st.asciiOnly k ++ st.colon ++ chars st depth v
      ++ memberChars st depth ms

end

def render (st : Style) (j : Json) : String := String.ofList (chars st 0 j)

end EventTracking.Json
