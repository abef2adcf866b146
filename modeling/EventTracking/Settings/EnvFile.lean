import EventTracking.Text.Blank

/-!
This module contains environment files: lines of names and values, with comments, quotes, escapes and
references to other names. A line that is malformed is passed over.
-/

namespace EventTracking.EnvFile

abbrev Binding := String × Option (List Char)

def isLineEnd (c : Char) : Bool := c == '\n' || c == '\r'

def isInlineBlank (c : Char) : Bool := Text.isBlank c && !isLineEnd c

def skipInline (cs : List Char) : List Char := cs.dropWhile isInlineBlank

def unifyLineEnds : List Char → List Char
  | [] => []
  | '\r' :: '\n' :: rest => '\n' :: unifyLineEnds rest
  | '\r' :: rest => '\n' :: unifyLineEnds rest
  | c :: rest => c :: unifyLineEnds rest

def nextLine (cs : List Char) : List Char := (cs.dropWhile (· != '\n')).drop 1

def skipExport (cs : List Char) : List Char :=
  let word := "export".toList
  if word.isPrefixOf cs && ((cs.drop word.length).head?.map isInlineBlank).getD false then
    skipInline (cs.drop word.length)
  else
    cs

/-- The characters up to a quote and what follows it. A backslash and what stands behind it are no quote. -/
def untilQuote (q : Char) : List Char → Option (List Char × List Char)
  | [] => none
  | '\\' :: c :: rest => (untilQuote q rest).map fun (v, tail) => ('\\' :: c :: v, tail)
  | c :: rest =>
    if c == q then some ([], rest)
    else (untilQuote q rest).map fun (v, tail) => (c :: v, tail)

def escaped? (q : Char) (c : Char) : Option Char :=
  if c == '\\' || c == '\'' then some c
  else if q == '\'' then none
  else if c == '"' then some c
  else if c == 'a' then some (Char.ofNat 7)
  else if c == 'b' then some (Char.ofNat 8)
  else if c == 'f' then some (Char.ofNat 12)
  else if c == 'n' then some '\n'
  else if c == 'r' then some '\r'
  else if c == 't' then some '\t'
  else if c == 'v' then some (Char.ofNat 11)
  else none

def unescape (q : Char) : List Char → List Char
  | [] => []
  | '\\' :: c :: rest =>
    match escaped? q c with
    | some x => x :: unescape q rest
    | none => '\\' :: unescape q (c :: rest)
  | c :: rest => c :: unescape q rest

def dropComment (blanks : List Char) : List Char → List Char
  | [] => blanks.reverse
  | c :: rest =>
    if Text.isBlank c then dropComment (c :: blanks) rest
    else if c == '#' && !blanks.isEmpty then []
    else blanks.reverse ++ c :: dropComment [] rest

def value? (cs : List Char) : Option (List Char × List Char) :=
  let (blanks, body) := cs.span isInlineBlank
  match body with
  | [] => some ([], [])
  | c :: rest =>
    if c == '\'' || c == '"' then
      (untilQuote c rest).map fun (v, tail) => (unescape c v, tail)
    else
      let (line, tail) := body.span (!isLineEnd ·)
      some (Text.strip Text.isBlank (dropComment blanks line), tail)

def name? (cs : List Char) : Option (Option (List Char) × List Char) :=
  match cs with
  | [] => none
  | c :: rest =>
    if c == '#' then some (none, cs)
    else if c == '\'' then
      let (name, tail) := rest.span (· != '\'')
      if name.isEmpty || tail.isEmpty then none else some (some name, tail.drop 1)
    else
      let (name, tail) := cs.span fun c => !(c == '=' || c == '#' || Text.isBlank c)
      if name.isEmpty then none else some (some name, tail)

def assignment? (cs : List Char) : Option (Option Binding × List Char) := do
  let (name?, tail) ← name? cs
  match skipInline tail with
  | '=' :: rest =>
    let (v, tail) ← value? rest
    return (name?.map fun n => (String.ofList n, some v), tail)
  | tail => return (name?.map fun n => (String.ofList n, none), tail)

def lineEnd? (cs : List Char) : Option (List Char) :=
  let body := skipInline cs
  let body := if body.head? == some '#' then body.dropWhile (!isLineEnd ·) else body
  match body with
  | [] => some []
  | c :: rest => if isLineEnd c then some rest else none

def readBindings : (fuel : Nat) → List Char → List Binding
  | 0, _ => []
  | fuel + 1, cs =>
    match cs.dropWhile Text.isBlank with
    | [] => []
    | cs =>
      let cs := skipExport cs
      match assignment? cs with
      | none => readBindings fuel (nextLine cs)
      | some (binding?, tail) =>
        match lineEnd? tail with
        | some rest => binding?.toList ++ readBindings fuel rest
        | none => readBindings fuel (nextLine tail)

def reference? (cs : List Char) : Option ((List Char × Option (List Char)) × List Char) :=
  let (name, tail) := cs.span fun c => !(c == '\x7d' || c == ':')
  match tail with
  | '\x7d' :: rest => some ((name, none), rest)
  | ':' :: '-' :: rest =>
    let (other, tail) := rest.span (· != '\x7d')
    match tail with
    | _ :: rest => some ((name, some other), rest)
    | [] => none
  | _ => none

def expand (lookup : String → Option (Option String)) : (fuel : Nat) → List Char → List Char
  | 0, cs => cs
  | _, [] => []
  | fuel + 1, '$' :: '\x7b' :: rest =>
    match reference? rest with
    | some ((name, other), tail) =>
      let found :=
        match lookup (String.ofList name) with
        | some v => ((v.map String.toList).getD [])
        | none => other.getD []
      found ++ expand lookup fuel tail
    | none => '$' :: '\x7b' :: expand lookup fuel rest
  | fuel + 1, c :: rest => c :: expand lookup fuel rest

def assign (name : String) (value : Option String) :
    List (String × Option String) → List (String × Option String)
  | [] => [(name, value)]
  | (n, v) :: rest => if n = name then (n, value) :: rest else (n, v) :: assign name value rest

def dropMark (cs : List Char) : List Char :=
  if cs.head? == some (Char.ofNat 0xFEFF) then cs.drop 1 else cs

/--
The names of an environment file with their values. A reference stands for an earlier name of the file
or else for one of the environment.
-/
def read (environment : List (String × String)) (text : String) : List (String × Option String) :=
  let cs := unifyLineEnds (dropMark text.toList)
  (readBindings (cs.length + 1) cs).foldl (fun acc (name, value?) =>
    let lookup (n : String) :=
      match acc.lookup n with
      | some v => some v
      | none => (environment.lookup n).map some
    assign name (value?.map fun v => String.ofList (expand lookup (v.length + 1) v)) acc) []

end EventTracking.EnvFile
