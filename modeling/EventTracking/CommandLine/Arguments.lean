/-!
This module contains the words of a command line: which of them are options, which are values of options
and which are left over.
-/

namespace EventTracking

structure Flag where
  long : String
  short : Char
  deriving DecidableEq, Repr

structure Arguments where
  options : List (String × String)
  words : List String

namespace Arguments

def addOption (f : Flag) (value : String) (a : Arguments) : Arguments :=
  { a with options := (f.long, value) :: a.options }

def addWord (word : String) (a : Arguments) : Arguments := { a with words := word :: a.words }

def valuesOf (name : String) (a : Arguments) : List String :=
  (a.options.filter (·.1 == name)).map (·.2)

/-- The value of an option; the last one counts. -/
def value? (name : String) (a : Arguments) : Option String := (a.valuesOf name).getLast?

def splitEquals (cs : List Char) : String × Option String :=
  let (name, rest) := cs.span (· != '=')
  (String.ofList name, if rest.isEmpty then none else some (String.ofList (rest.drop 1)))

def flag? (flags : List Flag) (word : String) : Option (Flag × Option String) :=
  match word.toList with
  | '-' :: '-' :: cs =>
    let (name, value) := splitEquals cs
    (flags.find? (·.long == name)).map (·, value)
  | '-' :: c :: cs =>
    (flags.find? (·.short == c)).map (·, if cs.isEmpty then none else some (String.ofList cs))
  | _ => none

def isOption (word : String) : Bool := word.length > 1 && word.toList.head? == some '-'

def read? (flags : List Flag) : List String → Option Arguments
  | [] => some ⟨[], []⟩
  | word :: rest =>
    if word = "--" then some ⟨[], rest⟩
    else if !isOption word then (read? flags rest).map (addWord word)
    else
      match flag? flags word, rest with
      | none, _ => none
      | some (f, some value), rest => (read? flags rest).map (addOption f value)
      | some (f, none), value :: rest => (read? flags rest).map (addOption f value)
      | some (_, none), [] => none

end Arguments

end EventTracking
