/-!
This module contains the signatures of callables: how many positional arguments a signature takes, when
a call with positional arguments fits it, and what is said when it does not.
-/

namespace EventTracking

inductive ParameterKind where
  | positionalOnly
  | positionalOrKeyword
  | variadic
  | keywordOnly
  | keywords
  deriving DecidableEq, Repr

structure Parameter where
  name : String
  kind : ParameterKind
  hasDefault : Bool
  deriving DecidableEq, Repr

abbrev Signature := List Parameter

inductive ArityError where
  | tooMany (least most given : Nat)
  | missingPositional (names : List String)
  | missingKeyword (names : List String)
  deriving DecidableEq, Repr

namespace Parameter

def isPositional (p : Parameter) : Bool :=
  p.kind == .positionalOnly || p.kind == .positionalOrKeyword

end Parameter

namespace Signature

def positional (s : Signature) : List Parameter := s.filter Parameter.isPositional

def required (s : Signature) : List Parameter := s.positional.filter (!·.hasDefault)

def requiredKeywords (s : Signature) : List Parameter :=
  s.filter fun p => p.kind == .keywordOnly && !p.hasDefault

def isVariadic (s : Signature) : Bool := s.any (·.kind == .variadic)

/--
What an object that can be called shows of the signature of its calls: the first parameter stands for the
object itself. There is nothing to show if no positional parameter is left for it.
-/
def ofObject? : Signature → Option Signature
  | [] => none
  | p :: rest =>
    match p.kind with
    | .variadic => some (p :: rest)
    | .keywordOnly | .keywords => none
    | _ => some rest

def accepted (s : Signature) (offered : Nat) : Nat :=
  if s.isVariadic then offered else min s.positional.length offered

/--
Whether a call with positional arguments fits. Too many arguments are found before missing ones, and
missing positional ones before missing keyword ones.
-/
def bind (s : Signature) (given : Nat) : Except ArityError Unit :=
  let most := s.positional.length
  let missing := ((s.positional.drop given).filter (!·.hasDefault)).map (·.name)
  let keywords := s.requiredKeywords.map (·.name)
  if most < given && !s.isVariadic then .error (.tooMany s.required.length most given)
  else if !missing.isEmpty then .error (.missingPositional missing)
  else if !keywords.isEmpty then .error (.missingKeyword keywords)
  else .ok ()

def fitsOneArgument (s : Signature) : Bool :=
  s.required.length ≤ 1 && s.requiredKeywords.isEmpty

end Signature

namespace ArityError

def enumerate : List String → String
  | [] => ""
  | [a] => "'" ++ a ++ "'"
  | [a, b] => "'" ++ a ++ "' and '" ++ b ++ "'"
  | names =>
    let quoted := names.map fun n => "'" ++ n ++ "'"
    ", ".intercalate quoted.dropLast ++ ", and " ++ (quoted.getLast?.getD "")

def plural (n : Nat) : String := if n = 1 then "" else "s"

def missing (callable kind : String) (names : List String) : String :=
  callable ++ "() missing " ++ toString names.length ++ " required " ++ kind ++ " argument"
    ++ plural names.length ++ ": " ++ enumerate names

def message (callable : String) : ArityError → String
  | .tooMany least most given =>
    let (range, ending) :=
      if least = most then (toString most, plural most)
      else ("from " ++ toString least ++ " to " ++ toString most, "s")
    callable ++ "() takes " ++ range ++ " positional argument" ++ ending ++ " but "
      ++ toString given ++ (if given = 1 then " was" else " were") ++ " given"
  | .missingPositional names => missing callable "positional" names
  | .missingKeyword names => missing callable "keyword-only" names

end ArityError

end EventTracking
