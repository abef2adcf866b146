import EventTracking.Base64
import EventTracking.FileTree
import EventTracking.Json.Nesting
import EventTracking.Text.Quoted
import EventTracking.Validation

/-!
This module contains everything that can go wrong, by its cause, together with the kind and the message
under which it is reported.
-/

namespace EventTracking

inductive Fault where
  | raised (kind message : String)
  | arity (callable : String) (e : ArityError)
  | sealed (operation : String)
  | notData (o : Json.Obstacle)
  | base64 (e : Base64.DecodeError)
  | nestedTooDeep (bracket : Json.Bracket)
  | invalid (violations : List Violation)
  | notIterable (kind : String)
  | notCallable (kind : String)
  | tooManyParts (container : String) (given : Nat)
  | entryWithoutParts (index : Nat)
  | entryNotPair (index length : Nat)
  | unhashable (kind : String)
  | noMember (kind member : String)
  | unbound (member : String)
  | notNumeric (kind : String)
  | notRoundable (kind : String)
  | notInteger (base : Nat) (text : String)
  | integerTooLong (digits : Nat)
  | integerNotWritable
  | integerOfNan
  | integerOfInfinity
  | unknownLevel (name : String)
  | badLevel (text : String)
  | missingArgument (names : List String)
  | unexpectedArgument (name : String)
  | notAnObject (source kind : String)
  | notYaml
  | badScalar (kind message : String)
  | fileMissing (path : String)
  | notPath (kind : String)
  | unusablePath (obstacle : PathObstacle)
  | fileNotText
  | unknownEncoding (name : String)
  | notText (kind : String)
  | secretsNotInDirectory
  | noAttribute (name : String)
  deriving DecidableEq, Repr

namespace Fault

def kind : Fault → String
  | .raised kind _ => kind
  | .arity .. => "TypeError"
  | .sealed _ => "PayloadAlreadyBuiltError"
  | .notData o => o.kind
  | .base64 .notAscii => "ValueError"
  | .base64 .notUtf8 => "UnicodeDecodeError"
  | .base64 _ => "Error"
  | .nestedTooDeep _ => "RecursionError"
  | .invalid _ => "ValidationError"
  | .notIterable _ => "TypeError"
  | .notCallable _ => "TypeError"
  | .tooManyParts .. => "TypeError"
  | .entryWithoutParts _ => "TypeError"
  | .entryNotPair .. => "ValueError"
  | .unhashable _ => "TypeError"
  | .noMember .. => "AttributeError"
  | .unbound _ => "TypeError"
  | .notNumeric _ => "TypeError"
  | .notRoundable _ => "TypeError"
  | .notInteger .. => "ValueError"
  | .integerTooLong _ => "ValueError"
  | .integerNotWritable => "ValueError"
  | .integerOfNan => "ValueError"
  | .integerOfInfinity => "OverflowError"
  | .unknownLevel _ => "KeyError"
  | .badLevel _ => "ValueError"
  | .missingArgument _ => "TypeError"
  | .unexpectedArgument _ => "TypeError"
  | .notAnObject .. => "TypeError"
  | .notYaml => "YAMLError"
  | .badScalar kind _ => kind
  | .fileMissing _ => "FileNotFoundError"
  | .notPath _ => "TypeError"
  | .unusablePath o => o.kind
  | .fileNotText => "UnicodeDecodeError"
  | .unknownEncoding _ => "LookupError"
  | .notText _ => "TypeError"
  | .secretsNotInDirectory => "SettingsError"
  | .noAttribute _ => "AttributeError"

/-- A missing key is reported by its quoted text. -/
def raisedMessage (kind message : String) : String :=
  if kind == "KeyError" then Text.quote message else message

def maxQuoted : Nat := 200

def startOf (n : Nat) (s : String) : String := String.ofList (s.toList.take n)

def message : Fault → String
  | .raised kind message => raisedMessage kind message
  | .arity callable e => e.message callable
  | .sealed operation =>
    "Cannot call " ++ operation ++ "() on a payload builder that has already been built"
  | .notData o => o.message
  | .base64 e => e.message
  | .nestedTooDeep bracket =>
    "maximum recursion depth exceeded while decoding a JSON " ++ bracket.kind ++ " from a unicode string"
  | .invalid vs => toString vs.length ++ " validation errors"
  | .notIterable kind => "'" ++ kind ++ "' object is not iterable"
  | .notCallable kind => "'" ++ kind ++ "' object is not callable"
  | .tooManyParts container n => container ++ " expected at most 1 argument, got " ++ toString n
  | .entryWithoutParts i =>
    "cannot convert dictionary update sequence element #" ++ toString i ++ " to a sequence"
  | .entryNotPair i n =>
    "dictionary update sequence element #" ++ toString i ++ " has length " ++ toString n
      ++ "; 2 is required"
  | .unhashable kind => "unhashable type: '" ++ kind ++ "'"
  | .noMember kind member => "'" ++ kind ++ "' object has no attribute '" ++ member ++ "'"
  | .notNumeric kind =>
    "int() argument must be a string, a bytes-like object or a real number, not '" ++ kind ++ "'"
  | .notRoundable kind => "type " ++ kind ++ " doesn't define __round__ method"
  | .unbound member => "unbound method dict." ++ member ++ "() needs an argument"
  | .notInteger base text =>
    "invalid literal for int() with base " ++ toString base ++ ": " ++ startOf maxQuoted (Text.quote text)
  | .integerTooLong n => Text.tooManyDigits (": value has " ++ toString n ++ " digits")
  | .integerNotWritable => Text.tooManyDigits ""
  | .integerOfNan => "cannot convert float NaN to integer"
  | .integerOfInfinity => "cannot convert float infinity to integer"
  | .unknownLevel name => Text.quote name
  | .badLevel text => text ++ " is not a valid LogLevel"
  | .missingArgument names => "missing required arguments: " ++ ", ".intercalate names
  | .unexpectedArgument name => "unexpected argument '" ++ name ++ "'"
  | .notAnObject source kind =>
    "Expected a mapping at the root of " ++ source ++ ", got " ++ kind
  | .notYaml => "malformed document"
  | .badScalar _ message => message
  | .fileMissing path => "Context manifest not found: " ++ path
  | .notPath kind => "expected str, bytes or os.PathLike object, not " ++ kind
  | .unusablePath o => o.message
  | .fileNotText => "invalid utf-8"
  | .unknownEncoding name => "unknown encoding: " ++ name
  | .notText kind => "expected a text, not " ++ kind
  | .secretsNotInDirectory => "secrets_dir must reference a directory, not a file"
  | .noAttribute name => "module 'trackercore' has no attribute " ++ Text.quote name

/--
Whether a fault ends the program rather than being an error that a caller may set aside: the two
requests to stop.
-/
def interrupts : Fault → Bool
  | .raised kind _ => kind == "KeyboardInterrupt" || kind == "SystemExit"
  | _ => false

end Fault

end EventTracking
