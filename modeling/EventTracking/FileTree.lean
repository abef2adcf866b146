/-!
This module contains files by their places, as they are seen from a working directory, and what keeps a
path from being used. There are no links between places.
-/

namespace EventTracking

structure Path where
  root : String
  steps : List String
  deriving DecidableEq, Repr

namespace Path

def up : String := ".."

/-- What a path begins with: two slashes are kept, and more than two count as one. -/
def rootOf (cs : List Char) : String :=
  match (cs.takeWhile (· == '/')).length with
  | 0 => ""
  | 2 => "//"
  | _ => "/"

def ofText (s : String) : Path :=
  let steps := (s.toList.splitOn '/').map String.ofList
  ⟨rootOf s.toList, steps.filter fun step => !step.isEmpty && step != "."⟩

def isAbsolute (p : Path) : Bool := !p.root.isEmpty

def text (p : Path) : String :=
  if !p.isAbsolute && p.steps.isEmpty then "." else p.root ++ "/".intercalate p.steps

def parent (p : Path) : Path := { p with steps := p.steps.dropLast }

end Path

inductive PathObstacle where
  | missing
  | isDirectory
  | notDirectory
  | nameTooLong
  | nullCharacter
  deriving DecidableEq, Repr

namespace PathObstacle

def kind : PathObstacle → String
  | .missing => "FileNotFoundError"
  | .isDirectory => "IsADirectoryError"
  | .notDirectory => "NotADirectoryError"
  | .nameTooLong => "OSError"
  | .nullCharacter => "ValueError"

def message : PathObstacle → String
  | .missing => "No such file or directory"
  | .isDirectory => "Is a directory"
  | .notDirectory => "Not a directory"
  | .nameTooLong => "File name too long"
  | .nullCharacter => "embedded null byte"

end PathObstacle

structure FileTree where
  here : List String
  /-- Directories besides the working directory, those above it and those with a file in them. -/
  directories : List (List String)
  files : List (List String × List UInt8)
  deriving DecidableEq, Repr

inductive Place where
  | directory
  | file (content : List UInt8)
  deriving DecidableEq, Repr

namespace FileTree

def empty : FileTree := ⟨[], [], []⟩

instance : Inhabited FileTree := ⟨empty⟩

def maxStep : Nat := 255

def maxPath : Nat := 4095

/-- Takes a step; one that leads up takes back the last one. Above the root is the root. -/
def step (taken : List String) (next : String) : List String :=
  if next == Path.up then taken.dropLast else taken ++ [next]

def start (p : Path) (t : FileTree) : List String := if p.isAbsolute then [] else t.here

def resolve (p : Path) (t : FileTree) : List String := p.steps.foldl step (t.start p)

def content? (place : List String) (t : FileTree) : Option (List UInt8) := t.files.lookup place

def isDirectory (place : List String) (t : FileTree) : Bool :=
  place.isPrefixOf t.here || t.directories.contains place
    || t.files.any fun f => place.isPrefixOf f.1 && place.length < f.1.length

def walk (t : FileTree) (place : List String) : List String → Except PathObstacle Place
  | [] => .ok .directory
  | next :: rest =>
    if maxStep < next.utf8ByteSize then .error .nameTooLong
    else
      let there := step place next
      if t.isDirectory there then walk t there rest
      else
        match t.content? there with
        | some content => if rest.isEmpty then .ok (.file content) else .error .notDirectory
        | none => .error .missing

def find (p : Path) (t : FileTree) : Except PathObstacle Place :=
  if p.steps.any fun step => step.toList.contains (Char.ofNat 0) then .error .nullCharacter
  else if maxPath < p.text.utf8ByteSize then .error .nameTooLong
  else t.walk (t.start p) p.steps

def without (place : List String) (t : FileTree) : FileTree :=
  { t with files := t.files.filter fun f => f.1 != place }

/-- Sets the content of a file. Only in a directory that is there a new file can be made. -/
def write (p : Path) (content : List UInt8) (t : FileTree) : Except PathObstacle FileTree := do
  let place := t.resolve p
  let written : FileTree := { t with files := (place, content) :: (t.without place).files }
  match t.find p with
  | .ok .directory => throw .isDirectory
  | .ok (.file _) => return written
  | .error .missing =>
    match ← t.find p.parent with
    | .directory => return written
    | .file _ => throw .notDirectory
  | .error o => throw o

def delete (p : Path) (t : FileTree) : Except PathObstacle FileTree := do
  match ← t.find p with
  | .directory => throw .isDirectory
  | .file _ => return t.without (t.resolve p)

end FileTree

end EventTracking
