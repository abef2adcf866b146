/-!
This module contains texts as they are shown where no terminal interprets them: without the sequences
that control one.
-/

namespace EventTracking.Terminal

def escape : Char := Char.ofNat 0x1B

def isParameter (c : Char) : Bool := 0x30 ≤ c.toNat && c.toNat ≤ 0x3F

def isIntermediate (c : Char) : Bool := 0x20 ≤ c.toNat && c.toNat ≤ 0x2F

def isFinal (c : Char) : Bool := 0x40 ≤ c.toNat && c.toNat ≤ 0x7E

def goesOn (last c : Char) : Bool := isIntermediate c || (isParameter c && !isIntermediate last)

def start (c : Char) : List Char × List Char := if c == escape then ([], [c]) else ([c], [])

/--
What a character shows and holds back behind held characters, the latest first, which may be the
beginning of a control sequence.
-/
def step (held : List Char) (c : Char) : List Char × List Char :=
  let (shown, next) := start c
  match held with
  | [] => (shown, next)
  | [_] => if c == '[' then ([], c :: held) else (held.reverse ++ shown, next)
  | last :: _ =>
    if goesOn last c then ([], c :: held)
    else if isFinal c then ([], [])
    else (held.reverse ++ shown, next)

def plainChars (held : List Char) : List Char → List Char
  | [] => held.reverse
  | c :: rest =>
    let (shown, held) := step held c
    shown ++ plainChars held rest

def plain (s : String) : String := String.ofList (plainChars [] s.toList)

theorem plainChars_of_not_mem {cs : List Char} (h : escape ∉ cs) : plainChars [] cs = cs := by
  induction cs with
  | nil => rfl
  | cons c rest ih =>
    have hc : c ≠ escape := fun e => h (by simp [e])
    have hr : escape ∉ rest := fun e => h (List.mem_cons_of_mem c e)
    simp [plainChars, step, start, hc, ih hr]

end EventTracking.Terminal
