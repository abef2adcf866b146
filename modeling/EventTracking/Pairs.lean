import EventTracking.Value

/-!
This module contains ordered key-value pairs. A key keeps the place at which it was first set, whatever
is written under it later.
-/

namespace EventTracking

abbrev Pairs := List (String × Value)

namespace Pairs

def get? (key : String) (ps : Pairs) : Option Value := ps.lookup key

/-- Sets a key: in place if it is there, else at the end. -/
def set (key : String) (value : Value) : Pairs → Pairs
  | [] => [(key, value)]
  | (k, v) :: rest => if k = key then (key, value) :: rest else (k, v) :: set key value rest

def erase (key : String) (ps : Pairs) : Pairs := ps.filter (·.1 ≠ key)

def setAll (more : Pairs) (ps : Pairs) : Pairs :=
  more.foldl (fun acc p => acc.set p.1 p.2) ps

def setNonNull (key : String) (value : Value) (ps : Pairs) : Pairs :=
  if value.isNull then ps else ps.set key value

def setAllNonNull (more : Pairs) (ps : Pairs) : Pairs :=
  more.foldl (fun acc p => acc.setNonNull p.1 p.2) ps

def keys (ps : Pairs) : List String := ps.map (·.1)

def ofEntries (es : List (Value × Value)) : Pairs :=
  es.filterMap fun (k, v) => k.text?.map (·, v)

theorem get?_set_self (key : String) (value : Value) (ps : Pairs) :
    (ps.set key value).get? key = some value := by
  induction ps with
  | nil => simp [set, get?]
  | cons p rest ih =>
    obtain ⟨k, v⟩ := p
    by_cases h : k = key
    · simp [set, get?, h]
    · have : (key == k) = false := by simpa using fun e => h e.symm
      simpa [set, get?, h, List.lookup_cons, this] using ih

theorem get?_set_of_ne {key other : String} (h : other ≠ key) (value : Value) (ps : Pairs) :
    (ps.set key value).get? other = ps.get? other := by
  induction ps with
  | nil =>
    have : (other == key) = false := by simpa using h
    simp [set, get?, List.lookup_cons, this]
  | cons p rest ih =>
    obtain ⟨k, v⟩ := p
    by_cases hk : k = key
    · subst hk
      have : (other == k) = false := by simpa using h
      simp [set, get?, List.lookup_cons, this]
    · simp only [set, hk, if_false]
      by_cases ho : other = k
      · simp [get?, ho]
      · have : (other == k) = false := by simpa using ho
        simpa [get?, List.lookup_cons, this] using ih

end Pairs

end EventTracking
