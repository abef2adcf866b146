import EventTracking.Settings

/-!
This module contains the settings that a whole program shares. They are made when they are first asked
for, and made anew only when values to override them are given.
-/

namespace EventTracking.Settings

structure Made where
  serial : Nat
  settings : Settings

structure Shared where
  current : Option Made
  count : Nat

namespace Shared

def initial : Shared := ⟨none, 0⟩

instance : Inhabited Shared := ⟨initial⟩

def reset (s : Shared) : Shared := { s with current := none }

/-- The shared settings, made from the sources if there are none or if the sources override some. -/
def get (sources : Sources) (s : Shared) : Except Fault (Made × Shared) :=
  match s.current with
  | some made => if sources.explicit.isEmpty then .ok (made, s) else renew
  | none => renew
where
  renew : Except Fault (Made × Shared) :=
    match load sources with
    | .ok settings =>
      let made : Made := ⟨s.count, settings⟩
      .ok (made, ⟨some made, s.count + 1⟩)
    | .error f => .error f

end Shared

end EventTracking.Settings
