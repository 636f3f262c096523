import CommandChains.Failure
import CommandChains.Handle

/-!
# Facilities

A facility starts commands, each in a child of its own, and reports the ends of
children. Starting never blocks. The one blocking operation waits until some
child has ended and names it: nobody can choose which.

A facility promises patience: while it is asked for one particular child it may
report other children only so many times before it reports that child or fails.
Every wait for one child therefore comes to an end.
-/

namespace CommandChains

/-- What runs commands, over states `σ`. -/
structure Facility (σ : Type) where
  spawn : List String → σ → Except StartError Handle × σ
  waitAny : σ → Except WaitError Handle × σ
  /-- A bound on the other children that may be reported before a given one. -/
  patience : Handle → σ → Nat
  /-- Each report of another child uses up patience. -/
  patience_lt : ∀ {h r : Handle} {s s' : σ},
    waitAny s = (.ok r, s') → r ≠ h → patience h s' < patience h s

end CommandChains
