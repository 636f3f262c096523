/-!
# Handles

A handle names a child that a facility has started. Zero is no handle.
-/

namespace CommandChains

/-- The name of a child. -/
structure Handle where
  number : Nat
  number_pos : 0 < number
  deriving DecidableEq, Repr

namespace Handle

def ofNat? (n : Nat) : Option Handle :=
  if h : 0 < n then some ⟨n, h⟩ else none

/-- The handle of the `n`-th child, counted from zero. -/
def ofIndex (n : Nat) : Handle :=
  ⟨n + 1, Nat.succ_pos n⟩

def text (h : Handle) : String :=
  toString h.number

@[ext] theorem ext {a b : Handle} (h : a.number = b.number) : a = b := by
  cases a; cases b; cases h; rfl

@[simp] theorem ofNat?_zero : ofNat? 0 = none := rfl

/-- The handles that occur, each once, in ascending order. -/
def distinct (handles : List Handle) : List Handle :=
  handles.eraseDups.mergeSort fun a b => decide (a.number ≤ b.number)

end Handle

end CommandChains
