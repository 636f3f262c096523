import Mathlib.Data.Finset.Card
import CommandChains.Proofs.Facility.Scripted

/-!
# The credit of a facility

To wait for one child is to go past the ends of others, and nothing in the wait itself says
how often. What bounds it is a credit on the states of the facility: each answer that names a
child takes from it, and only a start adds to it (`Facility.Spends`). The credit outlives the
single wait, so it also bounds all the waits of a session together: what one wait has spent
the next one cannot spend again.

The credit of a scripted facility counts its outstanding children and the strangers, the waits
still to come whose answer is set to a handle.
-/

namespace CommandChains

variable {σ : Type}

/-- A credit that pays for the handles that a facility names. -/
structure Facility.Spends (F : Facility σ) (credit : σ → Nat) : Prop where
  start : ∀ {s t argv answer}, F.spawn argv s = (answer, t) → credit t ≤ credit s + 1
  /-- A wait that names a child takes something. -/
  named : ∀ {s t r}, F.waitAny s = (.ok r, t) → credit t < credit s
  failed : ∀ {s t e}, F.waitAny s = (.error e, t) → credit t ≤ credit s

/-- From any state on, children are named only as often as the credit allows. -/
theorem Facility.Spends.length_le {F : Facility σ} {credit : σ → Nat} (spends : F.Spends credit)
    {s t : σ} {named : List Handle} (trace : F.Trace s (named.map fun r => .wait (.ok r)) t) :
    named.length + credit t ≤ credit s := by
  induction named generalizing s with
  | nil =>
    cases trace
    simp
  | cons r rest ih =>
    cases trace with
    | wait answered after =>
      have less := spends.named answered
      have more := ih after
      rw [List.length_cons]
      omega

/-- A wait for one child asks once more than the credit allows at most: the last answer may
be a failure, and nothing pays for that. -/
theorem Facility.Spends.length_waits_le {F : Facility σ} {credit : σ → Nat}
    (spends : F.Spends credit) {s t : σ} {h : Handle} {calls : List Call}
    (waits : WaitsFor h calls) (trace : F.Trace s calls t) : calls.length ≤ credit s + 1 := by
  induction waits generalizing s with
  | ended => simp
  | failed e => simp
  | other _ _ ih =>
    cases trace with
    | wait answered after =>
      have less := spends.named answered
      have more := ih after
      rw [List.length_cons]
      omega

namespace Scripted

variable {p : Plan} {s t : State} {n : Nat}

/-- The waits after the first `n` at which a stranger is named. -/
def Plan.strangers (p : Plan) (n : Nat) : Finset Nat :=
  (p.waits.map Prod.fst).toFinset.filter fun i =>
    n < i ∧ (p.waits.lookup i).any WaitAnswer.isForeign = true

theorem Plan.strangers_succ_subset (p : Plan) (n : Nat) : p.strangers (n + 1) ⊆ p.strangers n := by
  intro i
  simp only [strangers, Finset.mem_filter]
  exact fun ⟨set, later, foreign⟩ => ⟨set, by omega, foreign⟩

theorem Plan.mem_strangers_succ {r : Handle} (set : p.waits.lookup (n + 1) = some (.foreign r)) :
    n + 1 ∈ p.strangers n := by
  have listed : n + 1 ∈ p.waits.map Prod.fst := by
    by_contra missing
    rw [List.lookup_eq_none_iff.2 fun w mem => by
      simpa using fun same => missing (List.mem_map.2 ⟨w, mem, same.symm⟩)] at set
    cases set
  simp [strangers, listed, set, WaitAnswer.isForeign]

/-- The wait at which a stranger is named is over afterwards. -/
theorem Plan.card_strangers_succ_lt {r : Handle}
    (set : p.waits.lookup (n + 1) = some (.foreign r)) :
    (p.strangers (n + 1)).card < (p.strangers n).card := by
  refine Finset.card_lt_card ⟨p.strangers_succ_subset n, fun back => ?_⟩
  have again := back (Plan.mem_strangers_succ set)
  simp [strangers] at again

/-- The handles that waits can still name: those of the outstanding children, and those of the
strangers. -/
def State.credit (p : Plan) (s : State) : Nat :=
  s.outstanding.length + (p.strangers s.waits).card

/-- A scripted facility names no more handles than it has. -/
theorem spends (p : Plan) : (facility p).Spends (State.credit p) where
  start {s t argv answer} answered := by
    obtain ⟨_, _, rfl⟩ | ⟨_, rfl⟩ := spawn_cases answered
    · omega
    · simp only [State.credit, State.start, List.length_append, List.length_singleton]
      omega
  named {s t r} answered := by
    obtain ⟨set, found, same, rfl⟩ | ⟨_, no, _⟩ | ⟨child, mem, _, rfl⟩ := waitAny_cases answered
    · cases set with
      | foreign other => exact Nat.add_lt_add_left (Plan.card_strangers_succ_lt found) _
      | failure e => cases same
    · cases no
    · have fewer := Finset.card_le_card (p.strangers_succ_subset s.waits)
      have some_ := List.length_pos_of_mem mem
      have left := List.length_erase_of_mem mem
      simp only [State.credit, State.reap, State.asked] at *
      omega
  failed {s t e} answered := by
    have fewer := Finset.card_le_card (p.strangers_succ_subset s.waits)
    obtain ⟨_, _, _, rfl⟩ | ⟨_, _, rfl⟩ | ⟨_, _, no, _⟩ := waitAny_cases answered
    · exact Nat.add_le_add_left fewer _
    · exact Nat.add_le_add_left fewer _
    · cases no

end Scripted

end CommandChains
