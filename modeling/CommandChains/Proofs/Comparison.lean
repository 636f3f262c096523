import Mathlib.Data.List.Forall2
import CommandChains.Activity

/-!
# Two activities side by side

Two performances are compared in three respects: their results are to be equal, the states
after them are to be in some relation `R`, and their journals in some relation `J`. What
counts in a journal depends on the comparison, so `J` is left open. It only has to go through
sequences (`Journal.Congruence`).

`Activity.Related R J` says that two activities, performed in states related by `R`, compare
in this way. It is kept by all the ways in which activities are put together, so it is enough
to see it in single steps.

One such comparison is by outward journals: what was written and flushed, what was fetched,
which commands were handed over and with what answers. Waits and records do not count.
-/

namespace CommandChains

/-- A way to compare journals that goes through sequences. -/
structure Journal.Congruence (J : Journal → Journal → Prop) : Prop where
  refl : ∀ j, J j j
  append : ∀ {a a' b b'}, J a a' → J b b' → J (a ++ b) (a' ++ b')

/-- Two performances with the same result, related states and related journals. -/
structure Run.Related {S S' ε α : Type} (R : S → S' → Prop) (J : Journal → Journal → Prop)
    (r : Run S ε α) (r' : Run S' ε α) : Prop where
  result : r.result = r'.result
  state : R r.state r'.state
  journal : J r.journal r'.journal

namespace Activity

variable {S S' T T' ε ε' α β ι : Type} {R : S → S' → Prop} {J : Journal → Journal → Prop}

/-- Two activities whose performances from related states are related. -/
def Related (R : S → S' → Prop) (J : Journal → Journal → Prop) (a : Activity S ε α)
    (a' : Activity S' ε α) : Prop :=
  ∀ s s', R s s' → (a s).Related R J (a' s')

/-- What is done on the one side is done on the other, with the same result. -/
theorem Related.performed {a : Activity S ε α} {a' : Activity S' ε α} (h : Related R J a a')
    {s t : S} {s' : S'} (related : R s s') {result : Except ε α} {j : Journal}
    (performed : a s = ⟨result, t, j⟩) :
    ∃ t' j', a' s' = ⟨result, t', j'⟩ ∧ R t t' ∧ J j j' := by
  have both := h s s' related
  rw [performed] at both
  rcases performed' : a' s' with ⟨result', t', j'⟩
  rw [performed'] at both
  obtain ⟨same, state, journal⟩ := both
  cases same
  exact ⟨t', j', rfl, state, journal⟩

theorem related_pure (congruence : Journal.Congruence J) (x : α) :
    Related R J (pure x : Activity S ε α) (pure x) :=
  fun _ _ related => ⟨rfl, related, congruence.refl []⟩

theorem related_log (congruence : Journal.Congruence J) (r : Log.Record) :
    Related R J (log r : Activity S ε Unit) (log r) :=
  fun _ _ related => ⟨rfl, related, congruence.refl _⟩

theorem Related.bind (congruence : Journal.Congruence J) {a : Activity S ε α}
    {a' : Activity S' ε α} {f : α → Activity S ε β} {f' : α → Activity S' ε β}
    (first : Related R J a a') (second : ∀ x, Related R J (f x) (f' x)) :
    Related R J (a >>= f) (a' >>= f') := by
  intro s s' related
  rcases performed : a s with ⟨result, t, j⟩
  obtain ⟨t', j', performed', state, journal⟩ := first.performed related performed
  cases result with
  | error e =>
    rw [bind_run_error performed, bind_run_error performed']
    exact ⟨rfl, state, journal⟩
  | ok x =>
    rw [bind_run_ok performed, bind_run_ok performed']
    have rest := second x t t' state
    exact ⟨rest.result, rest.state, congruence.append journal rest.journal⟩

theorem Related.mapError {a : Activity S ε α} {a' : Activity S' ε α} (h : Related R J a a')
    (f : ε → ε') : Related R J (a.mapError f) (a'.mapError f) := by
  intro s s' related
  have inner := h s s' related
  exact ⟨congrArg (Except.mapError f) inner.result, inner.state, inner.journal⟩

theorem Related.within {Q : T → T' → Prop} {a : Activity T ε α} {a' : Activity T' ε α}
    (h : Related Q J a a') {part : S → T} {part' : S' → T'} {replace : T → S → S}
    {replace' : T' → S' → S'} (before : ∀ s s', R s s' → Q (part s) (part' s'))
    (after : ∀ s s' t t', R s s' → Q t t' → R (replace t s) (replace' t' s')) :
    Related R J (a.within part replace) (a'.within part' replace') := by
  intro s s' related
  have inner := h _ _ (before s s' related)
  exact ⟨inner.result, after _ _ _ _ related inner.state, inner.journal⟩

/-- One activity compares with itself on equal states. -/
theorem related_self (congruence : Journal.Congruence J) (a : Activity S ε α) :
    Related Eq J a a := by
  rintro s _ rfl
  exact ⟨rfl, rfl, congruence.refl _⟩

/-- Series of related activities are related, one performance after the other. -/
theorem Related.series {f : ι → Activity S ε α} {f' : ι → Activity S' ε α}
    (related : ∀ x, Related R J (f x) (f' x)) (items : List ι) {s : S} {s' : S'}
    (start : R s s') :
    List.Forall₂ (Run.Related R J) (Activity.series f items s) (Activity.series f' items s') := by
  induction items generalizing s s' with
  | nil => exact .nil
  | cons x rest ih =>
    have first := related x s s' start
    exact .cons first (ih first.state)

/-- Whatever can be told from related performances is the same all along a series. -/
theorem Related.map_series_eq {γ : Type} {f : ι → Activity S ε α} {f' : ι → Activity S' ε α}
    {view : Run S ε α → γ} {view' : Run S' ε α → γ} (related : ∀ x, Related R J (f x) (f' x))
    (seen : ∀ {r r'}, Run.Related R J r r' → view r = view' r') (items : List ι) {s : S} {s' : S'}
    (start : R s s') :
    (Activity.series f items s).map view = (Activity.series f' items s').map view' := by
  rw [← List.forall₂_eq_eq_eq, List.forall₂_map_left_iff, List.forall₂_map_right_iff]
  exact (Related.series related items start).imp fun _ _ => seen

end Activity

/-! ## Outward journals -/

/-- Whether an entry is more than a wait or a record. -/
def Entry.isOutward : Entry → Bool
  | .waited _ => false
  | .logged _ => false
  | _ => true

namespace Journal

/-- A journal without its waits and records. -/
def outward (j : Journal) : Journal :=
  j.filter Entry.isOutward

@[simp] theorem outward_append (a b : Journal) : outward (a ++ b) = outward a ++ outward b :=
  List.filter_append ..

def SameOutward (j j' : Journal) : Prop :=
  j.outward = j'.outward

theorem congruence_sameOutward : Congruence SameOutward where
  refl _ := rfl
  append first second := by rw [SameOutward, outward_append, outward_append, first, second]

/-- The bytes written can be seen outwardly. -/
theorem output_outward (j : Journal) : output (outward j) = output j := by
  induction j with
  | nil => rfl
  | cons e rest ih =>
    simp only [output, outward] at ih
    cases e <;> simp [output, outward, List.filter_cons, Entry.isOutward, Entry.bytes, ih]

theorem flushMarks_outward (total : Nat) (j : Journal) :
    flushMarks total (outward j) = flushMarks total j := by
  induction j generalizing total with
  | nil => rfl
  | cons e rest ih =>
    simp only [outward] at ih
    cases e <;> simp [flushMarks, outward, List.filter_cons, Entry.isOutward, ih]

end Journal

end CommandChains
