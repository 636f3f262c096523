import CommandChains.Activity

/-!
# Activities in sequence

Activities obey the laws of sequencing: doing nothing first or last changes
nothing, and how a sequence is grouped does not matter.

`Activity.Succeeds P` says that an activity, performed where `P` holds, ends with a
value and leaves `P` standing. A sequence of such activities is one.
-/

namespace CommandChains.Activity

variable {S ε α β : Type}

instance : LawfulMonad (Activity S ε) := .mk' _
  (by
    intro α a
    funext s
    change (a >>= fun x => pure (id x)) s = a s
    rcases performed : a s with ⟨result, t, j⟩
    cases result with
    | error e => exact bind_run_error performed _
    | ok x => simp [bind_run_ok performed])
  (by
    intro α β x f
    funext s
    simp [bind_run])
  (by
    intro α β γ a f g
    funext s
    simp only [bind_run]
    rcases a s with ⟨result, t, j⟩
    cases result with
    | error e => rfl
    | ok x =>
      dsimp only
      rcases f x t with ⟨next, u, k⟩
      cases next with
      | error e => rfl
      | ok y => simp)

/-- Where `P` holds, the activity ends with a value, and `P` still holds. -/
def Succeeds (P : S → Prop) (a : Activity S ε α) : Prop :=
  ∀ s, P s → (∃ x, (a s).result = .ok x) ∧ P (a s).state

theorem succeeds_pure {P : S → Prop} (x : α) : (pure x : Activity S ε α).Succeeds P :=
  fun _ holds => ⟨⟨x, rfl⟩, holds⟩

theorem Succeeds.bind {P : S → Prop} {a : Activity S ε α} {f : α → Activity S ε β}
    (first : a.Succeeds P) (second : ∀ x, (f x).Succeeds P) : (a >>= f).Succeeds P := by
  intro s holds
  obtain ⟨⟨x, result⟩, kept⟩ := first s holds
  rcases performed : a s with ⟨r, t, j⟩
  rw [performed] at result kept
  subst result
  rw [bind_run_ok performed]
  exact second x t kept

@[simp] theorem length_series {ι : Type} (f : ι → Activity S ε α) (items : List ι) (s : S) :
    (series f items s).length = items.length := by
  induction items generalizing s with
  | nil => rfl
  | cons x rest ih => exact congrArg (· + 1) (ih _)

end CommandChains.Activity
