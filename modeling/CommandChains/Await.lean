import CommandChains.World

/-!
# Waiting for one child

A facility can only be asked for the end of some child. To wait for one child it
is asked again and again, until it names that child or fails. The ends of other
children that come up meanwhile are discarded: a child that ends during the wait
for another one is never heard of again.
-/

namespace CommandChains

variable {σ : Type}

/-- Waits for the child with a given handle. Every answer of the facility is
logged, save a failing one, which is the result. -/
def await {ε : Type} (F : Facility σ) (h : Handle) :
    Activity (World σ) ε (Except WaitError Unit) := fun w =>
  match answer : F.waitAny w.facility with
  | (.error e, s) => ⟨.ok (.error e), { w with facility := s }, [.waited (.error e)]⟩
  | (.ok r, s) =>
    if other : r = h then
      ⟨.ok (.ok ()), { w with facility := s }, [.waited (.ok r), .logged (.awaited h)]⟩
    else
      have : F.patience h s < F.patience h w.facility := F.patience_lt answer other
      let rest := await F h { w with facility := s }
      ⟨rest.result, rest.state,
        .waited (.ok r) :: .logged (.discarded h r) :: rest.journal⟩
termination_by w => F.patience h w.facility

section

variable {ε : Type} {F : Facility σ} {h r : Handle} {w : World σ} {s : σ}

theorem await_of_error {e : WaitError} (answer : F.waitAny w.facility = (.error e, s)) :
    await F h w =
      (⟨.ok (.error e), { w with facility := s }, [.waited (.error e)]⟩ : Run _ ε _) := by
  rw [await]
  split
  · next found => rw [answer] at found; cases found; rfl
  · next found => rw [answer] at found; cases found

theorem await_of_same (answer : F.waitAny w.facility = (.ok h, s)) :
    await F h w =
      (⟨.ok (.ok ()), { w with facility := s }, [.waited (.ok h), .logged (.awaited h)]⟩ :
        Run _ ε _) := by
  rw [await]
  split
  · next found => rw [answer] at found; cases found
  · next found => rw [answer] at found; cases found; simp

theorem await_of_other (answer : F.waitAny w.facility = (.ok r, s)) (other : r ≠ h) :
    (await F h w : Run _ ε _) =
      let rest : Run _ ε _ := await F h { w with facility := s }
      ⟨rest.result, rest.state,
        .waited (.ok r) :: .logged (.discarded h r) :: rest.journal⟩ := by
  rw [await]
  split
  · next found => rw [answer] at found; cases found
  · next found => rw [answer] at found; cases found; simp [other]

end

/-- Waits for a child and goes on in any case. A wait that fails is logged. -/
def awaitOrWarn {ε : Type} (F : Facility σ) (h : Handle) : Activity (World σ) ε Unit := do
  match ← await F h with
  | .ok () => pure ()
  | .error e => Activity.log (.gaveUp h e)

end CommandChains
