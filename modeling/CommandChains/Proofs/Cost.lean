import CommandChains.Proofs.Chain.Run
import CommandChains.Proofs.Facility.Credit

/-!
# What activities cost

All that an activity does is in its journal, so an activity that goes on for long has a long
journal. Here the lengths of journals are bounded, and with them everything that is done: what
is written, asked for, awaited and logged.

A wait may be long, but it pays for what it does out of the credit of the facility. So the
bounds are amortized: an activity `Costs` a charge if its journal and the credit that it leaves
are together no more than the credit before and the charge. Charges add up in sequence, whoever
has spent the credit.
-/

namespace CommandChains

variable {σ : Type}

namespace Activity

variable {S T ε ε' α β : Type} {credit : S → Nat} {m n : Nat}

/-- The journal of an activity is paid for by a charge and by what is taken from the credit. -/
def Costs (credit : S → Nat) (charge : Nat) (a : Activity S ε α) : Prop :=
  ∀ s, (a s).journal.length + credit (a s).state ≤ credit s + charge

theorem Costs.mono {a : Activity S ε α} (h : a.Costs credit m) (le : m ≤ n) :
    a.Costs credit n := fun s =>
  (h s).trans (Nat.add_le_add_left le _)

theorem Costs.length_le {a : Activity S ε α} (h : a.Costs credit n) (s : S) :
    (a s).journal.length ≤ credit s + n :=
  Nat.le_of_add_right_le (h s)

/-- What gives a value and does nothing is paid for by any charge. -/
theorem costs_pure (x : α) (n : Nat) : (pure x : Activity S ε α).Costs credit n := by
  intro s
  simp

theorem costs_log (r : Log.Record) : (log r : Activity S ε Unit).Costs credit 1 := by
  intro s
  simp [Nat.add_comm]

theorem costs_state : (state : Activity S ε S).Costs credit 0 := by
  intro s
  simp

theorem costs_update {f : S → S} (kept : ∀ s, credit (f s) = credit s) :
    (update f : Activity S ε Unit).Costs credit 0 := by
  intro s
  simp [kept]

theorem Costs.bind {a : Activity S ε α} {f : α → Activity S ε β} (first : a.Costs credit m)
    (second : ∀ x, (f x).Costs credit n) : (a >>= f).Costs credit (m + n) := by
  intro s
  have start := first s
  rcases performed : a s with ⟨result, t, j⟩
  rw [performed] at start
  cases result with
  | error e =>
    rw [bind_run_error performed]
    dsimp only at start ⊢
    omega
  | ok x =>
    have rest := second x t
    rw [bind_run_ok performed, List.length_append]
    dsimp only at start ⊢
    omega

theorem Costs.mapError {a : Activity S ε α} (h : a.Costs credit n) (f : ε → ε') :
    (a.mapError f).Costs credit n :=
  h

/-- What an activity costs on a part of the state, it costs on the whole, if the credits of
part and whole go down together. -/
theorem Costs.within {a : Activity T ε α} {inner : T → Nat} (h : a.Costs inner n) {part : S → T}
    {replace : T → S → S}
    (together : ∀ t s, credit (replace t s) + inner (part s) = credit s + inner t) :
    (a.within part replace).Costs credit n := by
  intro s
  have cost := h (part s)
  have change := together (a (part s)).state s
  simp only [Activity.within]
  omega

end Activity

/-! ## Sinks and facilities -/

/-- Nothing pays for what is written. -/
theorem Sink.costs_say (text : String) : (say text).Costs (fun _ => 0) 2 := by
  intro s
  obtain ⟨_, said⟩ | ⟨_, _, said⟩ := say_cases text s <;> simp [said]

namespace World

/-- Each handle that is named makes for two entries, the answer and what is logged about it. -/
def credit (credit : σ → Nat) (w : World σ) : Nat :=
  2 * credit w.facility

theorem costs_say {credit : σ → Nat} (text : String) :
    (onSink (Sink.say text)).Costs (World.credit credit) 2 :=
  (Sink.costs_say text).within fun _ _ => rfl

variable {F : Facility σ} {credit : σ → Nat}

theorem costs_spawn {ε : Type} (spends : F.Spends credit) (argv : List String) :
    (spawn F argv : Activity _ ε _).Costs (World.credit credit) 3 := by
  intro w
  rcases answered : F.spawn argv w.facility with ⟨answer, t⟩
  have more := spends.start answered
  rw [spawn_run answered]
  simp only [World.credit, List.length_singleton]
  omega

end World

section

variable {F : Facility σ} {credit : σ → Nat}

/-- Only the answer that ends a wait in vain is not paid for by the credit. -/
theorem costs_await {ε : Type} (spends : F.Spends credit) (h : Handle) :
    (await F h : Activity _ ε _).Costs (World.credit credit) 1 := by
  intro w
  refine await_induction (F := F) (motive := fun w (r : Run (World σ) ε _) =>
    r.journal.length + World.credit credit r.state ≤ World.credit credit w + 1) ?_ ?_ ?_ w
  · intro w e s answered
    have kept := spends.failed answered
    simp only [World.credit, List.length_singleton]
    omega
  · intro w s answered
    have less := spends.named answered
    simp only [World.credit, List.length_cons, List.length_nil]
    omega
  · intro w r s answered _ rest ih
    have less := spends.named answered
    simp only [World.credit, List.length_cons] at ih ⊢
    omega

theorem costs_awaitOrWarn {ε : Type} (spends : F.Spends credit) (h : Handle) :
    (awaitOrWarn F h : Activity _ ε _).Costs (World.credit credit) 2 := by
  refine (costs_await spends h).bind (n := 1) fun answer => ?_
  cases answer with
  | ok _ => exact Activity.costs_pure _ _
  | error e => exact Activity.costs_log _

theorem costs_launch (spends : F.Spends credit) (argv : List String) :
    (launch F argv).Costs (World.credit credit) 8 := by
  cases argv with
  | nil => exact Activity.costs_pure _ _
  | cons program arguments =>
    refine (World.costs_say _).bind (n := 6) fun _ => ?_
    split
    · exact Activity.costs_pure _ _
    · refine (World.costs_spawn spends _).bind (n := 3) fun answer => ?_
      cases answer with
      | ok handle =>
        exact (Activity.costs_log _).bind (n := 2) fun _ => Activity.costs_pure _ _
      | error x =>
        refine (Activity.costs_log _).bind (n := 2) fun _ => ?_
        exact (World.costs_say _).bind fun _ => Activity.costs_pure _ 0

namespace Chain

theorem costs_awaitLast (spends : F.Spends credit) (due : Option Handle) :
    (awaitLast F due).Costs (World.credit credit) 2 := by
  cases due with
  | none => exact Activity.costs_pure _ _
  | some h => exact costs_awaitOrWarn spends h

/-- A command costs a pause and a launch, and there is a pause at the end. -/
theorem costs_runCommands (spends : F.Spends credit) (background : Bool)
    (commands : List Command) (last : Option Handle) (pending : Option Delimiter) :
    (runCommands F background commands last pending).Costs (World.credit credit)
      (10 * commands.length + 2) := by
  induction commands generalizing last pending with
  | nil =>
    rw [runCommands_nil]
    exact (costs_awaitLast spends _).bind fun _ => Activity.costs_pure _ 0
  | cons c rest ih =>
    rw [runCommands_cons]
    refine Activity.Costs.mono (m := 2 + (8 + (10 * rest.length + 2))) ?_ ?_
    · refine (costs_awaitLast spends _).bind fun _ => (costs_launch spends c.argv).bind
        fun launched => ?_
      cases launched with
      | exit => exact Activity.costs_pure _ _
      | started handle => exact ih _ _
      | failed => exact ih _ _
    · rw [List.length_cons]
      omega

theorem costs_run (spends : F.Spends credit) (chain : Chain) :
    (chain.run F).Costs (World.credit credit) (10 * chain.dispatchable.length + 2) :=
  costs_runCommands spends _ _ _ _

end Chain

end

end CommandChains
