import CommandChains.Proofs.Chain.Run
import CommandChains.Proofs.Sink

/-!
# Traces of a facility

A facility that is asked for one thing after another gives an answer to each call
and ends in some state. `Facility.Trace` ties the three together: the state before,
the calls with their answers, the state after. A facility leaves no choice, so the
calls alone decide the state after them.

Activities on a facility keep a journal. `Activity.Faithful` says that the journal
tells all: the calls in it, with the answers in it, are a trace from the facility
before to the facility after. What holds along every trace therefore holds along
every activity, and no activity has to be opened again to see it.
-/

namespace CommandChains

variable {σ : Type}

namespace Facility

/-- From the first state on, the facility gives these answers to these calls, one
after the other, and the second state is where that leaves it. -/
inductive Trace (F : Facility σ) : σ → List Call → σ → Prop
  | nil (s : σ) : Trace F s [] s
  | spawn {s t u : σ} {argv : List String} {answer : Except StartError Handle}
      {calls : List Call} :
      F.spawn argv s = (answer, t) → Trace F t calls u →
        Trace F s (.spawn argv answer :: calls) u
  | wait {s t u : σ} {answer : Except WaitError Handle} {calls : List Call} :
      F.waitAny s = (answer, t) → Trace F t calls u → Trace F s (.wait answer :: calls) u

namespace Trace

variable {F : Facility σ} {s t u : σ} {calls more : List Call}

theorem append (first : F.Trace s calls t) (second : F.Trace t more u) :
    F.Trace s (calls ++ more) u := by
  induction first with
  | nil => exact second
  | spawn answered _ ih => exact .spawn answered (ih second)
  | wait answered _ ih => exact .wait answered (ih second)

theorem split (h : F.Trace s (calls ++ more) u) :
    ∃ t, F.Trace s calls t ∧ F.Trace t more u := by
  induction calls generalizing s with
  | nil => exact ⟨s, .nil s, h⟩
  | cons call rest ih =>
    cases h with
    | spawn answered after =>
      obtain ⟨t, first, second⟩ := ih after
      exact ⟨t, .spawn answered first, second⟩
    | wait answered after =>
      obtain ⟨t, first, second⟩ := ih after
      exact ⟨t, .wait answered first, second⟩

/-- The calls decide the state after them. -/
theorem unique (first : F.Trace s calls t) (second : F.Trace s calls u) : t = u := by
  induction first with
  | nil => cases second; rfl
  | spawn answered _ ih =>
    cases second with
    | spawn again rest =>
      rw [answered] at again
      cases again
      exact ih rest
  | wait answered _ ih =>
    cases second with
    | wait again rest =>
      rw [answered] at again
      cases again
      exact ih rest

/-- What every answered call keeps, a trace keeps. -/
theorem preserves {P : σ → Prop}
    (spawn : ∀ {s argv answer t}, F.spawn argv s = (answer, t) → P s → P t)
    (wait : ∀ {s answer t}, F.waitAny s = (answer, t) → P s → P t)
    (h : F.Trace s calls t) (start : P s) : P t := by
  induction h with
  | nil => exact start
  | spawn answered _ ih => exact ih (spawn answered start)
  | wait answered _ ih => exact ih (wait answered start)

end Trace

end Facility

namespace Activity

variable {S T ε ε' α β : Type} {F : Facility σ} {facilityOf : S → σ}

/-- The calls in the journal are what the facility was really asked, and their
answers what it really said. -/
def Faithful (F : Facility σ) (facilityOf : S → σ) (a : Activity S ε α) : Prop :=
  ∀ s, F.Trace (facilityOf s) (a s).journal.calls (facilityOf (a s).state)

theorem Faithful.trace {a : Activity S ε α} (faithful : a.Faithful F facilityOf) {s t : S}
    {result : Except ε α} {j : Journal} (performed : a s = ⟨result, t, j⟩) :
    F.Trace (facilityOf s) j.calls (facilityOf t) := by
  have trace := faithful s
  rwa [performed] at trace

/-- An activity that neither calls the facility nor changes it. -/
theorem Faithful.of_apart {a : Activity S ε α}
    (calls : ∀ s, (a s).journal.calls = [])
    (state : ∀ s, facilityOf (a s).state = facilityOf s) : a.Faithful F facilityOf := by
  intro s
  rw [calls, state]
  exact .nil _

theorem faithful_pure (x : α) : (pure x : Activity S ε α).Faithful F facilityOf :=
  fun _ => .nil _

theorem faithful_log (r : Log.Record) : (log r : Activity S ε Unit).Faithful F facilityOf :=
  fun _ => .nil _

theorem Faithful.bind {a : Activity S ε α} {f : α → Activity S ε β}
    (first : a.Faithful F facilityOf) (second : ∀ x, (f x).Faithful F facilityOf) :
    (a >>= f).Faithful F facilityOf := by
  intro s
  have start := first s
  cases performed : a s with
  | mk result t j =>
    rw [performed] at start
    cases result with
    | error e =>
      rw [bind_run_error performed]
      exact start
    | ok x =>
      rw [bind_run_ok performed]
      simpa using start.append (second x t)

theorem Faithful.mapError {a : Activity S ε α} (h : a.Faithful F facilityOf)
    (f : ε → ε') : (a.mapError f).Faithful F facilityOf :=
  h

theorem Faithful.within {a : Activity T ε α} {part : S → T} {replace : T → S → S}
    {inner : T → σ} (h : a.Faithful F inner) (before : ∀ s, inner (part s) = facilityOf s)
    (after : ∀ s t, facilityOf (replace t s) = inner t) :
    (a.within part replace).Faithful F facilityOf := by
  intro s
  have inside := h (part s)
  rw [before] at inside
  simpa only [Activity.within, after] using inside

end Activity

namespace World

variable {ε α : Type} {F : Facility σ}

theorem faithful_say (text : String) :
    (onSink (Sink.say text)).Faithful F World.facility :=
  .of_apart (fun w => Sink.calls_say text w.sink) (fun _ => rfl)

theorem faithful_spawn (argv : List String) :
    (spawn F argv : Activity (World σ) ε _).Faithful F World.facility :=
  fun _ => .spawn rfl (.nil _)

end World

theorem faithful_await {ε : Type} (F : Facility σ) (h : Handle) :
    (await F h : Activity (World σ) ε _).Faithful F World.facility := by
  intro w
  refine await_induction (motive := fun w (r : Run (World σ) ε _) =>
    F.Trace w.facility r.journal.calls r.state.facility) ?_ ?_ ?_ w
  · intro w e s answered
    exact .wait answered (.nil _)
  · intro w s answered
    exact .wait answered (.nil _)
  · intro w r s answered _ rest ih
    exact .wait answered ih

theorem faithful_awaitOrWarn {ε : Type} (F : Facility σ) (h : Handle) :
    (awaitOrWarn F h : Activity (World σ) ε _).Faithful F World.facility := by
  refine (faithful_await F h).bind fun answer => ?_
  cases answer with
  | ok _ => exact Activity.faithful_pure _
  | error e => exact Activity.faithful_log _

theorem faithful_launch (F : Facility σ) (argv : List String) :
    (launch F argv).Faithful F World.facility := by
  cases argv with
  | nil => exact Activity.faithful_pure _
  | cons program arguments =>
    refine (World.faithful_say _).bind fun _ => ?_
    split
    · exact Activity.faithful_pure _
    · refine (World.faithful_spawn _).bind fun answer => ?_
      cases answer with
      | ok handle => exact (Activity.faithful_log _).bind fun _ => Activity.faithful_pure _
      | error e =>
        refine (Activity.faithful_log _).bind fun _ => ?_
        exact (World.faithful_say _).bind fun _ => Activity.faithful_pure _

namespace Chain

variable {F : Facility σ}

theorem faithful_awaitLast (last : Option Handle) :
    (awaitLast F last).Faithful F World.facility := by
  cases last with
  | none => exact Activity.faithful_pure _
  | some h => exact faithful_awaitOrWarn F h

theorem faithful_runCommands (background : Bool) (commands : List Command)
    (last : Option Handle) (pending : Option Delimiter) :
    (runCommands F background commands last pending).Faithful F World.facility := by
  induction commands generalizing last pending with
  | nil =>
    rw [runCommands_nil]
    exact (faithful_awaitLast _).bind fun _ => Activity.faithful_pure _
  | cons c rest ih =>
    rw [runCommands_cons]
    refine (faithful_awaitLast _).bind fun _ => (faithful_launch F c.argv).bind fun launched => ?_
    cases launched with
    | exit => exact Activity.faithful_pure _
    | started handle => exact ih _ _
    | failed => exact ih _ _

/-- The journal of a chain's run tells all that the facility was asked. -/
theorem faithful_run (chain : Chain) : (chain.run F).Faithful F World.facility :=
  faithful_runCommands _ _ _ _

end Chain

end CommandChains
