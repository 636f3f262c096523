import CommandChains.Chain.Run
import CommandChains.Proofs.Activity
import CommandChains.Proofs.Sink

/-!
# How the run of a chain goes

Waits and launches are what the run of a chain is made of. It is told here how each of
them goes, and how the run is put together from them.

To wait for a child is to ask the facility again and again. `WaitsFor` describes
the calls: answers that name other children, and then the answer that names the
child, or a failure. There is always at least one call, and nothing is asked after
the last. A wait never fails as an activity, whatever the facility answers, and it
leaves the sink alone. `Pause` extends this to the places where there may be nobody
to wait for: there nothing is asked.

A launch goes one of five ways, and here each is given exactly: the sink fails at
the echo, the command is `exit`, the child is started, the start fails and is
reported, or the start fails and the sink fails at the report. `LaunchJournal` gives
the journal of each of these, and of a launch without words.

A run of commands is a pause, a launch, and the run of what is left, and at the end
one more pause. Who is awaited at a pause depends on the child started last and on the
delimiter before it. Where the sink does not fail, the run does not fail either.
-/

namespace CommandChains

variable {σ : Type}

/-! ## Waits -/

inductive WaitsFor (h : Handle) : List Call → Prop
  | ended : WaitsFor h [.wait (.ok h)]
  | failed (e : WaitError) : WaitsFor h [.wait (.error e)]
  /-- The facility names another child, and the wait goes on. -/
  | other {r : Handle} {calls : List Call} :
      r ≠ h → WaitsFor h calls → WaitsFor h (.wait (.ok r) :: calls)

/-- The calls made at a place where a child is to be awaited, or nobody. -/
def Pause : Option Handle → List Call → Prop
  | none, calls => calls = []
  | some h, calls => WaitsFor h calls

theorem Pause.exists_of_ne_nil {due : Option Handle} {calls : List Call}
    (pause : Pause due calls) (asked : calls ≠ []) : ∃ h, due = some h ∧ WaitsFor h calls := by
  cases due with
  | none => exact absurd pause asked
  | some h => exact ⟨h, rfl, pause⟩

/-- A wait for one child runs through answers of the facility: failures and the
child itself end it, other children prolong it. -/
theorem await_induction {ε : Type} {F : Facility σ} {h : Handle}
    {motive : World σ → Run (World σ) ε (Except WaitError Unit) → Prop}
    (failed : ∀ w e s, F.waitAny w.facility = (.error e, s) →
      motive w ⟨.ok (.error e), { w with facility := s }, [.waited (.error e)]⟩)
    (ended : ∀ w s, F.waitAny w.facility = (.ok h, s) →
      motive w ⟨.ok (.ok ()), { w with facility := s },
        [.waited (.ok h), .logged (.awaited h)]⟩)
    (other : ∀ w r s, F.waitAny w.facility = (.ok r, s) → r ≠ h →
      ∀ rest : Run (World σ) ε (Except WaitError Unit),
        motive { w with facility := s } rest →
        motive w ⟨rest.result, rest.state,
          .waited (.ok r) :: .logged (.discarded h r) :: rest.journal⟩)
    (w : World σ) : motive w (await F h w) := by
  induction patience : F.patience h w.facility using Nat.strongRecOn generalizing w with
  | ind n ih =>
    rcases answered : F.waitAny w.facility with ⟨answer, s⟩
    cases answer with
    | error e =>
      rw [await_of_error answered]
      exact failed w e s answered
    | ok r =>
      by_cases same : r = h
      · subst same
        rw [await_of_same answered]
        exact ended w s answered
      · rw [await_of_other answered same]
        have less := F.patience_lt answered same
        exact other w r s answered same _ (ih _ (patience ▸ less) _ rfl)

/-- A wait ends with an answer, has left the sink alone, and has asked only for
what a wait asks for. -/
theorem await_run {ε : Type} (F : Facility σ) (h : Handle) (w : World σ) :
    ∃ answer s j, (await F h w : Run _ ε _) = ⟨.ok answer, { w with facility := s }, j⟩ ∧
      WaitsFor h (Journal.calls j) := by
  refine await_induction (motive := fun w (r : Run (World σ) ε _) =>
    ∃ answer s j, r = ⟨.ok answer, { w with facility := s }, j⟩ ∧ WaitsFor h (Journal.calls j))
    ?_ ?_ ?_ w
  · intro w e s _
    exact ⟨_, _, _, rfl, .failed e⟩
  · intro w s _
    exact ⟨_, _, _, rfl, .ended⟩
  · rintro w r s _ other rest ⟨answer, s', j, rfl, waits⟩
    exact ⟨_, _, _, rfl, .other other waits⟩

theorem awaitOrWarn_run {ε : Type} (F : Facility σ) (h : Handle) (w : World σ) :
    ∃ s j, (awaitOrWarn F h w : Run _ ε _) = ⟨.ok (), { w with facility := s }, j⟩ ∧
      WaitsFor h (Journal.calls j) := by
  obtain ⟨answer, s, j, performed, waits⟩ := await_run (ε := ε) F h w
  rw [awaitOrWarn, Activity.bind_run_ok performed]
  cases answer with
  | ok _ => exact ⟨s, j, by simp, waits⟩
  | error e =>
    refine ⟨s, j ++ [.logged (.gaveUp h e)], rfl, ?_⟩
    rw [Journal.calls_append]
    exact (List.append_nil (Journal.calls j)).symm ▸ waits

/-! ## Launches -/

section

variable {F : Facility σ} {w : World σ}
variable {program : String} {arguments : List String} {t u : Sink} {j k : Journal} {s : σ}

theorem World.onSink_run {ε α : Type} {a : Activity Sink ε α} {result : Except ε α}
    (h : a w.sink = ⟨result, t, j⟩) : onSink a w = ⟨result, { w with sink := t }, j⟩ := by
  simp only [onSink, Activity.within, h]

theorem World.spawn_run {ε : Type} {argv : List String} {answer : Except StartError Handle}
    (h : F.spawn argv w.facility = (answer, s)) :
    (spawn F argv w : Run _ ε _) =
      ⟨.ok answer, { w with facility := s }, [.spawned argv answer]⟩ := by
  simp only [spawn, h]

theorem launch_of_unsaid {e : SystemError}
    (said : Sink.say (echoLine program) w.sink = ⟨.error e, t, j⟩) :
    launch F (program :: arguments) w = ⟨.error e, { w with sink := t }, j⟩ :=
  Activity.bind_run_error (World.onSink_run said) _

theorem launch_of_exit (said : Sink.say (echoLine program) w.sink = ⟨.ok (), t, j⟩)
    (exit : program = "exit") :
    launch F (program :: arguments) w = ⟨.ok .exit, { w with sink := t }, j⟩ := by
  rw [launch, Activity.bind_run_ok (World.onSink_run said), exitWord, if_pos exit]
  simp

theorem launch_of_started {handle : Handle}
    (said : Sink.say (echoLine program) w.sink = ⟨.ok (), t, j⟩) (other : program ≠ "exit")
    (answered : F.spawn (program :: arguments) w.facility = (.ok handle, s)) :
    launch F (program :: arguments) w =
      ⟨.ok (.started handle), ⟨s, t⟩,
        j ++ [.spawned (program :: arguments) (.ok handle),
          .logged (.dispatched program handle)]⟩ := by
  rw [launch, Activity.bind_run_ok (World.onSink_run said), exitWord, if_neg other,
    Activity.bind_run_ok (World.spawn_run (w := { w with sink := t }) answered)]
  simp [Activity.bind_run]

/-- A failed start and what its report comes to. -/
theorem launch_of_refused {x : StartError} {result : Except SystemError Unit}
    (said : Sink.say (echoLine program) w.sink = ⟨.ok (), t, j⟩) (other : program ≠ "exit")
    (answered : F.spawn (program :: arguments) w.facility = (.error x, s))
    (reported : Sink.say (failureLine program x) t = ⟨result, u, k⟩) :
    launch F (program :: arguments) w =
      ⟨result.map fun _ => .failed, ⟨s, u⟩,
        j ++ .spawned (program :: arguments) (.error x) ::
          .logged (.dispatchFailed program x) :: k⟩ := by
  rw [launch, Activity.bind_run_ok (World.onSink_run said), exitWord, if_neg other,
    Activity.bind_run_ok (World.spawn_run (w := { w with sink := t }) answered)]
  have report := World.onSink_run (w := ⟨s, t⟩) reported
  dsimp only
  rw [Activity.bind_run_ok (Activity.log_run _ _)]
  cases result with
  | error e =>
    rw [Activity.bind_run_error report]
    rfl
  | ok _ =>
    rw [Activity.bind_run_ok report]
    simp [Except.map]

/-- The journals that launches may have, by what comes of them. -/
inductive LaunchJournal : List String → Except SystemError Launched → Journal → Prop
  | nothing : LaunchJournal [] (.ok .failed) []
  | unsaid {program : String} {arguments : List String} {part : Text.Bytes} (e : SystemError) :
      part <+: Text.Utf8.encode (echoLine program) →
      LaunchJournal (program :: arguments) (.error e) [.wrote part]
  | exit (arguments : List String) :
      LaunchJournal ("exit" :: arguments) (.ok .exit)
        [.wrote (Text.Utf8.encode (echoLine "exit")), .flushed]
  | started {program : String} {arguments : List String} (handle : Handle) :
      program ≠ "exit" →
      LaunchJournal (program :: arguments) (.ok (.started handle))
        [.wrote (Text.Utf8.encode (echoLine program)), .flushed,
          .spawned (program :: arguments) (.ok handle), .logged (.dispatched program handle)]
  | failed {program : String} {arguments : List String} (x : StartError) :
      program ≠ "exit" →
      LaunchJournal (program :: arguments) (.ok .failed)
        [.wrote (Text.Utf8.encode (echoLine program)), .flushed,
          .spawned (program :: arguments) (.error x), .logged (.dispatchFailed program x),
          .wrote (Text.Utf8.encode (failureLine program x)), .flushed]
  | unreported {program : String} {arguments : List String} {part : Text.Bytes}
      (x : StartError) (e : SystemError) :
      program ≠ "exit" → part <+: Text.Utf8.encode (failureLine program x) →
      LaunchJournal (program :: arguments) (.error e)
        [.wrote (Text.Utf8.encode (echoLine program)), .flushed,
          .spawned (program :: arguments) (.error x), .logged (.dispatchFailed program x),
          .wrote part]

theorem launch_journal (F : Facility σ) (argv : List String) (w : World σ) :
    LaunchJournal argv (launch F argv w).result (launch F argv w).journal := by
  cases argv with
  | nil => exact .nothing
  | cons program arguments =>
    obtain ⟨t, said⟩ | ⟨e, t, said⟩ := Sink.say_cases (echoLine program) w.sink
    · by_cases exit : program = "exit"
      · rw [launch_of_exit said exit]
        subst exit
        exact .exit arguments
      · rcases answered : F.spawn (program :: arguments) w.facility with ⟨answer, s⟩
        cases answer with
        | ok handle =>
          rw [launch_of_started said exit answered]
          exact .started handle exit
        | error x =>
          obtain ⟨u, reported⟩ | ⟨e, u, reported⟩ := Sink.say_cases (failureLine program x) t
          · rw [launch_of_refused said exit answered reported]
            exact .failed x exit
          · rw [launch_of_refused said exit answered reported]
            exact .unreported x e exit (t.fitting_isPrefix _)
    · rw [launch_of_unsaid said]
      exact .unsaid e (w.sink.fitting_isPrefix _)

/-- A launch fails only if the sink does. -/
theorem succeeds_launch (F : Facility σ) (argv : List String) :
    (launch F argv).Succeeds fun w => w.sink.Unfailing := by
  intro w unfailing
  cases argv with
  | nil => exact ⟨⟨_, rfl⟩, unfailing⟩
  | cons program arguments =>
    have said := unfailing.say (echoLine program)
    have after := unfailing.afterTaking (Text.Utf8.encode (echoLine program))
    by_cases exit : program = "exit"
    · rw [launch_of_exit said exit]
      exact ⟨⟨_, rfl⟩, after⟩
    · rcases answered : F.spawn (program :: arguments) w.facility with ⟨answer, s⟩
      cases answer with
      | ok handle =>
        rw [launch_of_started said exit answered]
        exact ⟨⟨_, rfl⟩, after⟩
      | error x =>
        rw [launch_of_refused said exit answered (after.say (failureLine program x))]
        exact ⟨⟨_, rfl⟩, after.afterTaking _⟩

end

/-! ## The steps of a run -/

namespace Chain

/-- A pause of a chain's run never fails and leaves the sink alone. -/
theorem awaitLast_run (F : Facility σ) (due : Option Handle) (w : World σ) :
    ∃ s j, awaitLast F due w = ⟨.ok (), { w with facility := s }, j⟩ ∧
      Pause due (Journal.calls j) := by
  cases due with
  | none => exact ⟨w.facility, [], rfl, rfl⟩
  | some h => exact awaitOrWarn_run F h w

theorem succeeds_awaitLast (F : Facility σ) (due : Option Handle) :
    (awaitLast F due).Succeeds fun w => w.sink.Unfailing := by
  intro w unfailing
  obtain ⟨s, j, performed, _⟩ := awaitLast_run F due w
  rw [performed]
  exact ⟨⟨_, rfl⟩, unfailing⟩

variable {F : Facility σ} {background : Bool}
variable {last : Option Handle} {pending : Option Delimiter}

theorem runCommands_nil :
    runCommands F background [] last pending = (do
      awaitLast F (if background then none else last)
      pure .completed) := by
  rw [runCommands]
  cases background <;> simp [awaitLast]

theorem runCommands_cons (c : Command) (rest : List Command) :
    runCommands F background (c :: rest) last pending = (do
      awaitLast F (if pending = some .sequential then last else none)
      match ← launch F c.argv with
      | .exit => pure .exit
      | .started handle => runCommands F background rest (some handle) c.closedBy
      | .failed => runCommands F background rest last c.closedBy) := by
  cases pending with
  | none => rfl
  | some d => cases d <;> rfl

theorem succeeds_runCommands (commands : List Command) :
    (runCommands F background commands last pending).Succeeds fun w => w.sink.Unfailing := by
  induction commands generalizing last pending with
  | nil =>
    rw [runCommands_nil]
    exact (succeeds_awaitLast F _).bind fun _ => Activity.succeeds_pure _
  | cons c rest ih =>
    rw [runCommands_cons]
    refine (succeeds_awaitLast F _).bind fun _ => (succeeds_launch F c.argv).bind fun launched => ?_
    cases launched with
    | exit => exact Activity.succeeds_pure _
    | started handle => exact ih
    | failed => exact ih

theorem succeeds_run (F : Facility σ) (chain : Chain) :
    (chain.run F).Succeeds fun w => w.sink.Unfailing :=
  succeeds_runCommands _

end Chain

end CommandChains
