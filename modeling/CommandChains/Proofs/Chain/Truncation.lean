import Mathlib
import CommandChains.Facility.Scripted
import CommandChains.Proofs.Chain.Run
import CommandChains.Proofs.Sink.Replay

/-!
# Runs on sinks that fail

The sink has no say in what a chain does, only in how far it comes. What is done is
settled by the facility: there is one journal for all sinks, and a run on any sink is that
journal told to the sink (`Activity.Replays`). On an unfailing sink it is told to its end;
on any other sink the run breaks off where the sink fails, and nothing is done after that.

This goes through sequences, so it is enough to see it in launches and in waits.
-/

namespace CommandChains

variable {σ α β : Type}

/-- What comes of an activity that would end with `x` and the facility in state `t`, if its
journal is told to a sink and `told` is what comes of that. -/
structure Run.Stands (r : Run (World σ) SystemError α) (x : α) (t : σ)
    (told : Run Sink SystemError Unit) : Prop where
  journal : r.journal = told.journal
  sink : r.state.sink = told.state
  result : r.result = told.result.map fun _ => x
  facility : told.result = .ok () → r.state.facility = t

namespace Run.Stands

variable {r : Run (World σ) SystemError α} {x : α} {t : σ} {after : Sink} {j : Journal}

theorem of_ok (h : r.Stands x t ⟨.ok (), after, j⟩) : r = ⟨.ok x, ⟨t, after⟩, j⟩ := by
  rcases r with ⟨result, ⟨t', sink⟩, j'⟩
  obtain ⟨journal, sink, result, facility⟩ := h
  cases journal
  cases sink
  cases result
  cases facility rfl
  rfl

theorem of_error {e : SystemError} (h : r.Stands x t ⟨.error e, after, j⟩) :
    ∃ t', r = ⟨.error e, ⟨t', after⟩, j⟩ := by
  rcases r with ⟨result, ⟨t', sink⟩, j'⟩
  obtain ⟨journal, sink, result, _⟩ := h
  cases journal
  cases sink
  cases result
  exact ⟨t', rfl⟩

end Run.Stands

namespace Activity

/-- The facility settles what an activity does, and a sink only how far it comes. -/
def Replays (a : Activity (World σ) SystemError α) : Prop :=
  ∀ s, ∃ x t j, ∀ sink, (a ⟨s, sink⟩).Stands x t (Sink.replay j sink)

theorem replays_pure (x : α) : (pure x : Activity (World σ) SystemError α).Replays :=
  fun s => ⟨x, s, [], fun _ => ⟨rfl, rfl, rfl, fun _ => rfl⟩⟩

theorem replays_log (r : Log.Record) : (log r : Activity (World σ) SystemError Unit).Replays :=
  fun s => ⟨(), s, [.logged r], fun _ => ⟨rfl, rfl, rfl, fun _ => rfl⟩⟩

theorem Replays.bind {a : Activity (World σ) SystemError α}
    {f : α → Activity (World σ) SystemError β} (first : a.Replays)
    (second : ∀ x, (f x).Replays) : (a >>= f).Replays := by
  intro s
  obtain ⟨x, t, j, first⟩ := first s
  obtain ⟨y, u, k, second⟩ := second x t
  refine ⟨y, u, j ++ k, fun sink => ?_⟩
  have start := first sink
  rcases told : Sink.replay j sink with ⟨result, next, heard⟩
  rw [told] at start
  cases result with
  | error e =>
    obtain ⟨t', performed⟩ := start.of_error
    rw [Sink.replay_append_of_error told, bind_run_error performed]
    exact ⟨rfl, rfl, rfl, fun no => nomatch no⟩
  | ok _ =>
    rw [Sink.replay_append_of_ok told, bind_run_ok start.of_ok]
    have rest := second next
    exact ⟨congrArg _ rest.journal, rest.sink, rest.result, rest.facility⟩

theorem Replays.of_unfailing {a : Activity (World σ) SystemError α} (h : a.Replays) (s : σ) :
    ∃ x t j, ∀ sink, sink.Unfailing →
      ∃ after, after.Unfailing ∧ a ⟨s, sink⟩ = ⟨.ok x, ⟨t, after⟩, j⟩ := by
  obtain ⟨x, t, j, stands⟩ := h s
  refine ⟨x, t, j, fun sink unfailing => ?_⟩
  obtain ⟨after, still, told⟩ := unfailing.replay j
  exact ⟨after, still, (told ▸ stands sink : Run.Stands _ _ _ _).of_ok⟩

end Activity

/-! ## Launches and waits -/

theorem World.replays_say (text : String) :
    (onSink (Sink.say text) : Activity (World σ) SystemError Unit).Replays := by
  intro s
  refine ⟨(), s, [.wrote (Text.Utf8.encode text), .flushed], fun sink => ?_⟩
  have say : Sink.replay [.wrote (Text.Utf8.encode text), .flushed] = Sink.say text := by
    simp [Sink.replay, Entry.replay, Sink.say]
  rw [say, onSink, Activity.within]
  refine ⟨rfl, rfl, ?_, fun _ => rfl⟩
  cases (Sink.say text sink).result <;> rfl

theorem World.replays_spawn (F : Facility σ) (argv : List String) :
    (spawn F argv : Activity (World σ) SystemError _).Replays := fun s =>
  ⟨(F.spawn argv s).1, (F.spawn argv s).2, [.spawned argv (F.spawn argv s).1],
    fun _ => ⟨rfl, rfl, rfl, fun _ => rfl⟩⟩

theorem replays_launch (F : Facility σ) (argv : List String) : (launch F argv).Replays := by
  cases argv with
  | nil => exact Activity.replays_pure _
  | cons program arguments =>
    refine (World.replays_say _).bind fun _ => ?_
    split
    · exact Activity.replays_pure _
    · refine (World.replays_spawn F _).bind fun answer => ?_
      cases answer with
      | ok handle => exact (Activity.replays_log _).bind fun _ => Activity.replays_pure _
      | error e =>
        refine (Activity.replays_log _).bind fun _ => ?_
        exact (World.replays_say _).bind fun _ => Activity.replays_pure _

/-- A wait goes the same way beside any sink, and says nothing to it. -/
theorem await_beside_sink {ε : Type} (F : Facility σ) (h : Handle) (s : σ) :
    ∃ answer t j, Journal.outward j = [] ∧
      ∀ sink, (await F h ⟨s, sink⟩ : Run _ ε _) = ⟨.ok answer, ⟨t, sink⟩, j⟩ := by
  refine await_induction (F := F) (h := h) (ε := ε)
    (motive := fun w _ => ∃ answer t j, Journal.outward j = [] ∧
      ∀ sink, (await F h ⟨w.facility, sink⟩ : Run _ ε _) = ⟨.ok answer, ⟨t, sink⟩, j⟩)
    ?_ ?_ ?_ ⟨s, .boundless⟩
  · intro w e t answered
    exact ⟨_, t, _, rfl, fun sink => await_of_error answered⟩
  · intro w t answered
    exact ⟨_, t, _, rfl, fun sink => await_of_same answered⟩
  · rintro w r t answered other _ ⟨answer, u, j, unseen, rest⟩
    refine ⟨answer, u, .waited (.ok r) :: .logged (.discarded h r) :: j, unseen, fun sink => ?_⟩
    rw [await_of_other (w := ⟨w.facility, sink⟩) answered other, rest sink]

theorem replays_await (F : Facility σ) (h : Handle) :
    (await F h : Activity (World σ) SystemError _).Replays := by
  intro s
  obtain ⟨answer, t, j, unseen, beside⟩ := await_beside_sink (ε := SystemError) F h s
  refine ⟨answer, t, j, fun sink => ?_⟩
  rw [beside sink, Sink.replay_of_unseen unseen]
  exact ⟨rfl, rfl, rfl, fun _ => rfl⟩

theorem replays_awaitOrWarn (F : Facility σ) (h : Handle) :
    (awaitOrWarn F h : Activity (World σ) SystemError _).Replays := by
  refine (replays_await F h).bind fun answer => ?_
  cases answer with
  | ok _ => exact Activity.replays_pure _
  | error e => exact Activity.replays_log _

/-! ## Chains -/

namespace Chain

variable {F : Facility σ}

theorem replays_awaitLast (due : Option Handle) : (awaitLast F due).Replays := by
  cases due with
  | none => exact Activity.replays_pure _
  | some h => exact replays_awaitOrWarn F h

theorem replays_runCommands (background : Bool) (commands : List Command)
    (last : Option Handle) (pending : Option Delimiter) :
    (runCommands F background commands last pending).Replays := by
  induction commands generalizing last pending with
  | nil =>
    rw [runCommands_nil]
    exact (replays_awaitLast _).bind fun _ => Activity.replays_pure _
  | cons c rest ih =>
    rw [runCommands_cons]
    refine (replays_awaitLast _).bind fun _ => (replays_launch F c.argv).bind fun launched => ?_
    cases launched with
    | exit => exact Activity.replays_pure _
    | started handle => exact ih _ _
    | failed => exact ih _ _

theorem replays_run (F : Facility σ) (chain : Chain) : (chain.run F).Replays :=
  replays_runCommands _ _ _ _

/-- A sink that fails cuts a run short and changes nothing else. Compared with the run from
the same facility on a sink that never fails, what is written and what the facility is
asked and answers are the same as far as they go. If the run does not fail, nothing is
missing. If it fails, then the sink has taken all that came before, it fails at the next
write or flush, of which it accepts a part of the bytes at most, and the facility is asked
for nothing any more. A sink that has room for so many bytes, and no flush of which fails,
takes all the bytes there are or as many as it has room for; in the second case the run
fails with what the sink says when it is full. -/
theorem run_truncated (F : Facility σ) (chain : Chain) (s : σ) (sink perfect : Sink)
    (unfailing : perfect.Unfailing) :
    let whole := chain.run F ⟨s, perfect⟩
    let run := chain.run F ⟨s, sink⟩
    run.journal.output <+: whole.journal.output ∧
    run.journal.calls <+: whole.journal.calls ∧
    (∀ ending, run.result = .ok ending →
      whole.result = .ok ending ∧ run.journal = whole.journal) ∧
    (∀ e, run.result = .error e → ∃ front failed rest t u cut,
      whole.journal = front ++ failed :: rest ∧ Sink.replay front sink = ⟨.ok (), t, front⟩ ∧
      failed.replay t = ⟨.error e, u, cut⟩ ∧ cut.calls = [] ∧ run.journal = front ++ cut) ∧
    (∀ room, sink.limit = some (sink.accepted + room) → sink.Flushing run.state.sink →
      run.journal.output = whole.journal.output.take room ∧
      run.result = if whole.journal.output.length ≤ room then whole.result
        else .error sink.refusal) := by
  intro whole run
  obtain ⟨ending, t, j, stands⟩ := replays_run F chain s
  obtain ⟨after, _, heard⟩ := unfailing.replay j
  have entire : whole.Stands ending t ⟨.ok (), after, j⟩ := heard ▸ stands perfect
  have part : run.Stands ending t (Sink.replay j sink) := stands sink
  rw [entire.journal, entire.result, part.journal, part.result, part.sink]
  obtain ⟨output, calls⟩ := Sink.replay_isPrefix j sink
  refine ⟨output, calls, ?_, ?_, ?_⟩
  · intro how completed
    obtain ⟨u, told⟩ | ⟨_, _, _, _, _, e, _, _, _, _, _, _, told⟩ := Sink.replay_cases j sink
    · rw [told] at completed ⊢
      exact ⟨completed, rfl⟩
    · rw [told] at completed
      cases completed
  · intro e failed
    obtain ⟨u, told⟩ | ⟨front, entry, rest, t, u, x, cut, same, before, fails, silent, _, told⟩ :=
      Sink.replay_cases j sink
    · rw [told] at failed
      cases failed
    · rw [told] at failed ⊢
      cases failed
      exact ⟨front, entry, rest, t, u, cut, same, before, fails, silent, rfl⟩
  · intro room limited flushing
    obtain ⟨output, result⟩ := Sink.replay_of_room limited j flushing
    refine ⟨output, ?_⟩
    rw [result]
    split <;> rfl

/-- A sink with room for ten bytes takes `a ; bad ; c` into the report that `bad` cannot be
started, and `c` is not started any more. -/
theorem truncated_in_report :
    let chain : Chain :=
      ⟨[⟨["a"], some .sequential⟩, ⟨["bad"], some .sequential⟩, ⟨["c"], none⟩]⟩
    let run := chain.run (Scripted.facility { missing := ["bad"] }) ⟨{}, { limit := some 10 }⟩
    Sink.boundless.Unfailing ∧ run.journal.output = Text.Utf8.encode "a\nbad\nbad:" ∧
      run.result = .error (.text "sink full") ∧
      run.journal.calls = [.spawn ["a"] (.ok (.ofIndex 0)), .wait (.ok (.ofIndex 0)),
        .spawn ["bad"] (.error .notFound)] := by
  intro chain run
  have truncated := run_truncated (Scripted.facility { missing := ["bad"] }) chain {}
    { limit := some 10 } .boundless Sink.unfailing_boundless
  obtain ⟨output, result⟩ := truncated.2.2.2.2 10 rfl (Sink.flushing_of_none rfl)
  refine ⟨Sink.unfailing_boundless, output.trans (by cbv), result.trans ?_, by cbv⟩
  exact if_neg (by cbv)

end Chain

end CommandChains
