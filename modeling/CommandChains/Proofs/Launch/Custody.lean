import CommandChains.Facility.Scripted
import CommandChains.Proofs.Chain.Truncation
import CommandChains.Proofs.Facility.Trace

/-!
# No started child is lost in a launch

A launch has six ends: there are no words, the sink fails at the echo, the command is `exit`,
the child is started, or the start fails, and then the sink takes the report or fails at it.
Which of them it will be is settled beforehand, by the words, by what the sink takes
(`Sink.Takes`) and by the answer of the facility, and so is the whole of what is done.
`LaunchJournal` gives the journal of each. Nothing stands behind a start that succeeds but its
record in the log, so whoever is started is handed on to the caller, and a launch that fails has
started nobody.
-/

namespace CommandChains

variable {σ : Type} {F : Facility σ} {w : World σ}

namespace LaunchJournal

variable {argv : List String} {result : Except SystemError Launched} {j : Journal}

/-- The facility is asked at most once, for what was to be launched, and after the echo. -/
theorem asked (journal : LaunchJournal argv result j) :
    j.calls = [] ∨ argv ≠ [] ∧ argv.headD "" ≠ "exit" ∧ ∃ answer rest,
      j = .wrote (Text.Utf8.encode (echoLine (argv.headD ""))) :: .flushed ::
        .spawned argv answer :: rest ∧ Journal.calls rest = [] := by
  cases journal with
  | nothing => exact .inl rfl
  | unsaid e part => exact .inl rfl
  | exit arguments => exact .inl rfl
  | started handle other => exact .inr ⟨List.cons_ne_nil _ _, other, .ok handle, _, rfl, rfl⟩
  | failed x other => exact .inr ⟨List.cons_ne_nil _ _, other, .error x, _, rfl, rfl⟩
  | unreported x e other part => exact .inr ⟨List.cons_ne_nil _ _, other, .error x, _, rfl, rfl⟩

/-- A launch comes to an exit if the command is `exit` and has been named. -/
theorem exit_iff (journal : LaunchJournal argv result j) :
    result = .ok .exit ↔ argv.head? = some "exit" ∧
      j = [.wrote (Text.Utf8.encode (echoLine (argv.headD ""))), .flushed] := by
  cases journal <;> simp

/-- What comes of a launch is a started child if the facility has started it. -/
theorem started_iff (journal : LaunchJournal argv result j) (h : Handle) :
    result = .ok (.started h) ↔ j.calls = [.spawn argv (.ok h)] := by
  cases journal <;> simp [Journal.calls, List.filterMap, Entry.call?]

/-- After a start that succeeds nothing is written. -/
theorem of_started {h : Handle} (journal : LaunchJournal argv result j)
    (started : result = .ok (.started h)) :
    j = [.wrote (Text.Utf8.encode (echoLine (argv.headD ""))), .flushed,
      .spawned argv (.ok h), .logged (.dispatched (argv.headD "") h)] := by
  cases journal <;> cases started
  rfl

/-- A start that fails is reported, as far as the sink takes the report. -/
theorem of_refused {x : StartError} (journal : LaunchJournal argv result j)
    (refused : j.calls = [.spawn argv (.error x)]) :
    ∃ told, j = .wrote (Text.Utf8.encode (echoLine (argv.headD ""))) :: .flushed ::
        .spawned argv (.error x) :: .logged (.dispatchFailed (argv.headD "") x) :: told ∧
      (result = .ok .failed ∧
          told = [.wrote (Text.Utf8.encode (failureLine (argv.headD "") x)), .flushed] ∨
        ∃ e part, result = .error e ∧ told = [.wrote part] ∧
          part <+: Text.Utf8.encode (failureLine (argv.headD "") x)) := by
  cases journal <;> cases refused
  · exact ⟨_, rfl, .inl ⟨rfl, rfl⟩⟩
  · next e other inside => exact ⟨_, rfl, .inr ⟨e, _, rfl, rfl, inside⟩⟩

/-- A launch has failed only if there were no words or the start was refused and this was
reported. -/
theorem failed_iff (journal : LaunchJournal argv result j) :
    result = .ok .failed ↔ argv = [] ∧ j = [] ∨
      ∃ x, j = [.wrote (Text.Utf8.encode (echoLine (argv.headD ""))), .flushed,
        .spawned argv (.error x), .logged (.dispatchFailed (argv.headD "") x),
        .wrote (Text.Utf8.encode (failureLine (argv.headD "") x)), .flushed] := by
  cases journal <;> simp

/-- A launch that ends with an error has started nobody. -/
theorem calls_of_error {e : SystemError} (journal : LaunchJournal argv result j)
    (failed : result = .error e) : j.calls = [] ∨ ∃ x, j.calls = [.spawn argv (.error x)] := by
  cases journal <;> cases failed
  · exact .inl rfl
  · next x other inside => exact .inr ⟨x, rfl⟩

end LaunchJournal

namespace Entry

/-- A sink fails only when it is told to write or to flush. -/
theorem outward_of_replay_error {entry : Entry} {t u : Sink} {e : SystemError} {cut : Journal}
    (fails : entry.replay t = ⟨.error e, u, cut⟩) :
    (∃ bytes, entry = .wrote bytes) ∨ entry = .flushed := by
  cases entry with
  | wrote bytes => exact .inl ⟨bytes, rfl⟩
  | flushed => exact .inr rfl
  | _ => cases fails

end Entry

/-- An activity whose journal can be told to a sink fails only where the sink does. -/
theorem Activity.Replays.of_error {α : Type} {a : Activity (World σ) SystemError α}
    (replays : a.Replays) {e : SystemError} (failed : (a w).result = .error e) :
    ∃ front failing t cut, (a w).journal = front ++ cut ∧
      Sink.replay front w.sink = ⟨.ok (), t, front⟩ ∧
      ((∃ bytes, failing = .wrote bytes) ∨ failing = .flushed) ∧
      Entry.replay failing t = ⟨.error e, (a w).state.sink, cut⟩ := by
  obtain ⟨x, t, j, stands⟩ := replays w.facility
  have stands : (a w).Stands x t (Sink.replay j w.sink) := stands w.sink
  obtain ⟨u, told⟩ | ⟨front, failing, rest, t, u, y, cut, _, before, fails, _, _, told⟩ :=
    Sink.replay_cases j w.sink
  · rw [told] at stands
    rw [stands.result] at failed
    cases failed
  · rw [told] at stands
    cases stands.result.symm.trans failed
    exact ⟨front, failing, t, cut, stands.journal, before, Entry.outward_of_replay_error fails,
      stands.sink ▸ fails⟩

/-! ## What is settled beforehand -/

section

variable {program : String} {arguments : List String}

theorem launch_of_takes_exit (takes : w.sink.Takes (Text.Utf8.encode (echoLine "exit"))) :
    launch F ("exit" :: arguments) w =
      ⟨.ok .exit, { w with sink := w.sink.afterTaking (Text.Utf8.encode (echoLine "exit")) },
        [.wrote (Text.Utf8.encode (echoLine "exit")), .flushed]⟩ :=
  launch_of_exit (Sink.say_of_takes takes) rfl

/-- A sink that does not take the echo breaks the launch off before anybody is asked. -/
theorem launch_of_not_takes (not : ¬ w.sink.Takes (Text.Utf8.encode (echoLine program))) :
    ∃ e t part,
      launch F (program :: arguments) w = ⟨.error e, { w with sink := t }, [.wrote part]⟩ ∧
        part <+: Text.Utf8.encode (echoLine program) := by
  obtain ⟨e, t, said⟩ := Sink.say_of_not_takes not
  exact ⟨e, t, _, launch_of_unsaid said, w.sink.fitting_isPrefix _⟩

/-- Once the echo is taken, the facility is asked, and a start that it refuses is reported as far
as the sink takes the report. -/
theorem launch_of_takes_refused (takes : w.sink.Takes (Text.Utf8.encode (echoLine program)))
    (other : program ≠ "exit") {x : StartError} {s : σ}
    (refused : F.spawn (program :: arguments) w.facility = (.error x, s)) :
    let heard := w.sink.afterTaking (Text.Utf8.encode (echoLine program))
    let report := Text.Utf8.encode (failureLine program x)
    let asked : Journal := [.wrote (Text.Utf8.encode (echoLine program)), .flushed,
      .spawned (program :: arguments) (.error x), .logged (.dispatchFailed program x)]
    (heard.Takes report → launch F (program :: arguments) w =
      ⟨.ok .failed, ⟨s, heard.afterTaking report⟩, asked ++ [.wrote report, .flushed]⟩) ∧
    (¬ heard.Takes report → ∃ e t part, launch F (program :: arguments) w =
      ⟨.error e, ⟨s, t⟩, asked ++ [.wrote part]⟩ ∧ part <+: report) := by
  intro heard report asked
  have said := Sink.say_of_takes takes
  constructor
  · intro reported
    exact launch_of_refused said other refused (Sink.say_of_takes reported)
  · intro unreported
    obtain ⟨e, t, broken⟩ := Sink.say_of_not_takes unreported
    exact ⟨e, t, _, launch_of_refused said other refused broken, heard.fitting_isPrefix _⟩

end

/-- A launch keeps track of the child that it starts. Take any facility, any words, and any
sink, which may run full or fail at a flush.

Without words nothing is written and the launch has failed. A sink that does not take the
program and a newline breaks the launch off with an error, and the facility is not asked. If it
takes them, `exit` is what comes of the command `exit`, and nothing else is done. Any other
program the facility is asked to start, once, with these very words. The child that it gives is
what comes of the launch, and nothing more is written; if it refuses, or breaks, then program
and reason are written and flushed, and the launch has failed, unless the sink does not take the
report.

Seen from its end: the facility is asked at most once, and only after the echo has been accepted
and flushed. An exit comes only of the command `exit`, a child only of a start that gave it, and
a launch has failed only if there were no words or the start was refused and this was reported.
A launch ends with an error only if a write or a flush of the sink has failed with that error,
once the sink had taken all that stands before; and then the facility was not asked, or has
started nobody. -/
theorem launch_keeps_child (F : Facility σ) (argv : List String) (w : World σ) :
    let run := launch F argv w
    let j := run.journal
    let program := argv.headD ""
    let echo := Text.Utf8.encode (program ++ "\n")
    let report (x : StartError) := Text.Utf8.encode (program ++ ": " ++ x.message ++ "\n")
    let heard := w.sink.afterTaking echo
    let refusal (x : StartError) : Journal :=
      [.wrote echo, .flushed, .spawned argv (.error x), .logged (.dispatchFailed program x)]
    F.Trace w.facility j.calls run.state.facility ∧
    (argv = [] → run = ⟨.ok .failed, w, []⟩) ∧
    (argv ≠ [] → ¬ w.sink.Takes echo →
      ∃ e t part, run = ⟨.error e, ⟨w.facility, t⟩, [.wrote part]⟩ ∧ part <+: echo) ∧
    (argv.head? = some "exit" → w.sink.Takes echo →
      run = ⟨.ok .exit, ⟨w.facility, heard⟩, [.wrote echo, .flushed]⟩) ∧
    (argv ≠ [] → program ≠ "exit" → w.sink.Takes echo →
      (∀ h s, F.spawn argv w.facility = (.ok h, s) →
        run = ⟨.ok (.started h), ⟨s, heard⟩,
          [.wrote echo, .flushed, .spawned argv (.ok h), .logged (.dispatched program h)]⟩) ∧
      ∀ x s, F.spawn argv w.facility = (.error x, s) →
        (heard.Takes (report x) → run = ⟨.ok .failed, ⟨s, heard.afterTaking (report x)⟩,
          refusal x ++ [.wrote (report x), .flushed]⟩) ∧
        (¬ heard.Takes (report x) → ∃ e t part,
          run = ⟨.error e, ⟨s, t⟩, refusal x ++ [.wrote part]⟩ ∧ part <+: report x)) ∧
    (j.calls = [] ∨ argv ≠ [] ∧ program ≠ "exit" ∧ ∃ answer rest,
      j = .wrote echo :: .flushed :: .spawned argv answer :: rest ∧ Journal.calls rest = []) ∧
    (run.result = .ok .exit ↔ argv.head? = some "exit" ∧ j = [.wrote echo, .flushed]) ∧
    (∀ h, run.result = .ok (.started h) ↔ j.calls = [.spawn argv (.ok h)]) ∧
    (∀ h, run.result = .ok (.started h) →
      j = [.wrote echo, .flushed, .spawned argv (.ok h), .logged (.dispatched program h)]) ∧
    (run.result = .ok .failed ↔
      argv = [] ∧ j = [] ∨ ∃ x, j = refusal x ++ [.wrote (report x), .flushed]) ∧
    (∀ x, j.calls = [.spawn argv (.error x)] → ∃ told, j = refusal x ++ told ∧
        (run.result = .ok .failed ∧ told = [.wrote (report x), .flushed] ∨
          ∃ e part, run.result = .error e ∧ told = [.wrote part] ∧ part <+: report x)) ∧
    (∀ e, run.result = .error e →
      (j.calls = [] ∨ ∃ x, j.calls = [.spawn argv (.error x)]) ∧
      ∃ front failing t cut, j = front ++ cut ∧ Sink.replay front w.sink = ⟨.ok (), t, front⟩ ∧
        ((∃ bytes, failing = Entry.wrote bytes) ∨ failing = .flushed) ∧
        failing.replay t = ⟨.error e, run.state.sink, cut⟩) := by
  intro run j program echo report heard refusal
  have journal : LaunchJournal argv run.result j := launch_journal F argv w
  refine ⟨faithful_launch F argv w, ?nothing, ?unsaid, ?exit, ?asked, journal.asked,
    journal.exit_iff, journal.started_iff, fun h => journal.of_started, journal.failed_iff,
    fun x => journal.of_refused, fun e failed => ?broken⟩
  case nothing =>
    rintro rfl
    rfl
  case unsaid =>
    intro words not
    obtain ⟨_, arguments, rfl⟩ := List.exists_cons_of_ne_nil words
    exact launch_of_not_takes not
  case exit =>
    intro first takes
    obtain ⟨arguments, rfl⟩ := List.head?_eq_some_iff.1 first
    exact launch_of_takes_exit takes
  case asked =>
    intro words other takes
    obtain ⟨_, arguments, rfl⟩ := List.exists_cons_of_ne_nil words
    refine ⟨fun h s given => ?_, fun x s refused => launch_of_takes_refused takes other refused⟩
    exact launch_of_started (Sink.say_of_takes takes) other given
  case broken => exact ⟨journal.calls_of_error failed, (replays_launch F argv).of_error failed⟩

/-- Launches of `exit`, of `a`, and of `bad`, which cannot be started: with room for the echo alone,
with room for the report too, and with room for three bytes of it. -/
theorem launches_with_little_room :
    let F := Scripted.facility { faults := [("bad", .other "no")] }
    let told (text : String) : Entry := .wrote (Text.Utf8.encode text)
    let room (n : Nat) : World Scripted.State := ⟨{}, { limit := some n }⟩
    launch F ["exit", "x"] (room 5) =
      ⟨.ok .exit, ⟨{}, { limit := some 5, accepted := 5, flushes := 1 }⟩,
        [told "exit\n", .flushed]⟩ ∧
    (launch F ["a", "x"] (room 2)).result = .ok (.started (.ofIndex 0)) ∧
    Journal.calls (launch F ["a", "x"] (room 2)).journal = [.spawn ["a", "x"] (.ok (.ofIndex 0))] ∧
    (launch F ["bad"] (room 12)).result = .ok .failed ∧
    (launch F ["bad"] (room 12)).journal = [told "bad\n", .flushed,
      .spawned ["bad"] (.error (.other "no")), .logged (.dispatchFailed "bad" (.other "no")),
      told "bad: no\n", .flushed] ∧
    ∃ e, (launch F ["bad"] (room 7)).result = .error e := by
  intro F told room
  obtain ⟨_, _, _, exit, _⟩ := launch_keeps_child F ["exit", "x"] (room 5)
  obtain ⟨_, _, _, _, asked, _, _, started, _⟩ := launch_keeps_child F ["a", "x"] (room 2)
  obtain ⟨_, _, _, _, refused, _⟩ := launch_keeps_child F ["bad"] (room 12)
  obtain ⟨_, _, _, _, broken, _⟩ := launch_keeps_child F ["bad"] (room 7)
  have given := (asked (by decide) (by decide) (by decide)).1 (.ofIndex 0) _ rfl
  have reported := ((refused (by decide) (by decide) (by decide)).2 (.other "no") {} rfl).1
    (by decide)
  obtain ⟨e, t, part, cut, _⟩ :=
    ((broken (by decide) (by decide) (by decide)).2 (.other "no") {} rfl).2 (by decide)
  refine ⟨exit rfl (by decide), congrArg Run.result given, ?_, congrArg Run.result reported,
    congrArg Run.journal reported, e, congrArg Run.result cut⟩
  exact (started _).1 (congrArg Run.result given)

end CommandChains
