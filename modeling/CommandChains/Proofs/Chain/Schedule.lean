import Mathlib
import CommandChains.Facility.Scripted
import CommandChains.Proofs.Chain.Account

/-!
# The schedule of a chain

On a sink that does not fail, the calls of a run are settled by the commands, by what
starts succeed, and by nothing else. They are laid out here: the commands through the
first `exit`, each with the calls that wait before it and the one call that starts it,
and what is waited for after the last.
-/

namespace CommandChains.Chain

variable {σ : Type}

theorem throughExit_eq_self {commands : List Command}
    (none_ : ∀ c ∈ commands, c.isExit = false) : throughExit commands = commands := by
  induction commands with
  | nil => rfl
  | cons c rest ih =>
    rw [List.forall_mem_cons] at none_
    rw [throughExit_cons_of_not_exit rest none_.1, ih none_.2]

namespace Course

variable {background : Bool} {done : List Stage} {commands : List Command} {a : Account}

/-- A run that is completed has come to no exit. -/
theorem not_exit_of_completed (course : Course background done commands (.ok .completed) a) :
    ∀ c ∈ commands, c.isExit = false := by
  obtain ⟨same, answered, _⟩ := course.ending
  intro c mem
  rw [← same] at mem
  obtain ⟨stage, inside, rfl⟩ := List.mem_map.1 mem
  cases isExit : stage.command.isExit with
  | false => rfl
  | true => exact absurd (course.exit stage inside isExit) (answered stage inside)

/-- A run that nothing disturbs goes through all the commands that can be reached. -/
theorem commands_of_ok {ending : Ending}
    (course : Course background done commands (.ok ending) a) :
    a.stages.map Stage.command = throughExit commands := by
  cases ending with
  | completed => rw [throughExit_eq_self course.not_exit_of_completed, course.ending.1]
  | exit => exact course.ending.1

/-- In a run that nothing disturbs the facility is asked to start all but the exit. -/
theorem answer_eq_none_iff {ending : Ending}
    (course : Course background done commands (.ok ending) a) {stage : Stage}
    (mem : stage ∈ a.stages) : stage.answer = none ↔ stage.command.isExit = true := by
  refine ⟨fun nothing => ?_, course.exit stage mem⟩
  cases ending with
  | completed => exact absurd nothing (course.ending.2.1 stage mem)
  | exit =>
    obtain ⟨_, _, front, last, stages, isExit⟩ := course.ending
    rw [stages, List.mem_append, List.mem_singleton] at mem
    rcases mem with early | rfl
    · refine absurd nothing (course.answered stage ?_)
      rw [stages, List.dropLast_concat]
      exact early
    · exact isExit

/-- After the last command a child is awaited unless an exit was reached or the chain
is left in the background. -/
theorem final_pause {ending : Ending}
    (course : Course background done commands (.ok ending) a) :
    Pause (if ending = .exit ∨ background = true then none else lastStarted (done ++ a.stages))
      a.final := by
  cases ending with
  | completed => simpa using course.ending.2.2
  | exit =>
    rw [if_pos (.inl rfl)]
    exact course.ending.2.1

/-- The way the run ends tells whether an exit was reached. -/
theorem exit_iff {ending : Ending} (course : Course background done commands (.ok ending) a) :
    ending = .exit ↔ ∃ c ∈ commands, c.isExit = true := by
  cases ending with
  | completed =>
    refine iff_of_false nofun ?_
    rintro ⟨c, mem, isExit⟩
    rw [course.not_exit_of_completed c mem] at isExit
    cases isExit
  | exit =>
    refine iff_of_true rfl ?_
    obtain ⟨_, _, front, last, stages, isExit⟩ := course.ending
    have mem : last.command ∈ throughExit commands := by
      rw [← course.commands_of_ok, stages]
      simp
    refine ⟨last.command, ?_, isExit⟩
    rcases List.mem_append.1 mem with early | found
    · exact (List.takeWhile_sublist _).subset early
    · exact List.mem_of_find?_eq_some (Option.mem_toList.1 found)

end Course

/-- Whether some command of a chain is an exit. -/
def exits (chain : Chain) : Bool :=
  chain.commands.any Command.isExit

theorem exits_iff_worded (chain : Chain) :
    chain.exits = true ↔ ∃ c ∈ chain.worded, c.isExit = true := by
  simp only [exits, List.any_eq_true, worded, List.mem_filter, decide_eq_true_eq]
  refine exists_congr fun c => ⟨?_, fun ⟨⟨mem, _⟩, isExit⟩ => ⟨mem, isExit⟩⟩
  rintro ⟨mem, isExit⟩
  refine ⟨⟨mem, fun empty => ?_⟩, isExit⟩
  simp [Command.isExit, empty] at isExit

/-- The schedule of a chain. Where the sink does not fail, the facility is asked for
exactly this: for each command that has words, through the first exit, the calls that wait
before it and then the one call that starts it with its words, save for the exit itself;
and at the end the calls that wait for the whole chain. Before a command the child started
last is awaited if the delimiter before it is `;`; at the end it is awaited if no exit was
reached and the last command of the chain, empty or not, is not closed by `&`; if no child
has been started, nobody is. -/
theorem calls_run_eq_schedule (F : Facility σ) (chain : Chain) (w : World σ)
    (unfailing : w.sink.Unfailing) :
    ∃ a : Account,
      (chain.run F w).journal.calls = a.calls ∧
      F.Trace w.facility a.calls (chain.run F w).state.facility ∧
      a.stages.map Stage.command = throughExit chain.worded ∧
      (∀ stage ∈ a.stages, stage.answer = none ↔ stage.command.isExit = true) ∧
      (∀ front stage rest, a.stages = front ++ stage :: rest →
        Pause (if closing front = some .sequential then lastStarted front else none)
          stage.waits) ∧
      Pause (if chain.exits = true ∨ chain.closedBy = some .concurrent then none
        else lastStarted a.stages) a.final ∧
      (chain.run F w).result = .ok (if chain.exits then .exit else .completed) := by
  obtain ⟨a, recounts⟩ := exists_recounts F chain w
  obtain ⟨⟨ending, result⟩, _⟩ := succeeds_run F chain w unfailing
  have course := recounts.course
  rw [result] at course
  have exits : ending = .exit ↔ chain.exits = true := by
    rw [course.exit_iff, exits_iff_worded]
  refine ⟨a, recounts.calls, recounts.trace, course.commands_of_ok,
    fun stage => course.answer_eq_none_iff, ?_, ?_, ?_⟩
  · intro front stage rest stages
    exact course.pause stages
  · simpa only [exits, beq_iff_eq, List.nil_append] using course.final_pause
  · rw [result]
    cases ending with
    | completed => simp [← exits]
    | exit => simp [← exits]

/-- The schedule of `a ; ; bad ; c & exit ; d`, where `bad` cannot be started. -/
theorem schedule_through_exit :
    let chain : Chain := ⟨[⟨["a"], some .sequential⟩, ⟨[], some .sequential⟩,
      ⟨["bad"], some .sequential⟩, ⟨["c"], some .concurrent⟩, ⟨["exit"], some .sequential⟩,
      ⟨["d"], none⟩]⟩
    let run := chain.run (Scripted.facility { missing := ["bad"] }) ⟨{}, .boundless⟩
    Sink.boundless.Unfailing ∧
    run.journal.calls = [.spawn ["a"] (.ok (.ofIndex 0)), .wait (.ok (.ofIndex 0)),
      .spawn ["bad"] (.error .notFound), .wait (.error .noChildren),
      .spawn ["c"] (.ok (.ofIndex 1))] ∧
    run.result = .ok .exit ∧
    ∃ a : Account, run.journal.calls = a.calls ∧
      a.stages.map Stage.command = [⟨["a"], some .sequential⟩, ⟨["bad"], some .sequential⟩,
        ⟨["c"], some .concurrent⟩, ⟨["exit"], some .sequential⟩] ∧
      a.final = [] := by
  intro chain run
  obtain ⟨a, calls, _, commands, _, _, final, result⟩ :=
    calls_run_eq_schedule (Scripted.facility { missing := ["bad"] }) chain ⟨{}, .boundless⟩
      Sink.unfailing_boundless
  rw [if_pos (.inl (by decide))] at final
  exact ⟨Sink.unfailing_boundless, by unfold run chain; cbv, result, a, calls, commands, final⟩

end CommandChains.Chain
