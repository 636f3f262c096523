import CommandChains.Proofs.Chain.Comparison
import CommandChains.Proofs.Chain.Cut
import CommandChains.Proofs.Chain.Schedule

/-!
# The transcript of a chain

What a run writes can be written down at once. For each command through the first exit there
is a line that names its program, and if it could not be started, a line that says why. No
other line is written. Arguments, delimiters, empty commands, handles and the ends of children
do not show: all that is said of a command is its `Mention`, which knows of none of these.

The commands are known beforehand, but whether a start succeeds is up to the facility, and it
may depend on what the facility was asked before. So the mentions are read off the account of
the run: the stage of a command holds the answer to its start.
-/

namespace CommandChains

/-- What the output says of a command: its program, and why it could not be started, if it
could not. -/
structure Mention where
  program : String
  failure : Option StartError

namespace Mention

/-- The mention of a command, if this was the answer to its start. -/
def of (c : Command) (answer : Option (Except StartError Handle)) : Mention where
  program := c.argv.headD ""
  failure := match answer with
    | some (.error x) => some x
    | _ => none

def text (m : Mention) : String :=
  m.program ++ "\n" ++
    match m.failure with
    | some x => m.program ++ ": " ++ x.message ++ "\n"
    | none => ""

def lines (m : Mention) : Nat :=
  1 + m.failure.toList.length

theorem text_unfailed (program : String) : text ⟨program, none⟩ = echoLine program :=
  String.append_empty

theorem text_failed (program : String) (x : StartError) :
    text ⟨program, some x⟩ = echoLine program ++ failureLine program x := rfl

/-- There is a line for each mention and one more for each failure. -/
theorem sum_lines (mentions : List Mention) :
    (mentions.map lines).sum = mentions.length + mentions.countP (·.failure.isSome) := by
  induction mentions with
  | nil => rfl
  | cons m rest ih =>
    obtain ⟨program, failure⟩ := m
    cases failure <;> simp [ih, lines] <;> omega

end Mention

/-! ## Journals that tell of commands -/

namespace Journal

def flushes (j : Journal) : Nat :=
  (flushMarks 0 j).length

theorem length_flushMarks (total : Nat) (j : Journal) :
    (flushMarks total j).length = flushes j := by
  induction j generalizing total with
  | nil => rfl
  | cons e rest ih =>
    unfold flushes at ih ⊢
    cases e <;> simp [flushMarks, ih]

theorem flushes_append (a b : Journal) : flushes (a ++ b) = flushes a + flushes b := by
  rw [flushes, flushMarks_append, List.length_append, length_flushMarks, length_flushMarks]

/-- What was written and flushed are these mentions, one after the other. -/
structure Tells (j : Journal) (mentions : List Mention) : Prop where
  output : j.output = mentions.flatMap fun m => Text.Utf8.encode m.text
  flushes : j.flushes = (mentions.map Mention.lines).sum

theorem Tells.append {j k : Journal} {a b : List Mention} (first : j.Tells a)
    (second : k.Tells b) : (j ++ k).Tells (a ++ b) where
  output := by rw [output_append, first.output, second.output, List.flatMap_append]
  flushes := by rw [flushes_append, first.flushes, second.flushes, List.map_append, List.sum_append]

/-- What does not show outwardly tells of nothing. -/
theorem tells_nil {j : Journal} (unseen : j.outward = []) : j.Tells [] where
  output := by rw [← output_outward, unseen]; rfl
  flushes := by rw [flushes, ← flushMarks_outward, unseen]; rfl

end Journal

/-- A launch that does not fail tells of its command. -/
theorem LaunchJournal.tells {c : Command} {launched : Launched} {j : Journal}
    (journal : LaunchJournal c.argv (.ok launched) j) (nonempty : c.argv ≠ []) :
    ∃ answer, j.starts = answer.toList ∧ j.Tells [.of c answer] ∧
      (c.isExit = true ↔ answer = none) ∧ (launched = .exit ↔ answer = none) := by
  obtain ⟨argv, closedBy⟩ := c
  dsimp only at journal nonempty
  cases journal with
  | nothing => exact absurd rfl nonempty
  | exit arguments =>
    refine ⟨none, rfl, ⟨?_, rfl⟩, by simp [Command.isExit], by simp⟩
    simp [Journal.output, Entry.bytes, Mention.of, Mention.text_unfailed]
  | @started program arguments handle other =>
    refine ⟨some (.ok handle), rfl, ⟨?_, rfl⟩, by simpa [Command.isExit] using other, by simp⟩
    simp [Journal.output, Entry.bytes, Mention.of, Mention.text_unfailed]
  | @failed program arguments x other =>
    refine ⟨some (.error x), rfl, ⟨?_, rfl⟩, by simpa [Command.isExit] using other, by simp⟩
    simp [Journal.output, Entry.bytes, Mention.of, Mention.text_failed]

namespace Chain

variable {σ : Type} {F : Facility σ} {background : Bool}

/-- A pause asks for nothing but ends, and nothing of it shows. -/
theorem awaitLast_unheard (F : Facility σ) (due : Option Handle) (w : World σ) :
    ∃ s j, awaitLast F due w = ⟨.ok (), { w with facility := s }, j⟩ ∧
      Journal.starts j = [] ∧ Journal.Tells j [] := by
  obtain ⟨s, j, performed, pause⟩ := awaitLast_run F due w
  obtain ⟨s', j', again, _, unseen⟩ :=
    awaitLast_unseen (F := F) (P := fun _ => True) (fun _ => trivial) due w trivial
  cases performed.symm.trans again
  exact ⟨s, j, performed, pause.starts, Journal.tells_nil unseen⟩

/-- The mentions of commands whose starts are answered like this, one after the other. An exit
is not started. -/
def mentions : List Command → List (Except StartError Handle) → List Mention
  | [], _ => []
  | c :: rest, answers =>
    if c.isExit then .of c none :: mentions rest answers
    else .of c answers.head? :: mentions rest answers.tail

theorem mentions_cons_of_exit {c : Command} (rest : List Command)
    (answers : List (Except StartError Handle)) (exit : c.isExit = true) :
    mentions (c :: rest) answers = .of c none :: mentions rest answers := by
  rw [mentions, if_pos exit]

theorem mentions_cons_of_not_exit {c : Command} (rest : List Command)
    (answer : Except StartError Handle) (answers : List (Except StartError Handle))
    (exit : c.isExit = false) :
    mentions (c :: rest) (answer :: answers) = .of c (some answer) :: mentions rest answers := by
  rw [mentions, if_neg (by simp [exit])]
  rfl

/-- On an unfailing sink a run of commands tells of those through the first exit. -/
theorem tells_runCommands {commands : List Command} (nonempty : ∀ c ∈ commands, c.argv ≠ [])
    (last : Option Handle) (pending : Option Delimiter) {w : World σ}
    (unfailing : w.sink.Unfailing) :
    let j := (runCommands F background commands last pending w).journal
    j.Tells (mentions (throughExit commands) j.starts) := by
  induction commands generalizing last pending w with
  | nil =>
    obtain ⟨s, j, performed, starts, tells⟩ :=
      awaitLast_unheard F (if background then none else last) w
    rw [runCommands_nil, Activity.bind_run_ok performed]
    simpa [starts, mentions] using tells
  | cons c rest ih =>
    rw [List.forall_mem_cons] at nonempty
    obtain ⟨s, j, performed, starts, tells⟩ :=
      awaitLast_unheard F (if pending = some .sequential then last else none) w
    obtain ⟨⟨launched, result⟩, still⟩ :=
      succeeds_launch F c.argv { w with facility := s } unfailing
    have journal := launch_journal F c.argv { w with facility := s }
    rcases went : launch F c.argv { w with facility := s } with ⟨r, v, k⟩
    rw [went] at result still journal
    dsimp only at result still journal
    subst result
    obtain ⟨answer, asked, told, isExit, exit⟩ := journal.tells nonempty.1
    rw [runCommands_cons, Activity.bind_run_ok performed, Activity.bind_run_ok went]
    -- Behind a start the run goes on, whatever child it has started last.
    have beyond : ∀ x last', answer = some x →
        let l := (runCommands F background rest last' c.closedBy v).journal
        (j ++ (k ++ l)).Tells (mentions (throughExit (c :: rest)) (j ++ (k ++ l)).starts) := by
      rintro x last' rfl l
      have other : c.isExit = false := by simpa using isExit
      have split : mentions (throughExit (c :: rest)) (j ++ (k ++ l)).starts =
          [] ++ ([.of c (some x)] ++ mentions (throughExit rest) l.starts) := by
        rw [throughExit_cons_of_not_exit rest other, Journal.starts_append,
          Journal.starts_append, starts, asked]
        exact mentions_cons_of_not_exit _ x l.starts other
      rw [split]
      exact tells.append (told.append (ih nonempty.2 last' c.closedBy still))
    cases launched with
    | exit =>
      obtain rfl := exit.1 rfl
      have ends : c.isExit = true := isExit.2 rfl
      have single : mentions (throughExit (c :: rest)) (j ++ (k ++ [])).starts =
          [] ++ [.of c none] := by
        rw [throughExit_cons_of_exit rest ends, mentions_cons_of_exit [] _ ends]
        rfl
      dsimp only [Activity.pure_run]
      rw [single, List.append_nil]
      exact tells.append told
    | started handle =>
      obtain ⟨x, rfl⟩ := Option.ne_none_iff_exists'.1 fun none_ => nomatch exit.2 none_
      exact beyond x (some handle) rfl
    | failed =>
      obtain ⟨x, rfl⟩ := Option.ne_none_iff_exists'.1 fun none_ => nomatch exit.2 none_
      exact beyond x last rfl

/-! ## The transcript -/

/-- What the output says about a stage. -/
def Stage.mention (stage : Stage) : Mention :=
  .of stage.command stage.answer

theorem Stage.starts {stage : Stage} {due : Option Handle} (pause : Pause due stage.waits) :
    stage.calls.filterMap Call.startAnswer? = stage.answer.toList := by
  rw [Stage.calls, List.filterMap_append, pause.starts]
  cases stage.answer <;> rfl

/-- The starts of some stages are answered as the stages say. -/
theorem starts_of_stages {stages : List Stage}
    (pauses : ∀ stage ∈ stages, ∃ due, Pause due stage.waits) :
    (stages.flatMap Stage.calls).filterMap Call.startAnswer? = stages.filterMap Stage.answer := by
  induction stages with
  | nil => rfl
  | cons stage rest ih =>
    rw [List.forall_mem_cons] at pauses
    obtain ⟨⟨due, pause⟩, others⟩ := pauses
    rw [List.flatMap_cons, List.filterMap_append, Stage.starts pause, ih others]
    cases answer : stage.answer <;> simp [answer]

/-- The answers of some stages make the mentions of their commands those of the stages. -/
theorem mentions_of_stages {stages : List Stage}
    (asked : ∀ stage ∈ stages, stage.answer = none ↔ stage.command.isExit = true) :
    mentions (stages.map Stage.command) (stages.filterMap Stage.answer) =
      stages.map Stage.mention := by
  induction stages with
  | nil => rfl
  | cons stage rest ih =>
    rw [List.forall_mem_cons] at asked
    rw [List.map_cons, List.map_cons, ← ih asked.2]
    cases answer : stage.answer with
    | none =>
      rw [List.filterMap_cons_none answer, mentions_cons_of_exit _ _ (asked.1.1 answer),
        Stage.mention, answer]
    | some x =>
      have other : stage.command.isExit = false := by
        simpa [answer] using asked.1
      rw [List.filterMap_cons_some answer, mentions_cons_of_not_exit _ _ _ other,
        Stage.mention, answer]

/-- The transcript of a chain. On a sink that does not fail, a run writes this and nothing else:
for each command through the first exit, in order, a line with the command's first word, and if
the command could not be started, a line with that word and the reason. The sink is flushed once
for each of these lines.

The reasons are the answers that the facility has given to the starts of these very commands:
they are read off an account of all the calls of the run. Of the account the output shows
nothing else, neither a wait nor a handle, and of the chain nothing but first words. -/
theorem transcript_of_run (F : Facility σ) (chain : Chain) (w : World σ)
    (unfailing : w.sink.Unfailing) :
    let journal := (chain.run F w).journal
    ∃ a : Account,
      journal.calls = a.calls ∧
      F.Trace w.facility a.calls (chain.run F w).state.facility ∧
      a.stages.map Stage.command = throughExit chain.worded ∧
      (∀ stage ∈ a.stages, stage.answer = none ↔ stage.command.isExit = true) ∧
      journal.output = a.stages.flatMap (fun stage => Text.Utf8.encode stage.mention.text) ∧
      (Journal.flushMarks 0 journal).length =
        a.stages.length + a.stages.countP (fun stage => stage.mention.failure.isSome) := by
  obtain ⟨a, recounts⟩ := exists_recounts F chain w
  obtain ⟨⟨ending, result⟩, _⟩ := succeeds_run F chain w unfailing
  have course := recounts.course
  rw [result] at course
  have asked : ∀ stage ∈ a.stages, stage.answer = none ↔ stage.command.isExit = true :=
    fun stage => course.answer_eq_none_iff
  have pauses : ∀ stage ∈ a.stages, ∃ due, Pause due stage.waits := by
    intro stage mem
    obtain ⟨front, rest, same⟩ := List.append_of_mem mem
    exact ⟨_, course.pause same⟩
  have starts : (chain.run F w).journal.starts = a.stages.filterMap Stage.answer := by
    rw [Journal.starts, recounts.calls, Account.calls, List.filterMap_append,
      starts_of_stages pauses, course.final_pause.starts, List.append_nil]
  have tells : (chain.run F w).journal.Tells
      (mentions (throughExit chain.worded) (chain.run F w).journal.starts) := by
    rw [← dispatchable_eq_worded]
    exact tells_runCommands (fun _ => ne_nil_of_mem_dispatchable) none none unfailing
  rw [starts, ← course.commands_of_ok, mentions_of_stages asked] at tells
  refine ⟨a, recounts.calls, recounts.trace, course.commands_of_ok, asked, ?_, ?_⟩
  · rw [tells.output, List.flatMap_map]
  · rw [Journal.length_flushMarks, tells.flushes, Mention.sum_lines, List.length_map,
      List.countP_map]
    rfl

/-- In `a x ; ; bad y & exit z ; d`, where `bad` cannot be started, the first words through the
exit are told, and what `bad` fails with. -/
theorem transcript_through_exit :
    let chain : Chain :=
      ⟨[⟨["a", "x"], some .sequential⟩, ⟨[], some .sequential⟩,
        ⟨["bad", "y"], some .concurrent⟩, ⟨["exit", "z"], some .sequential⟩, ⟨["d"], none⟩]⟩
    let F := Scripted.facility { faults := [("bad", .other "no")] }
    let journal := (chain.run F ⟨{}, .boundless⟩).journal
    Sink.boundless.Unfailing ∧
    journal.output = Text.Utf8.encode "a\nbad\nbad: no\nexit\n" ∧
    ∃ a : Account,
      a.stages.map (fun stage => stage.command.argv) =
        [["a", "x"], ["bad", "y"], ["exit", "z"]] ∧
      journal.output = a.stages.flatMap (fun stage => Text.Utf8.encode stage.mention.text) ∧
      (Journal.flushMarks 0 journal).length =
        a.stages.length + a.stages.countP (fun stage => stage.mention.failure.isSome) := by
  intro chain F journal
  refine ⟨Sink.unfailing_boundless, by unfold journal F chain; cbv, ?_⟩
  obtain ⟨a, _, _, commands, _, output, flushes⟩ :=
    transcript_of_run F chain ⟨{}, .boundless⟩ Sink.unfailing_boundless
  refine ⟨a, ?_, output, flushes⟩
  have argvs := congrArg (List.map Command.argv) commands
  rw [List.map_map] at argvs
  exact argvs

end Chain

end CommandChains
