import CommandChains.Proofs.Chain.Run
import CommandChains.Proofs.Chain.Words
import CommandChains.Proofs.Facility.Trace

/-!
# The account of a chain's run

What a run asks of its facility falls into stages, one for each command it comes to:
first the calls that wait, then the call that starts the command. After the last
command there may be one more wait.

`Chain.Course` says which accounts are those of a run: how the stages follow the
commands, who is awaited at each pause, and how the way the run ends shows in the last
stage. Everything in it is about single stages and what stands before them.
`Chain.exists_recounts` gives every run its account, for any facility and any sink.
-/

namespace CommandChains

namespace Command

/-- Whether a command asks for the end of the session. -/
def isExit (c : Command) : Bool :=
  c.argv.head? == some "exit"

theorem isExit_cons {c : Command} {program : String} {arguments : List String}
    (argv : c.argv = program :: arguments) : c.isExit = true ↔ program = "exit" := by
  simp [isExit, argv]

end Command

namespace Chain

variable {σ : Type}

/-- The commands up to the first one that asks for the end of the session, with it. -/
def throughExit (commands : List Command) : List Command :=
  commands.takeWhile (fun c => !c.isExit) ++ (commands.find? Command.isExit).toList

@[simp] theorem throughExit_nil : throughExit [] = [] := rfl

theorem throughExit_cons_of_exit {c : Command} (rest : List Command) (h : c.isExit = true) :
    throughExit (c :: rest) = [c] := by
  simp [throughExit, h]

theorem throughExit_cons_of_not_exit {c : Command} (rest : List Command)
    (h : c.isExit = false) : throughExit (c :: rest) = c :: throughExit rest := by
  simp [throughExit, h]

/-- What was done about one command. -/
structure Stage where
  command : Command
  waits : List Call
  /-- The answer to its start, if the facility was asked for it. -/
  answer : Option (Except StartError Handle)

namespace Stage

def calls (stage : Stage) : List Call :=
  stage.waits ++ (stage.answer.map (Call.spawn stage.command.argv)).toList

def child? (stage : Stage) : Option Handle :=
  stage.answer.bind Except.toOption

end Stage

def lastStarted (done : List Stage) : Option Handle :=
  (done.filterMap Stage.child?).getLast?

/-- The delimiter behind the last command of some stages. -/
def closing (done : List Stage) : Option Delimiter :=
  done.getLast?.bind fun stage => stage.command.closedBy

/-- Who is awaited before a command that comes after some stages. -/
def due (done : List Stage) : Option Handle :=
  if closing done = some .sequential then lastStarted done else none

@[simp] theorem lastStarted_nil : lastStarted [] = none := rfl

@[simp] theorem closing_nil : closing [] = none := rfl

@[simp] theorem closing_concat (done : List Stage) (stage : Stage) :
    closing (done ++ [stage]) = stage.command.closedBy := by
  simp [closing]

@[simp] theorem lastStarted_concat (done : List Stage) (stage : Stage) :
    lastStarted (done ++ [stage]) = stage.child?.or (lastStarted done) := by
  cases h : stage.child? <;> simp [lastStarted, h]

theorem due_eq_some_iff {done : List Stage} {h : Handle} :
    due done = some h ↔ closing done = some .sequential ∧ lastStarted done = some h := by
  unfold due
  split <;> simp_all

/-- All that a run asks of its facility. -/
structure Account where
  stages : List Stage
  /-- The calls that wait after the last command. -/
  final : List Call

def Account.calls (a : Account) : List Call :=
  a.stages.flatMap Stage.calls ++ a.final

/-- How the end of a run shows in its account, if `done` came before it. -/
def Account.EndsWith (background : Bool) (done : List Stage) (commands : List Command)
    (a : Account) : Except SystemError Ending → Prop
  | .ok .completed =>
    a.stages.map Stage.command = commands ∧ (∀ stage ∈ a.stages, stage.answer ≠ none) ∧
      Pause (if background then none else lastStarted (done ++ a.stages)) a.final
  | .ok .exit =>
    a.stages.map Stage.command = throughExit commands ∧ a.final = [] ∧
      ∃ front stage, a.stages = front ++ [stage] ∧ stage.command.isExit = true
  | .error _ =>
    a.final = [] ∧ ∃ front stage, a.stages = front ++ [stage] ∧ stage.child? = none

/-- The accounts of a run of commands that goes on after some stages. -/
structure Course (background : Bool) (done : List Stage) (commands : List Command)
    (result : Except SystemError Ending) (a : Account) : Prop where
  /-- The stages are about the commands, in order, and go no further than an exit. -/
  follows : a.stages.map Stage.command <+: throughExit commands
  /-- Before each command the child that is due is awaited. -/
  pause : ∀ {front stage rest}, a.stages = front ++ stage :: rest →
    Pause (due (done ++ front)) stage.waits
  /-- A command is gone beyond only when the facility has answered to its start. -/
  answered : ∀ stage ∈ a.stages.dropLast, stage.answer ≠ none
  /-- The facility is never asked to start an exit. -/
  exit : ∀ stage ∈ a.stages, stage.command.isExit = true → stage.answer = none
  ending : a.EndsWith background done commands result

namespace Course

variable {background : Bool} {done : List Stage} {c : Command} {rest : List Command}
variable {result : Except SystemError Ending} {a : Account}

theorem finish {final : List Call}
    (pause : Pause (if background then none else lastStarted done) final) :
    Course background done [] (.ok .completed) ⟨[], final⟩ where
  follows := List.nil_prefix
  pause h := by simp at h
  answered := by simp
  exit := by simp
  ending := ⟨rfl, by simp, by simpa using pause⟩

/-- Facts about a first stage and about what follows it are facts about all stages. -/
private theorem pause_cons {stage : Stage} {stages : List Stage}
    (first : Pause (due done) stage.waits)
    (others : ∀ {front next rest}, stages = front ++ next :: rest →
      Pause (due ((done ++ [stage]) ++ front)) next.waits)
    {front : List Stage} {next : Stage} {rest : List Stage}
    (h : stage :: stages = front ++ next :: rest) : Pause (due (done ++ front)) next.waits := by
  rcases List.cons_eq_append_iff.1 h with ⟨rfl, same⟩ | ⟨more, rfl, same⟩
  · cases same
    simpa using first
  · simpa using others same

private theorem pause_single {stage : Stage} (first : Pause (due done) stage.waits)
    {front : List Stage} {next : Stage} {rest : List Stage}
    (h : [stage] = front ++ next :: rest) : Pause (due (done ++ front)) next.waits :=
  pause_cons first (by simp) h

/-- A run that comes to an exit ends there. -/
theorem stop {waits : List Call} (pause : Pause (due done) waits) (exit : c.isExit = true) :
    Course background done (c :: rest) (.ok .exit) ⟨[⟨c, waits, none⟩], []⟩ where
  follows := by simp [throughExit_cons_of_exit rest exit]
  pause := pause_single pause
  answered := by simp
  exit := by simp
  ending := by
    refine ⟨by simp [throughExit_cons_of_exit rest exit], rfl, [], _, rfl, exit⟩

/-- A run whose sink fails ends at the command it has come to. -/
theorem broken {waits : List Call} {answer : Option (Except StartError Handle)}
    {e : SystemError} (pause : Pause (due done) waits)
    (nothing : (Stage.mk c waits answer).child? = none)
    (exit : c.isExit = true → answer = none) :
    Course background done (c :: rest) (.error e) ⟨[⟨c, waits, answer⟩], []⟩ where
  follows := by
    cases h : c.isExit with
    | true => simp [throughExit_cons_of_exit rest h]
    | false => simp [throughExit_cons_of_not_exit rest h]
  pause := pause_single pause
  answered := by simp
  exit := by simpa using exit
  ending := ⟨rfl, [], _, rfl, nothing⟩

/-- A run goes beyond a command that the facility has answered to. -/
theorem next {waits final : List Call} {answer : Except StartError Handle}
    {stages : List Stage} (pause : Pause (due done) waits) (exit : c.isExit = false)
    (after : Course background (done ++ [⟨c, waits, some answer⟩]) rest result ⟨stages, final⟩) :
    Course background done (c :: rest) result ⟨⟨c, waits, some answer⟩ :: stages, final⟩ where
  follows := by simpa [throughExit_cons_of_not_exit rest exit] using after.follows
  pause := pause_cons pause after.pause
  answered := by
    intro other mem
    cases stages with
    | nil => simp at mem
    | cons head tail =>
      rw [List.dropLast_cons_of_ne_nil (List.cons_ne_nil _ _)] at mem
      rcases List.mem_cons.1 mem with rfl | mem
      · exact Option.some_ne_none _
      · exact after.answered other mem
  exit := by
    intro other mem isExit
    rcases List.mem_cons.1 mem with rfl | mem
    · rw [exit] at isExit
      cases isExit
    · exact after.exit other mem isExit
  ending := by
    match result, after.ending with
    | .ok .completed, ⟨commands, all, final⟩ =>
      refine ⟨by simp [← commands], ?_, by simpa using final⟩
      intro other mem
      rcases List.mem_cons.1 mem with rfl | mem
      · exact Option.some_ne_none _
      · exact all other mem
    | .ok .exit, ⟨commands, final, front, last, same, isExit⟩ =>
      exact ⟨by simp [← commands, throughExit_cons_of_not_exit rest exit], final,
        _ :: front, last, congrArg (_ :: ·) same, isExit⟩
    | .error _, ⟨final, front, last, same, nothing⟩ =>
      exact ⟨final, _ :: front, last, congrArg (_ :: ·) same, nothing⟩

end Course

/-- A run of commands that goes on after some stages has an account. -/
theorem exists_course (F : Facility σ) (background : Bool) {commands : List Command}
    (nonempty : ∀ c ∈ commands, c.argv ≠ []) (done : List Stage) (w : World σ) :
    ∃ a : Account,
      (runCommands F background commands (lastStarted done) (closing done) w).journal.calls =
        a.calls ∧
      Course background done commands
        (runCommands F background commands (lastStarted done) (closing done) w).result a := by
  induction commands generalizing done w with
  | nil =>
    rw [runCommands_nil]
    obtain ⟨s, j, performed, pause⟩ :=
      awaitLast_run F (if background then none else lastStarted done) w
    rw [Activity.bind_run_ok performed]
    exact ⟨⟨[], Journal.calls j⟩, by simp [Account.calls, Journal.calls], .finish pause⟩
  | cons c rest ih =>
    rw [List.forall_mem_cons] at nonempty
    obtain ⟨s, j, performed, pause⟩ := awaitLast_run F (due done) w
    rw [runCommands_cons, ← due, Activity.bind_run_ok performed]
    have launch := launch_journal F c.argv { w with facility := s }
    rcases launched : CommandChains.launch F c.argv { w with facility := s } with ⟨result, t, k⟩
    rw [launched] at launch
    -- Once the facility has answered, the rest of the run is the run after one more stage.
    have beyond : ∀ answer, c.isExit = false →
        Journal.calls k = [.spawn c.argv answer] →
        let stage : Stage := ⟨c, Journal.calls j, some answer⟩
        let after := runCommands F background rest (lastStarted (done ++ [stage]))
          (closing (done ++ [stage])) t
        ∃ a : Account, Journal.calls (j ++ (k ++ after.journal)) = a.calls ∧
          Course background done (c :: rest) after.result a := by
      intro answer exit calls stage after
      obtain ⟨⟨stages, final⟩, same, course⟩ := ih nonempty.2 (done ++ [stage]) t
      refine ⟨⟨stage :: stages, final⟩, ?_, .next pause exit course⟩
      simp only [Journal.calls_append, after, same, calls]
      simp [Account.calls, Stage.calls, stage]
    generalize argv : c.argv = words at launch launched
    cases launch with
    | nothing => exact absurd argv nonempty.1
    | unsaid e =>
      rw [Activity.bind_run_error launched]
      exact ⟨⟨[⟨c, Journal.calls j, none⟩], []⟩, by simp [Account.calls, Stage.calls]; rfl,
        .broken pause rfl fun _ => rfl⟩
    | exit arguments =>
      rw [Activity.bind_run_ok launched]
      exact ⟨⟨[⟨c, Journal.calls j, none⟩], []⟩, by simp [Account.calls, Stage.calls]; rfl,
        .stop pause ((Command.isExit_cons argv).2 rfl)⟩
    | started handle other =>
      have exit : c.isExit = false := by simp [Command.isExit, argv, other]
      rw [Activity.bind_run_ok launched]
      simpa [Stage.child?, Except.toOption] using beyond (.ok handle) exit (argv ▸ rfl)
    | failed x other =>
      have exit : c.isExit = false := by simp [Command.isExit, argv, other]
      rw [Activity.bind_run_ok launched]
      simpa [Stage.child?, Except.toOption] using beyond (.error x) exit (argv ▸ rfl)
    | unreported x e other =>
      rw [Activity.bind_run_error launched]
      exact ⟨⟨[⟨c, Journal.calls j, some (.error x)⟩], []⟩,
        by simp [Account.calls, Stage.calls, argv]; rfl,
        .broken pause rfl fun exit => absurd ((Command.isExit_cons argv).1 exit) other⟩

/-- An account of one run of a chain: its calls are those that the run made, with the
answers that the facility gave, and it is laid out as the commands demand. -/
structure Account.Recounts (a : Account) (F : Facility σ) (chain : Chain) (w : World σ) :
    Prop where
  calls : (chain.run F w).journal.calls = a.calls
  trace : F.Trace w.facility a.calls (chain.run F w).state.facility
  course : Course (chain.closedBy == some .concurrent) [] chain.worded (chain.run F w).result a

theorem exists_recounts (F : Facility σ) (chain : Chain) (w : World σ) :
    ∃ a : Account, a.Recounts F chain w := by
  obtain ⟨a, calls, course⟩ := exists_course F chain.endsInBackground
    (fun _ => ne_nil_of_mem_dispatchable) [] w
  have trace := faithful_run (F := F) chain w
  change (chain.run F w).journal.calls = a.calls at calls
  change Course _ [] _ (chain.run F w).result a at course
  rw [calls] at trace
  rw [endsInBackground_eq, dispatchable_eq_worded] at course
  exact ⟨a, calls, trace, course⟩

end Chain

end CommandChains
