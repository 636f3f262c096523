import Mathlib
import CommandChains.Facility.Scripted
import CommandChains.Proofs.Chain.Account
import CommandChains.Proofs.Chain.Words

/-!
# Lines cut at a delimiter

A line may be given in two parts. If the first part ends with a delimiter behind a command,
then running the whole line is running the two parts one after the other: the wait at the
end of the first part is the wait that the delimiter asks for in the middle of the line.

There is one difference. A whole line keeps in mind the child started last while it goes
over from the first part to the second, and two lines do not. So the law holds where this
is forgotten anyway: at an exit, and where the first command of the second part has been
started.

`Chain.passOver` is the part of a run that goes over some commands and says where it stands
behind them. A run of a chain is passing over its first commands and running the others.
-/

namespace CommandChains

/-- The answer to a start, if a call asks for one. -/
def Call.startAnswer? : Call → Option (Except StartError Handle)
  | spawn _ answer => some answer
  | wait _ => none

/-- The answers to the starts that were asked for, in order. -/
def Journal.starts (j : Journal) : List (Except StartError Handle) :=
  j.calls.filterMap Call.startAnswer?

@[simp] theorem Journal.starts_append (a b : Journal) : starts (a ++ b) = starts a ++ starts b := by
  simp [starts]

theorem WaitsFor.starts {h : Handle} {calls : List Call} (waits : WaitsFor h calls) :
    calls.filterMap Call.startAnswer? = [] := by
  induction waits with
  | ended => rfl
  | failed e => rfl
  | other _ _ ih => exact ih

theorem Pause.starts {due : Option Handle} {calls : List Call} (pause : Pause due calls) :
    calls.filterMap Call.startAnswer? = [] := by
  cases due with
  | none => rw [pause]; rfl
  | some h => exact WaitsFor.starts pause

namespace Chain

variable {σ : Type} {F : Facility σ} {background : Bool} {c : Command}
variable {commands rest : List Command}

/-! ## Passing over commands -/

/-- Where a run stands between two commands. -/
structure Standing where
  last : Option Handle := none
  /-- The delimiter behind the command before. -/
  pending : Option Delimiter := none

/-- Who is awaited before the next command. -/
def Standing.due (s : Standing) : Option Handle :=
  if s.pending = some .sequential then s.last else none

/-- Launches commands as a run does and says where the run stands behind them, unless one
of them is an exit. -/
def passOver (F : Facility σ) :
    List Command → Standing → Activity (World σ) SystemError (Option Standing)
  | [], s => pure (some s)
  | c :: rest, s => do
    awaitLast F s.due
    match ← launch F c.argv with
    | .exit => pure none
    | .started handle => passOver F rest ⟨some handle, c.closedBy⟩
    | .failed => passOver F rest ⟨s.last, c.closedBy⟩

/-- A run passes over its first commands and then runs the others. -/
theorem runCommands_append (background : Bool) (first second : List Command) (s : Standing) :
    runCommands F background (first ++ second) s.last s.pending = (do
      let standing ← passOver F first s
      standing.elim (pure .exit) fun t => runCommands F background second t.last t.pending) := by
  -- The induction is on the commands passed over, for any standing before them.
  induction first generalizing s with
  | nil => simp [passOver]
  | cons c rest ih =>
    rw [List.cons_append, runCommands_cons, passOver]
    simp only [bind_assoc]
    congr 1
    funext _
    congr 1
    funext launched
    cases launched with
    | exit => simp
    | started handle => exact ih ⟨some handle, c.closedBy⟩
    | failed => exact ih ⟨s.last, c.closedBy⟩

/-- A launch that is no exit has asked for one start, and if it has failed, so has the
start. -/
theorem of_launch {launched : Launched} {w v : World σ} {j : Journal} (nonempty : c.argv ≠ [])
    (went : launch F c.argv w = ⟨.ok launched, v, j⟩) (other : launched ≠ .exit) :
    c.isExit = false ∧
      ∃ answer, j.starts = [answer] ∧ (launched = .failed → ∃ x, answer = .error x) := by
  have launch := launch_journal F c.argv w
  rw [went] at launch
  dsimp only at launch
  generalize argv : c.argv = words at launch
  cases launch with
  | nothing => exact absurd argv nonempty
  | exit => exact absurd rfl other
  | started handle different =>
    exact ⟨by simp [Command.isExit, argv, different], .ok handle, rfl, by simp⟩
  | failed x different =>
    exact ⟨by simp [Command.isExit, argv, different], .error x, rfl, fun _ => ⟨x, rfl⟩⟩

/-- A command that was passed over is no exit and has been answered to, and the commands
behind it were passed over with its delimiter pending. -/
theorem of_passOver_cons (nonempty : c.argv ≠ []) {s t : Standing} {w w' : World σ} {j : Journal}
    (performed : passOver F (c :: rest) s w = ⟨.ok (some t), w', j⟩) :
    c.isExit = false ∧ ∃ last v k answer,
      passOver F rest ⟨last, c.closedBy⟩ v = ⟨.ok (some t), w', k⟩ ∧
        j.starts = answer :: Journal.starts k := by
  obtain ⟨u, waits, awaited, pause⟩ := awaitLast_run F s.due w
  have quiet : Journal.starts waits = [] := pause.starts
  rw [passOver, Activity.bind_run_ok awaited] at performed
  rcases went : launch F c.argv { w with facility := u } with ⟨_ | launched, v, k⟩
  · rw [Activity.bind_run_error went] at performed
    cases performed
  rw [Activity.bind_run_ok went] at performed
  cases launched with
  | exit => cases performed
  | started handle =>
    obtain ⟨exit, answer, one, _⟩ := of_launch nonempty went (by simp)
    rcases passed : passOver F rest ⟨some handle, c.closedBy⟩ v with ⟨result, last, l⟩
    simp only [passed] at performed
    cases performed
    exact ⟨exit, _, v, l, answer, passed, by simp [quiet, one]⟩
  | failed =>
    obtain ⟨exit, answer, one, _⟩ := of_launch nonempty went (by simp)
    rcases passed : passOver F rest ⟨s.last, c.closedBy⟩ v with ⟨result, last, l⟩
    simp only [passed] at performed
    cases performed
    exact ⟨exit, _, v, l, answer, passed, by simp [quiet, one]⟩

/-- Behind some commands that were passed over: none of them is an exit, each has been
answered to, and the delimiter of the last one is pending. -/
structure Passed (commands : List Command) (s t : Standing) (starts : Nat) : Prop where
  starts : starts = commands.length
  exit : ∀ c ∈ commands, c.isExit = false
  nothing : commands = [] → t = s
  pending : ∀ c ∈ commands.getLast?, t.pending = c.closedBy

theorem passed_of_passOver (nonempty : ∀ c ∈ commands, c.argv ≠ []) {s t : Standing}
    {w w' : World σ} {j : Journal} (performed : passOver F commands s w = ⟨.ok (some t), w', j⟩) :
    Passed commands s t j.starts.length := by
  induction commands generalizing s w j with
  | nil =>
    cases performed
    exact ⟨rfl, by simp, fun _ => rfl, by simp⟩
  | cons c rest ih =>
    rw [List.forall_mem_cons] at nonempty
    obtain ⟨exit, last, v, k, answer, passed, starts⟩ := of_passOver_cons nonempty.1 performed
    have others := ih nonempty.2 passed
    refine ⟨?_, List.forall_mem_cons.2 ⟨exit, others.exit⟩, by simp, ?_⟩
    · rw [starts, List.length_cons, others.starts, List.length_cons]
    · cases rest with
      | nil => simp [others.nothing rfl]
      | cons next more => rw [List.getLast?_cons_cons]; exact others.pending

/-! ## What is forgotten -/

/-- What a run does about its next command, once the wait before it is over, and then about
the others. -/
def goOn (F : Facility σ) (background : Bool) (c : Command) (rest : List Command)
    (last : Option Handle) : Activity (World σ) SystemError Ending := do
  match ← launch F c.argv with
  | .exit => pure .exit
  | .started handle => runCommands F background rest (some handle) c.closedBy
  | .failed => runCommands F background rest last c.closedBy

theorem runCommands_cons_goOn (last : Option Handle) (pending : Option Delimiter) :
    runCommands F background (c :: rest) last pending = (do
      awaitLast F (Standing.due ⟨last, pending⟩)
      goOn F background c rest last) :=
  runCommands_cons c rest

/-- A command that is not refused makes a run forget what was started before it. -/
theorem goOn_of_not_failed {w : World σ} (taken : (launch F c.argv w).result ≠ .ok .failed)
    (last last' : Option Handle) :
    goOn F background c rest last w = goOn F background c rest last' w := by
  rcases launched : launch F c.argv w with ⟨_ | _ | handle | _, v, j⟩
  · simp only [goOn, Activity.bind_run_error launched]
  · simp only [goOn, Activity.bind_run_ok launched]
  · simp only [goOn, Activity.bind_run_ok launched]
  · rw [launched] at taken
    exact absurd rfl taken

/-- What a run carries over to its next command makes no difference once the wait before it
is over, unless the command is refused. -/
theorem runCommands_forgets_or_refused (F : Facility σ) (background : Bool)
    (nonempty : c.argv ≠ []) (rest : List Command) (t : Standing) (v : World σ) :
    let run := runCommands F background (c :: rest) t.last t.pending v
    run = (awaitLast F t.due >>= fun _ => runCommands F background (c :: rest) none none) v ∨
      c.isExit = false ∧ ∃ x more, run.journal.starts = .error x :: more := by
  intro run
  obtain ⟨u, waits, awaited, pause⟩ := awaitLast_run F t.due v
  have apart : runCommands F background (c :: rest) none none = goOn F background c rest none := by
    rw [runCommands_cons_goOn]
    simp [Standing.due, awaitLast]
  have whole : run = _ :=
    (congrFun (runCommands_cons_goOn t.last t.pending) v).trans (Activity.bind_run_ok awaited _)
  rw [apart, Activity.bind_run_ok awaited, whole]
  by_cases failed : (launch F c.argv { v with facility := u }).result = .ok .failed
  · rcases launched : launch F c.argv { v with facility := u } with ⟨result, w, k⟩
    rw [launched] at failed
    cases failed
    obtain ⟨exit, answer, refused, reason⟩ := of_launch nonempty launched (by simp)
    obtain ⟨x, rfl⟩ := reason rfl
    have quiet : Journal.starts waits = [] := pause.starts
    have after : (goOn F background c rest t.last { v with facility := u }).journal =
        k ++ (runCommands F background rest t.last c.closedBy w).journal := by
      rw [goOn, Activity.bind_run_ok launched]
    refine .inr ⟨exit, x, (runCommands F background rest t.last c.closedBy w).journal.starts, ?_⟩
    simp only [after, Journal.starts_append, quiet, refused, List.nil_append, List.singleton_append]
  · exact .inl (by rw [goOn_of_not_failed failed t.last none])

/-! ## Two parts of a line -/

variable {front words : List String} {d : Delimiter}

/-- A delimiter behind another word closes a command that has words. -/
theorem commandsOf_concat_delimiter (some_ : front ≠ [])
    (last : ∀ word ∈ front.getLast?, Delimiter.ofWord? word = none) (d : Delimiter) :
    ∃ init argv, argv ≠ [] ∧ commandsOf (front ++ [d.word]) = init ++ [⟨argv, some d⟩] := by
  induction front with
  | nil => exact absurd rfl some_
  | cons word more ih =>
    cases more with
    | nil =>
      refine ⟨[], [word], List.cons_ne_nil _ _, commandsOf_argv_delimiter ?_ d⟩
      simpa using last
    | cons next others =>
      rw [List.getLast?_cons_cons] at last
      obtain ⟨init, argv, words, read⟩ := ih (List.cons_ne_nil _ _) last
      cases h : Delimiter.ofWord? word with
      | some e =>
        refine ⟨⟨[], some e⟩ :: init, argv, words, ?_⟩
        rw [List.cons_append, commandsOf_delimiter _ h, read, List.cons_append]
      | none =>
        rw [List.cons_append, commandsOf_word _ h, read]
        cases init with
        | nil => exact ⟨[], word :: argv, List.cons_ne_nil _ _, rfl⟩
        | cons c rest => exact ⟨{ c with argv := word :: c.argv } :: rest, argv, words, rfl⟩

/-- The wait at the end of the first part is the one that its delimiter asks for. -/
theorem Passed.due_eq (last : ∀ word ∈ front.getLast?, Delimiter.ofWord? word = none)
    {t : Standing} {starts : Nat}
    (passed : Passed (ofWords (front ++ [d.word])).dispatchable {} t starts) :
    t.due = if (ofWords (front ++ [d.word])).endsInBackground then none else t.last := by
  by_cases some_ : front = []
  · subst some_
    have nothing : (ofWords ([] ++ [d.word])).dispatchable = [] := by
      simp [ofWords, commandsOf_delimiter [] (Delimiter.ofWord?_word d), dispatchable,
        Command.isEmpty]
    rw [passed.nothing nothing]
    simp [Standing.due]
  · obtain ⟨init, argv, words, read⟩ := commandsOf_concat_delimiter some_ last d
    have run : dispatchable ⟨[⟨argv, some d⟩]⟩ = [⟨argv, some d⟩] := by
      simp [dispatchable, Command.isEmpty, words]
    have pending : t.pending = some d := by
      refine passed.pending ⟨argv, some d⟩ ?_
      rw [ofWords, read, dispatchable_append, run]
      simp
    rw [ofWords, read, endsInBackground_append init (List.cons_ne_nil _ _), Standing.due, pending]
    cases d <;> simp [endsInBackground]

/-- Runs a chain and, if it is completed, another one. -/
def runInTurn (F : Facility σ) (first second : Chain) : Activity (World σ) SystemError Ending := do
  match ← first.run F with
  | .completed => second.run F
  | .exit => pure .exit

/-- Running two chains in turn passes over the commands of the first, waits for it, and
runs the second. -/
theorem runInTurn_eq (F : Facility σ) (first second : Chain) :
    runInTurn F first second = (do
      let standing ← passOver F first.dispatchable {}
      standing.elim (pure .exit) fun t => do
        awaitLast F (if first.endsInBackground then none else t.last)
        second.run F) := by
  have one : first.run F = (do
      let standing ← passOver F first.dispatchable {}
      standing.elim (pure .exit) fun t => do
        awaitLast F (if first.endsInBackground then none else t.last)
        pure .completed) := by
    have split := runCommands_append (F := F) first.endsInBackground first.dispatchable [] {}
    simpa only [run, List.append_nil, runCommands_nil] using split
  rw [runInTurn, one, bind_assoc]
  congr 1
  funext standing
  cases standing <;> simp

/-- A whole line passes over the commands of its first part and runs the second one from
there. -/
theorem run_append_delimiter (F : Facility σ) (front : List String) (d : Delimiter)
    {rest : List String} (some_ : rest ≠ []) :
    (ofWords (front ++ [d.word] ++ rest)).run F = (do
      let standing ← passOver F (ofWords (front ++ [d.word])).dispatchable {}
      standing.elim (pure .exit) fun t => runCommands F (ofWords rest).endsInBackground
        (ofWords rest).dispatchable t.last t.pending) := by
  have read : ofWords (front ++ [d.word] ++ rest) =
      ⟨commandsOf (front ++ [d.word]) ++ commandsOf rest⟩ := by
    rw [ofWords, List.append_assoc, List.singleton_append, commandsOf_append_delimiter]
  rw [run, read, dispatchable_append, endsInBackground_append _ (commandsOf_ne_nil some_)]
  exact runCommands_append _ _ _ {}

/-- A line may be cut at a delimiter that stands behind another word. Let the first part of
the line end there, and let the second part have a command. If the first part has an exit,
or the first command of the second part is an exit, or that command has been started when
the whole line was run, then running the whole line is running the first part and, if that
is completed, the second part: the same is asked of the facility and answered, the same is
written, and the end is the same, on any sink. The starts of a run come in the order of its
commands, so the first command of the second part has the number of commands in the first
part as its place among them. -/
theorem run_cut_at_delimiter (F : Facility σ) (w : World σ) (front rest : List String)
    (d : Delimiter) (last : ∀ word ∈ front.getLast?, Delimiter.ofWord? word = none)
    (some_ : ∃ word ∈ rest, Delimiter.ofWord? word = none) :
    let first := ofWords (front ++ [d.word])
    let second := ofWords rest
    let whole := (ofWords (front ++ [d.word] ++ rest)).run F w
    (∃ c ∈ first.dispatchable, c.isExit = true) ∨
        (∃ c ∈ second.dispatchable.head?, c.isExit = true) ∨
        (∃ h, whole.journal.starts[first.dispatchable.length]? = some (.ok h)) →
      whole = runInTurn F first second w := by
  intro first second whole taken
  obtain ⟨c, others, commands⟩ : ∃ c others, second.dispatchable = c :: others :=
    List.exists_cons_of_ne_nil (dispatchable_ne_nil some_)
  have nonempty : c.argv ≠ [] := ne_nil_of_mem_dispatchable (commands ▸ List.mem_cons_self)
  have words : rest ≠ [] := by
    obtain ⟨word, mem, _⟩ := some_
    exact List.ne_nil_of_mem mem
  have together : whole = _ := congrFun (run_append_delimiter F front d words) w
  have inTurn := congrFun (runInTurn_eq F first second) w
  -- Both runs pass over the commands of the first part, and only if they come through is there
  -- anything to compare.
  rcases performed : passOver F first.dispatchable {} w with ⟨_ | _ | t, v, j⟩
  · rw [Activity.bind_run_error performed] at together inTurn
    exact together.trans inTurn.symm
  · rw [Activity.bind_run_ok performed] at together inTurn
    exact together.trans inTurn.symm
  · rw [Activity.bind_run_ok performed] at together inTurn
    have passed := passed_of_passOver (fun _ => ne_nil_of_mem_dispatchable) performed
    obtain same | ⟨exit, x, more, refused⟩ :=
      runCommands_forgets_or_refused F second.endsInBackground nonempty others t v
    · rw [passed.due_eq last, ← commands] at same
      simp only [Option.elim_some] at together inTurn
      rw [same] at together
      exact together.trans inTurn.symm
    · -- The refused start has the number of commands in the first part as its place, so what
      -- is forgotten otherwise is kept only where nothing is claimed.
      exfalso
      rw [← commands] at refused
      rcases taken with ⟨c', mem, isExit⟩ | ⟨c', mem, isExit⟩ | ⟨h, started⟩
      · exact absurd isExit (Bool.eq_false_iff.1 (passed.exit c' mem))
      · rw [commands] at mem
        cases mem
        exact absurd isExit (Bool.eq_false_iff.1 exit)
      · rw [together, ← passed.starts, Journal.starts_append, List.getElem?_append_right (Nat.le_refl _)]
          at started
        simp only [Nat.sub_self, Option.elim_some] at started
        rw [refused] at started
        cases started

/-- The line `a ; bad ; c &` may be cut behind `bad ;` though `bad` cannot be started: `c`
can. -/
theorem cut_behind_failed_start :
    let F := Scripted.facility { missing := ["bad"] }
    let w : World Scripted.State := ⟨{}, .boundless⟩
    let whole := (ofWords ["a", ";", "bad", ";", "c", "&"]).run F w
    whole.journal.starts = [.ok (.ofIndex 0), .error .notFound, .ok (.ofIndex 1)] ∧
      whole = runInTurn F (ofWords ["a", ";", "bad", ";"]) (ofWords ["c", "&"]) w := by
  intro F w whole
  have starts :
      whole.journal.starts = [.ok (.ofIndex 0), .error .notFound, .ok (.ofIndex 1)] := by cbv
  have last : ∀ word ∈ ["a", ";", "bad"].getLast?, Delimiter.ofWord? word = none := by decide
  have some_ : ∃ word ∈ ["c", "&"], Delimiter.ofWord? word = none := by decide
  refine ⟨starts, run_cut_at_delimiter F w _ _ .sequential last some_ (.inr (.inr ?_))⟩
  exact ⟨.ofIndex 1, congrArg (·[2]?) starts⟩

end Chain

end CommandChains
