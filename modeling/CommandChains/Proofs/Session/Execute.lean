import CommandChains.Proofs.Activity
import CommandChains.Session

/-!
# The steps of a line

A session that is not over logs the chain of a line, runs it if there is anything to
run, and counts the line according to how the chain has ended.

A source is worked through by a reading, the line that was read, and the work on the rest of
the source. `converse_induction` has one case for each way in which this may go on or end.
-/

namespace CommandChains.Session

variable {σ τ : Type}

/-- Runs the chain on a line, if there is anything to run. -/
def runLine (F : Facility σ) (line : String) : Activity (Session σ) SessionError Ending :=
  if (Chain.ofLine line).isNoop then pure .completed else onWorld ((Chain.ofLine line).run F)

/-- Runs one line of a session that is not over. -/
def proceed (F : Facility σ) (line : String) : Activity (Session σ) SessionError Ending := do
  Activity.log (.parsed (Chain.ofLine line))
  let ending ← runLine F line
  settle line ending
  pure ending

theorem execute_run (F : Facility σ) (line : String) (s : Session σ) :
    execute F line s =
      if s.terminated then ⟨.error .terminated, s, []⟩ else proceed F line s := by
  unfold execute proceed runLine Chain.read
  rw [Activity.bind_run_ok (Activity.state_run s)]
  cases s.terminated with
  | true => rfl
  | false => cases noop : (Chain.ofLine line).isNoop <;> simp [noop]

theorem execute_of_going (F : Facility σ) (line : String) {s : Session σ}
    (going : s.terminated = false) : execute F line s = proceed F line s := by
  rw [execute_run, going]
  rfl

/-- Counting a line never fails and touches neither facility nor sink. -/
theorem settle_run (line : String) (ending : Ending) (s : Session σ) :
    settle line ending s =
      match ending with
      | .exit => ⟨.ok (), { s with terminated := true }, [.logged (.exitRequested s.counter)]⟩
      | .completed => ⟨.ok (), if line = "" then s else { s with counter := s.counter + 1 }, []⟩ := by
  cases ending with
  | exit => rfl
  | completed => by_cases empty : line = "" <;> simp [settle, empty]

/-- A session after a line that has ended in some way. -/
def settled (line : String) (ending : Ending) (s : Session σ) : Session σ :=
  match ending with
  | .exit => { s with terminated := true }
  | .completed => if line = "" then s else { s with counter := s.counter + 1 }

/-- What is logged when a line has ended in some way, with a counter. -/
def settling (ending : Ending) (counter : Nat) : Journal :=
  match ending with
  | .exit => [.logged (.exitRequested counter)]
  | .completed => []

section

variable {F : Facility σ} {line : String} {s t : Session σ} {j : Journal}

theorem proceed_of_error {e : SessionError} (ran : runLine F line s = ⟨.error e, t, j⟩) :
    proceed F line s = ⟨.error e, t, .logged (.parsed (Chain.ofLine line)) :: j⟩ := by
  rw [proceed, Activity.bind_run_ok (Activity.log_run _ s), Activity.bind_run_error ran]
  rfl

theorem proceed_of_ok {ending : Ending} (ran : runLine F line s = ⟨.ok ending, t, j⟩) :
    proceed F line s = ⟨.ok ending, settled line ending t,
      .logged (.parsed (Chain.ofLine line)) :: j ++ settling ending t.counter⟩ := by
  have counted := settle_run line ending t
  cases ending <;>
    rw [proceed, Activity.bind_run_ok (Activity.log_run _ s), Activity.bind_run_ok ran,
      Activity.bind_run_ok counted] <;>
    simp [settled, settling]

end

/-- Working through a source ends because the session is over, with an error of the reading,
at the end of the lines, or with an error of a line; otherwise a line is run and the work
goes on with the rest of the source. -/
theorem converse_induction {F : Facility σ} {L : LineSource σ τ}
    {motive : Session σ → τ → Run (Session σ × τ) SessionError SessionEnd → Prop}
    (ended : ∀ s input, s.terminated = true → motive s input ⟨.ok .exit, (s, input), []⟩)
    (unread : ∀ s input e w rest j, s.terminated = false →
      L.next s.prompt (s.toWorld, input) = ⟨.error e, (w, rest), j⟩ →
      motive s input ⟨.error e, ({ s with toWorld := w }, rest), j⟩)
    (none_ : ∀ s input w rest j, s.terminated = false →
      L.next s.prompt (s.toWorld, input) = ⟨.ok none, (w, rest), j⟩ →
      motive s input
        ⟨.ok .endOfInput, ({ s with toWorld := w }, rest), j ++ [.logged .endOfInput]⟩)
    (broken : ∀ s input line w rest j e t k, s.terminated = false →
      L.next s.prompt (s.toWorld, input) = ⟨.ok (some line), (w, rest), j⟩ →
      execute F line { s with toWorld := w } = ⟨.error e, t, k⟩ →
      motive s input ⟨.error e, (t, rest), j ++ k⟩)
    (line : ∀ s input line w rest j how t k, s.terminated = false →
      L.next s.prompt (s.toWorld, input) = ⟨.ok (some line), (w, rest), j⟩ →
      execute F line { s with toWorld := w } = ⟨.ok how, t, k⟩ →
      ∀ more : Run (Session σ × τ) SessionError SessionEnd, motive t rest more →
      motive s input ⟨more.result, more.state, j ++ k ++ more.journal⟩)
    (s : Session σ) (input : τ) : motive s input (converse F L (s, input)) := by
  induction left : L.remaining input using Nat.strongRecOn generalizing s input with
  | ind n ih =>
    cases going : s.terminated with
    | true =>
      rw [converse_of_terminated going]
      exact ended s input going
    | false =>
      rcases read : L.next s.prompt (s.toWorld, input) with ⟨result, ⟨w, rest⟩, j⟩
      match result with
      | .error e =>
        rw [converse_of_error going read]
        exact unread s input e w rest j going read
      | .ok none =>
        rw [converse_of_end going read]
        exact none_ s input w rest j going read
      | .ok (some text) =>
        rcases ran : execute F text { s with toWorld := w } with ⟨result, t, k⟩
        cases result with
        | error e =>
          rw [converse_of_line_error going read ran]
          exact broken s input text w rest j e t k going read ran
        | ok how =>
          rw [converse_of_line going read ran]
          exact line s input text w rest j how t k going read ran _
            (ih _ (left ▸ L.remaining_lt read) t rest rfl)

end CommandChains.Session
