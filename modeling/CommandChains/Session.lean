import CommandChains.Chain.Run
import CommandChains.Input.LineSource

/-!
# Sessions

A session runs one line after the other on a facility and a sink. It counts the
lines for its prompt: the count grows with every line that is not empty and whose
chain was completed, even if the chain had nothing to run. A line that reaches
`exit` ends the session, and after that nothing is run.

An error while a line is run leaves count and session as they are.
-/

namespace CommandChains

/-- A facility, a sink, and what is known between two lines. -/
structure Session (σ : Type) extends World σ where
  counter : Nat := 1
  /-- Whether a line has ended the session. -/
  terminated : Bool := false

namespace Session

variable {σ τ : Type}

def prompt (s : Session σ) : String :=
  "shell[" ++ toString s.counter ++ "]% "

def onWorld {α : Type} (a : Activity (World σ) SystemError α) :
    Activity (Session σ) SessionError α :=
  (a.mapError .system).within toWorld fun world s => { s with toWorld := world }

/-- Counts a line whose chain has ended. -/
def settle (line : String) (ending : Ending) : Activity (Session σ) SessionError Unit :=
  match ending with
  | .exit => do
    let s ← Activity.state
    Activity.log (.exitRequested s.counter)
    Activity.update fun s => { s with terminated := true }
  | .completed =>
    if line = "" then pure ()
    else Activity.update fun s => { s with counter := s.counter + 1 }

/-- Runs one line. A chain with nothing to run is completed at once. -/
def execute (F : Facility σ) (line : String) : Activity (Session σ) SessionError Ending := do
  let s ← Activity.state
  if s.terminated then Activity.fail .terminated
  else
    let chain ← Chain.read line
    let ending ← if chain.isNoop then pure .completed else onWorld (chain.run F)
    settle line ending
    pure ending

/-- Runs lines in order, up to one that ends the session. -/
def executeEach (F : Facility σ) : List String → Activity (Session σ) SessionError SessionEnd
  | [] => pure .endOfInput
  | line :: rest => do
    match ← execute F line with
    | .exit => pure .exit
    | .completed => executeEach F rest

/-- Reads lines and runs them, until one ends the session or there are no more. -/
def converse (F : Facility σ) (L : LineSource σ τ) :
    Activity (Session σ × τ) SessionError SessionEnd := fun (s, input) =>
  if s.terminated then ⟨.ok .exit, (s, input), []⟩
  else
    match read : L.next s.prompt (s.toWorld, input) with
    | ⟨.error e, (w, rest), j⟩ => ⟨.error e, ({ s with toWorld := w }, rest), j⟩
    | ⟨.ok none, (w, rest), j⟩ =>
      ⟨.ok .endOfInput, ({ s with toWorld := w }, rest), j ++ [.logged .endOfInput]⟩
    | ⟨.ok (some line), (w, rest), j⟩ =>
      have : L.remaining rest < L.remaining input := L.remaining_lt read
      match execute F line { s with toWorld := w } with
      | ⟨.error e, s', k⟩ => ⟨.error e, (s', rest), j ++ k⟩
      | ⟨.ok _, s', k⟩ =>
        let after := converse F L (s', rest)
        ⟨after.result, after.state, j ++ k ++ after.journal⟩
termination_by s => L.remaining s.2

section

variable {F : Facility σ} {L : LineSource σ τ} {s s' : Session σ} {w : World σ}
variable {input rest : τ} {j k : Journal}

theorem converse_of_terminated (ended : s.terminated = true) :
    converse F L (s, input) = ⟨.ok .exit, (s, input), []⟩ := by
  rw [converse]
  simp [ended]

theorem converse_of_error {e : SessionError} (going : s.terminated = false)
    (read : L.next s.prompt (s.toWorld, input) = ⟨.error e, (w, rest), j⟩) :
    converse F L (s, input) = ⟨.error e, ({ s with toWorld := w }, rest), j⟩ := by
  rw [converse]
  simp only [going, Bool.false_eq_true, if_false]
  split <;> simp_all

theorem converse_of_end (going : s.terminated = false)
    (read : L.next s.prompt (s.toWorld, input) = ⟨.ok none, (w, rest), j⟩) :
    converse F L (s, input) =
      ⟨.ok .endOfInput, ({ s with toWorld := w }, rest), j ++ [.logged .endOfInput]⟩ := by
  rw [converse]
  simp only [going, Bool.false_eq_true, if_false]
  split <;> simp_all

theorem converse_of_line_error {line : String} {e : SessionError} (going : s.terminated = false)
    (read : L.next s.prompt (s.toWorld, input) = ⟨.ok (some line), (w, rest), j⟩)
    (ran : execute F line { s with toWorld := w } = ⟨.error e, s', k⟩) :
    converse F L (s, input) = ⟨.error e, (s', rest), j ++ k⟩ := by
  rw [converse]
  simp only [going, Bool.false_eq_true, if_false]
  split
  · simp_all
  · simp_all
  · next found =>
    rw [read] at found
    cases found
    simp only [going] at ran
    simp [ran]

theorem converse_of_line {line : String} {how : Ending} (going : s.terminated = false)
    (read : L.next s.prompt (s.toWorld, input) = ⟨.ok (some line), (w, rest), j⟩)
    (ran : execute F line { s with toWorld := w } = ⟨.ok how, s', k⟩) :
    converse F L (s, input) =
      ⟨(converse F L (s', rest)).result, (converse F L (s', rest)).state,
        j ++ k ++ (converse F L (s', rest)).journal⟩ := by
  conv => lhs; rw [converse]
  simp only [going, Bool.false_eq_true, if_false]
  split
  · simp_all
  · simp_all
  · next found =>
    rw [read] at found
    cases found
    simp only [going] at ran
    simp [ran]

end

end Session

end CommandChains
