import CommandChains.Facility.Scripted
import CommandChains.Proofs.Input.Decoding
import CommandChains.Proofs.Session.LineByLine

/-!
# Lines given and lines piped

A session can be given its lines at once, or it can read them, prompting for each. If the
bytes that it reads are those of the lines with a newline behind each, the lines that it
finds are the very same (`Text.cutBytes_of_lines`, `Text.map_lineOf_of_plain`). Both ways are one
run of lines up to the first that ends the session, so they do the same and come to the same
end. Only the prompts are added in the second.
-/

namespace CommandChains

namespace Session

variable {σ : Type}

/-! ## Lines given at once -/

/-- Lines that are given at once are run one after the other, up to the first one that ends
the session. -/
theorem executeEach_run (F : Facility σ) (lines : List String) {s : Session σ}
    (going : s.terminated = false) (unfailing : s.sink.Unfailing) :
    let executed := throughEnd (Activity.series (execute F) lines s)
    executeEach F lines s =
      ⟨.ok (if executed.any fun r => exits r.result then .exit else .endOfInput),
        Activity.stateAfter executed s, executed.flatMap Run.journal⟩ := by
  induction lines generalizing s with
  | nil => rfl
  | cons line rest ih =>
    intro executed
    obtain ⟨how, t, j, ran⟩ := execute_of_unfailing F line going
    obtain ⟨after, still, ran⟩ := ran s.sink unfailing
    have ran : execute F line s = _ := ran
    have closed := terminated_of_execute F line going
    rw [ran] at closed
    have runs : Activity.series (execute F) (line :: rest) s =
        ⟨.ok how, { t with sink := after }, j⟩ ::
          Activity.series (execute F) rest { t with sink := after } := by
      rw [Activity.series, ran]
    rw [executeEach, Activity.bind_run_ok ran]
    cases how with
    | exit =>
      have through : executed = [⟨.ok .exit, { t with sink := after }, j⟩] := by
        rw [show executed = throughEnd _ from rfl, runs, throughEnd_cons_of_exit rfl]
      rw [through]
      simp [exits, Activity.stateAfter]
    | completed =>
      have through : executed = ⟨.ok .completed, { t with sink := after }, j⟩ ::
          throughEnd (Activity.series (execute F) rest { t with sink := after }) := by
        rw [show executed = throughEnd _ from rfl, runs, throughEnd_cons rfl]
      rw [through]
      have later := ih closed still
      dsimp only at later ⊢
      rw [later]
      rfl

/-! ## The two ways -/

/-- Lines given at once and lines piped come to the same. Take a session that is not over,
any facility, a sink that never fails and gets the prompts too, and lines that hold no
newline and do not end with a carriage return. Give the session the lines at once, or let it
read their text, each line with a newline behind it, in pieces of any size. Both ways end, and
in the same way: with the exit that a line asks for, or at the end of the lines. The facility
is asked for the same things and gives the same answers, and facility, counter and end of the
session are left the same. What is written the second time is what is written the first time,
with the prompt before the output of each line that is executed, and with one more prompt
behind the last line if none of them has ended the session. -/
theorem piped_eq_given (F : Facility σ) (s : Session σ) (lines : List String)
    (input : ByteSource) (going : s.terminated = false) (unfailing : s.sink.Unfailing)
    (steady : input.Steady) (plain : ∀ line ∈ lines, Text.IsPlainLine line)
    (text : input.unread = lines.flatMap fun line => Text.Utf8.encode (line ++ "\n")) :
    let given := executeEach F lines s
    let piped := converse F Prompted.source (s, input)
    let executed := throughEnd (Activity.series (execute F) lines s)
    (given.result = .ok .exit ∨ given.result = .ok .endOfInput) ∧ piped.result = given.result ∧
    piped.state.1.counter = given.state.counter ∧
    piped.state.1.terminated = given.state.terminated ∧
    piped.state.1.facility = given.state.facility ∧
    piped.journal.calls = given.journal.calls ∧
    given.journal.output = executed.flatMap (fun r => r.journal.output) ∧
    piped.journal.output = transcript s executed ++
      if given.result = .ok .endOfInput then Text.Utf8.encode given.state.prompt else [] := by
  intro given piped executed
  have cut : Text.cutBytes input.unread = lines.map fun line => Text.Utf8.encode (line ++ "\n") :=
    text ▸ Text.cutBytes_of_lines plain
  have recounts := lineByLine_converse F _ s s.sink input going unfailing unfailing steady cut
  rw [Text.map_lineOf_of_plain plain] at recounts
  have run : given = _ := executeEach_run F lines going unfailing
  have ended := recounts.ended
  have calls (runs : List (Run (Session σ) SessionError Ending)) :
      Journal.calls (runs.flatMap Run.journal) = runs.flatMap fun r => r.journal.calls := by
    simp [Journal.calls, List.filterMap_flatMap]
  have output (runs : List (Run (Session σ) SessionError Ending)) :
      Journal.output (runs.flatMap Run.journal) = runs.flatMap fun r => r.journal.output := by
    simp [Journal.output, List.flatMap_assoc]
  have same : piped.result = given.result ∧ piped.journal.output = transcript s executed ++
      if given.result = .ok .endOfInput then Text.Utf8.encode given.state.prompt else [] := by
    rw [run]
    by_cases some_ : executed.any fun r => exits r.result
    · rw [if_pos some_] at ended ⊢
      exact ⟨ended.1, by simpa using ended.2⟩
    · rw [if_neg some_] at ended ⊢
      exact ⟨ended.1, by simpa using ended.2.2⟩
  rw [run] at same ⊢
  refine ⟨?_, same.1, recounts.counter, recounts.terminated, recounts.facility,
    recounts.calls.trans (calls _).symm, output _, same.2⟩
  split
  · exact .inl rfl
  · exact .inr rfl

/-- Three lines, the second of which ends the session behind a job in the background. -/
theorem piped_through_exit :
    let s : Session Scripted.State := { facility := {}, sink := .boundless }
    let lines := ["é &", "a ; exit ; b", "c"]
    let input : ByteSource := { unread := Text.Utf8.encode "é &\na ; exit ; b\nc\n", chunk := some 3 }
    let given := executeEach (Scripted.facility {}) lines s
    let piped := converse (Scripted.facility {}) Prompted.source (s, input)
    s.sink.Unfailing ∧ input.Steady ∧ (∀ line ∈ lines, Text.IsPlainLine line) ∧
      piped.result = .ok .exit ∧ piped.journal.calls = given.journal.calls ∧
      piped.journal.output = Text.Utf8.encode "shell[1]% é\nshell[2]% a\nexit\n" := by
  intro s lines input given piped
  have unfailing := Sink.unfailing_boundless
  have steady : input.Steady := ⟨by decide, fun _ no => nomatch no⟩
  have plain : ∀ line ∈ lines, Text.IsPlainLine line := by decide
  have exit : (executeEach (Scripted.facility {}) lines s).result = .ok .exit := by
    simp only [lines, s]
    cbv
  obtain ⟨_, ended, _, _, _, calls, _, output⟩ :=
    piped_eq_given (Scripted.facility {}) s lines input rfl unfailing steady plain (by cbv)
  rw [exit, if_neg (by simp), List.append_nil] at output
  refine ⟨unfailing, steady, plain, ended.trans exit, calls, output.trans ?_⟩
  simp only [lines, s]
  cbv

end Session

end CommandChains
