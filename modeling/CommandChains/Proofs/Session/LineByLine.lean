import CommandChains.Facility.Scripted
import CommandChains.Proofs.Chain.Truncation
import CommandChains.Proofs.Input.Lines
import CommandChains.Proofs.Session.Counter

/-!
# Line by line

On sinks that never fail, what a line does is the same for all of them, and a line always
comes to an end (`execute_of_unfailing`). So it makes no difference to the lines that a
prompt is written before each of them: reading the lines of some bytes and running them is
running them one after the other, up to the first one that ends the session, with the
prompts in between.
-/

namespace CommandChains.Session

variable {σ : Type} {F : Facility σ}

/-! ## A line on an unfailing sink -/

theorem runLine_of_unfailing (F : Facility σ) (line : String) (s : Session σ) :
    ∃ how t j, ∀ sink, sink.Unfailing → ∃ after, after.Unfailing ∧
      runLine F line { s with sink } = ⟨.ok how, { s with facility := t, sink := after }, j⟩ := by
  by_cases noop : (Chain.ofLine line).isNoop
  · refine ⟨.completed, s.facility, [], fun sink unfailing => ⟨sink, unfailing, ?_⟩⟩
    simp [runLine, noop]
  · obtain ⟨how, t, j, ran⟩ := (Chain.replays_run F (Chain.ofLine line)).of_unfailing s.facility
    refine ⟨how, t, j, fun sink unfailing => ?_⟩
    obtain ⟨after, still, ran⟩ := ran sink unfailing
    refine ⟨after, still, ?_⟩
    simp [runLine, noop, onWorld, Activity.within, Activity.mapError, ran, Except.mapError]

/-- What a line does on an unfailing sink does not depend on the sink, and the line comes
to an end. -/
theorem execute_of_unfailing (F : Facility σ) (line : String) {s : Session σ}
    (going : s.terminated = false) :
    ∃ (how : Ending) (t : Session σ) (j : Journal), ∀ sink : Sink, sink.Unfailing →
      ∃ after : Sink, after.Unfailing ∧
        execute F line { s with sink } = ⟨.ok how, { t with sink := after }, j⟩ := by
  obtain ⟨how, t, j, ran⟩ := runLine_of_unfailing F line s
  refine ⟨how, settled line how { s with facility := t },
    .logged (.parsed (Chain.ofLine line)) :: j ++ settling how s.counter, fun sink unfailing => ?_⟩
  obtain ⟨after, still, ran⟩ := ran sink unfailing
  refine ⟨after, still, ?_⟩
  rw [execute_of_going F line (s := { s with sink }) going, proceed_of_ok ran]
  cases how with
  | exit => rfl
  | completed =>
    simp only [settled]
    split <;> rfl

/-! ## Runs of lines -/

/-- The output of runs from a given state on, with the prompt before each. -/
def transcript : Session σ → List (Run (Session σ) SessionError Ending) → Text.Bytes
  | _, [] => []
  | s, r :: rest => Text.Utf8.encode s.prompt ++ r.journal.output ++ transcript r.state rest

/-- The runs up to the first one that ends the session. -/
def throughEnd (runs : List (Run (Session σ) SessionError Ending)) :
    List (Run (Session σ) SessionError Ending) :=
  runs.take (runs.findIdx (fun r => exits r.result) + 1)

/-- What comes of reading and running, by what comes of running the lines one after the
other from some state on. -/
structure LineByLine (s : Session σ) (lines : List Text.Bytes)
    (runs : List (Run (Session σ) SessionError Ending))
    (talk : Run (Session σ × ByteSource) SessionError SessionEnd) : Prop where
  calls : talk.journal.calls = runs.flatMap fun r => r.journal.calls
  facility : talk.state.1.facility = (Activity.stateAfter runs s).facility
  counter : talk.state.1.counter = (Activity.stateAfter runs s).counter
  terminated : talk.state.1.terminated = (Activity.stateAfter runs s).terminated
  unread : talk.state.2.unread = (lines.drop runs.length).flatten
  /-- If a line has ended the session, it is the last thing that was done; otherwise there
  is one more prompt, and no line is left. -/
  ended : if runs.any (fun r => exits r.result) then
      talk.result = .ok .exit ∧ talk.journal.output = transcript s runs
    else talk.result = .ok .endOfInput ∧ runs.length = lines.length ∧
      talk.journal.output =
        transcript s runs ++ Text.Utf8.encode (Activity.stateAfter runs s).prompt

section

variable {s : Session σ} {lines : List Text.Bytes} {line : Text.Bytes}
variable {r : Run (Session σ) SessionError Ending}
variable {runs : List (Run (Session σ) SessionError Ending)}

theorem throughEnd_cons_of_exit (said : exits r.result = true) : throughEnd (r :: runs) = [r] := by
  simp [throughEnd, List.findIdx_cons, said]

theorem throughEnd_cons (went : exits r.result = false) :
    throughEnd (r :: runs) = r :: throughEnd runs := by
  simp [throughEnd, List.findIdx_cons, went]

theorem any_throughEnd (runs : List (Run (Session σ) SessionError Ending)) :
    (throughEnd runs).any (fun r => exits r.result) = runs.any fun r => exits r.result := by
  induction runs with
  | nil => rfl
  | cons r rest ih =>
    cases said : exits r.result with
    | true => simp [throughEnd_cons_of_exit said, said]
    | false => simp only [throughEnd_cons said, List.any_cons, ih]

/-- One more line before a talk: its prompt, what it does, and then the talk. -/
theorem LineByLine.cons {talk : Run (Session σ × ByteSource) SessionError SessionEnd}
    {asked : Journal} (rest : LineByLine r.state lines runs talk) (went : exits r.result = false)
    (prompted : asked.output = Text.Utf8.encode s.prompt) (silent : asked.calls = []) :
    LineByLine s (line :: lines) (r :: runs)
      ⟨talk.result, talk.state, asked ++ r.journal ++ talk.journal⟩ := by
  refine ⟨?_, rest.facility, rest.counter, rest.terminated, rest.unread, ?_⟩
  · simp [silent, rest.calls]
  · have ended := rest.ended
    rw [List.any_cons, went, Bool.false_or]
    split at ended
    · next some_ =>
      rw [if_pos some_]
      exact ⟨ended.1, by simp [prompted, transcript, ended.2]⟩
    · next none_ =>
      rw [if_neg none_]
      obtain ⟨result, all, output⟩ := ended
      exact ⟨result, by simp [all], by simp [prompted, transcript, output, Activity.stateAfter]⟩

end

/-! ## Reading and running -/

section

variable {s : Session σ} {sink : Sink} {input : ByteSource}

/-- At the end of the bytes there is one more prompt. -/
theorem converse_of_no_bytes (F : Facility σ) (going : s.terminated = false)
    (unfailing : sink.Unfailing) (steady : input.Steady) (none_ : input.unread = []) :
    ∃ (after : Sink) (j : Journal), j.output = Text.Utf8.encode s.prompt ∧ j.calls = [] ∧
      converse F Prompted.source ({ s with sink }, input) =
        ⟨.ok .endOfInput, ({ s with sink := after }, input), j⟩ := by
  obtain ⟨after, j, _, output, silent, told⟩ :=
    Prompted.next_of_steady unfailing steady s.prompt
  rw [none_] at told
  have read := Prompted.source_beside.next_run (w := ⟨s.facility, sink⟩) told
  refine ⟨after, _, ?_, ?_, converse_of_end (s := { s with sink }) going read⟩
  · rw [Journal.output_append, output]
    exact List.append_nil _
  · rw [Journal.calls_append, silent]
    rfl

/-- As long as there are bytes, there is a prompt, and their first line is run. -/
theorem converse_of_bytes (F : Facility σ) (going : s.terminated = false)
    (unfailing : sink.Unfailing) (steady : input.Steady) (some_ : input.unread ≠ []) :
    let line := Text.throughNewline input.unread
    ∃ (after : Sink) (j : Journal), after.Unfailing ∧ j.output = Text.Utf8.encode s.prompt ∧
      j.calls = [] ∧
      ∀ (how : Ending) (t : Session σ) (k : Journal),
        execute F (Text.lineOf line) { s with sink := after } = ⟨.ok how, t, k⟩ →
        let talk := converse F Prompted.source (t, input.advance line.length)
        converse F Prompted.source ({ s with sink }, input) =
          ⟨talk.result, talk.state, j ++ k ++ talk.journal⟩ := by
  intro line
  obtain ⟨after, j, still, output, silent, told⟩ :=
    Prompted.next_of_steady unfailing steady s.prompt
  have some_ : line.isEmpty = false := by
    rw [List.isEmpty_eq_false_iff]
    exact Text.throughNewline_ne_nil some_
  rw [if_neg (by simp [line, some_])] at told
  have read := Prompted.source_beside.next_run (w := ⟨s.facility, sink⟩) told
  exact ⟨after, j, still, output, silent, fun how t k ran =>
    converse_of_line (s := { s with sink }) going read ran⟩

end

/-- Reading and running the lines of some bytes is running them one after the other, with
the prompts in between, also if these have gone to the sink before. -/
theorem lineByLine_converse (F : Facility σ) (lines : List Text.Bytes) (s : Session σ)
    (sink : Sink) (input : ByteSource) (going : s.terminated = false)
    (unprompted : s.sink.Unfailing) (unfailing : sink.Unfailing) (steady : input.Steady)
    (cut : Text.cutBytes input.unread = lines) :
    LineByLine s lines (throughEnd (Activity.series (execute F) (lines.map Text.lineOf) s))
      (converse F Prompted.source ({ s with sink }, input)) := by
  induction lines generalizing s sink input with
  | nil =>
    have none_ : input.unread = [] := Text.cutBytes_eq_nil_iff.1 cut
    obtain ⟨after, j, output, silent, talked⟩ := converse_of_no_bytes F going unfailing steady none_
    rw [talked]
    exact ⟨silent, rfl, rfl, rfl, none_, rfl, rfl, output⟩
  | cons line rest ih =>
    have some_ : input.unread ≠ [] := fun none_ => by
      rw [Text.cutBytes_eq_nil_iff.2 none_] at cut
      cases cut
    rw [Text.cutBytes_of_ne_nil some_] at cut
    obtain ⟨rfl, others⟩ := List.cons_eq_cons.1 cut
    obtain ⟨prompted, j, still, output, silent, talked⟩ :=
      converse_of_bytes F going unfailing steady some_
    obtain ⟨how, t, k, ran⟩ :=
      execute_of_unfailing F (Text.lineOf (Text.throughNewline input.unread)) going
    obtain ⟨after, stillAlone, ranAlone⟩ := ran s.sink unprompted
    obtain ⟨afterwards, stillAfter, ran⟩ := ran prompted still
    rw [talked _ _ _ ran, List.map_cons, Activity.series]
    have ranAlone : execute F _ s = _ := ranAlone
    have closed := terminated_of_execute F (Text.lineOf (Text.throughNewline input.unread)) going
    rw [ranAlone] at closed ⊢
    cases how with
    | exit =>
      rw [converse_of_terminated (s := { t with sink := afterwards }) closed,
        throughEnd_cons_of_exit rfl]
      have left : input.unread.drop _ = rest.flatten :=
        (Text.flatten_cutBytes _).symm.trans (congrArg List.flatten others)
      refine ⟨?_, rfl, rfl, rfl, left, rfl, ?_⟩
      · simp [silent]
      · simp [output, transcript]
    | completed =>
      rw [throughEnd_cons rfl]
      have within_ := (Text.throughNewline_isPrefix input.unread).length_le
      have later := ih { t with sink := after } afterwards _ closed stillAlone stillAfter
        (steady.advance within_) others
      exact later.cons rfl output silent

/-- Reading and running the lines of some bytes is running them one after the other. Take a
session that is not over, any facility, a sink that never fails and gets the prompts too,
and a source that hands out its bytes in any pieces. Let the session run the lines of the
bytes one after the other, without prompts, and let `k` be the place of the first one that
ends the session. The facility is asked for the same things and gives the same answers, and
facility, counter and end of the session are as the lines through `k` leave them. If there
is such a line, it is the last thing that is read, everything behind its newline is still
unread, and the output is that of the lines with the prompt before each. If not, all the
bytes are read, and there is one more prompt behind the last line. -/
theorem converse_eq_line_by_line (F : Facility σ) (s : Session σ) (input : ByteSource)
    (going : s.terminated = false) (unfailing : s.sink.Unfailing) (steady : input.Steady) :
    let lines := Text.cutBytes input.unread
    let runs := Activity.series (execute F) (lines.map Text.lineOf) s
    let k := runs.findIdx fun r => exits r.result
    let through := runs.take (k + 1)
    let last := Activity.stateAfter through s
    let talk := converse F Prompted.source (s, input)
    talk.journal.calls = (through.flatMap fun r => r.journal.calls) ∧
    talk.state.1.facility = last.facility ∧ talk.state.1.counter = last.counter ∧
    talk.state.1.terminated = last.terminated ∧
    if k < lines.length then
      talk.result = .ok .exit ∧ talk.journal.output = transcript s through ∧
        talk.state.2.unread = (lines.drop (k + 1)).flatten
    else
      talk.result = .ok .endOfInput ∧
        talk.journal.output = transcript s through ++ Text.Utf8.encode last.prompt ∧
        talk.state.2.unread = [] := by
  intro lines runs k through last talk
  have recounts : LineByLine s lines through talk :=
    lineByLine_converse F lines s s.sink input going unfailing unfailing steady rfl
  refine ⟨recounts.calls, recounts.facility, recounts.counter, recounts.terminated, ?_⟩
  have size : runs.length = lines.length := by simp [runs]
  have found : k < lines.length ↔ through.any (fun r => exits r.result) = true := by
    rw [show through.any _ = runs.any _ from any_throughEnd runs, ← size, List.any_eq_true]
    exact List.findIdx_lt_length
  have ended := recounts.ended
  have unread := recounts.unread
  by_cases some_ : k < lines.length
  · rw [if_pos (found.1 some_)] at ended
    rw [if_pos some_]
    refine ⟨ended.1, ended.2, ?_⟩
    rwa [List.length_take, size, Nat.min_eq_left some_] at unread
  · rw [if_neg (mt found.2 some_)] at ended
    rw [if_neg some_]
    refine ⟨ended.1, ended.2.2, ?_⟩
    rw [ended.2.1, List.drop_length] at unread
    exact unread

/-- Three lines, the second of which is `exit`, read two bytes at a time. The third one is
still unread. -/
theorem prompted_through_exit :
    let s : Session Scripted.State := { facility := {}, sink := .boundless }
    let input : ByteSource := { unread := Text.Utf8.encode "a\nexit\nb\n", chunk := some 2 }
    let talk := converse (Scripted.facility {}) Prompted.source (s, input)
    s.sink.Unfailing ∧ input.Steady ∧ talk.result = .ok .exit ∧
      talk.journal.output = Text.Utf8.encode "shell[1]% a\nshell[2]% exit\n" ∧
      talk.journal.calls = [.spawn ["a"] (.ok (.ofIndex 0)), .wait (.ok (.ofIndex 0))] ∧
      talk.state.2.unread = Text.Utf8.encode "b\n" := by
  intro s input talk
  have unfailing := Sink.unfailing_boundless
  have steady : input.Steady := ⟨by decide, fun _ no => nomatch no⟩
  obtain ⟨calls, _, _, _, ended⟩ :=
    converse_eq_line_by_line (Scripted.facility {}) s input rfl unfailing steady
  rw [if_pos (by cbv)] at ended
  exact ⟨unfailing, steady, ended.1, ended.2.1.trans (by cbv), calls.trans (by cbv),
    ended.2.2.trans (by cbv)⟩

end CommandChains.Session
