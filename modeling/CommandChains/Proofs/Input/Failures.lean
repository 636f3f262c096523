import Mathlib
import CommandChains.Proofs.Activity
import CommandChains.Proofs.Input.Lines

/-!
# Readings that fail

A reading may fail in two places. If the prompt cannot be shown, nothing is asked of the source,
and the next reading begins where this one would have. The readings whose prompt was shown
(`Prompted.heard`) are therefore those that an unfailing sink would have seen: what they come to is
settled by the source alone, which gives one line after the other (`Prompted.heard_eq_takings`).

If the source fails, the bytes of the line that was being read are gone. A source that fails at some
place (`ByteSource.Failing`) gives the lines that have come to their newline by then, and after
these it fails for good. A line that is cut off by the failure is not taken for a line, and the
failure is not taken for the end of the input.
-/

namespace CommandChains

namespace Text

/-! ## Whole lines -/

/-- The lines of some bytes whose newline stands among the first `n` bytes. -/
def wholeLines (n : Nat) (bytes : Bytes) : List Bytes :=
  (cutBytes bytes).take ((bytes.take n).count newlineByte)

variable {bytes inside behind : Bytes} {n : Nat}

theorem wholeLines_of_notMem (none_ : newlineByte ∉ bytes.take n) : wholeLines n bytes = [] := by
  rw [wholeLines, List.count_eq_zero_of_not_mem none_, List.take_zero]

/-- The line through the first newline is a whole one, and the others are those of what stands
behind it. -/
theorem wholeLines_of_newline (plain : newlineByte ∉ inside)
    (first : bytes.take n = inside ++ newlineByte :: behind) :
    wholeLines n bytes = (inside ++ [newlineByte]) ::
      wholeLines (n - (inside.length + 1)) (bytes.drop (inside.length + 1)) := by
  have cut : ∀ rest, (inside ++ newlineByte :: rest).drop (inside.length + 1) = rest := by
    intro rest
    simp
  have rest : behind = (bytes.drop (inside.length + 1)).take (n - (inside.length + 1)) := by
    rw [← List.drop_take, first, cut]
  have whole : bytes = inside ++ newlineByte :: bytes.drop (inside.length + 1) := by
    have all := List.take_append_drop n bytes
    rw [first, List.append_assoc, List.cons_append] at all
    rw [← all, cut]
  have lines := cutBytes_append_newline plain (bytes.drop (inside.length + 1))
  rw [← whole] at lines
  rw [wholeLines, first, lines, List.count_append, List.count_eq_zero_of_not_mem plain,
    List.count_cons_self, Nat.zero_add, List.take_succ_cons, rest, wholeLines]

theorem ne_nil_of_mem_cutBytes {line : Bytes} (mem : line ∈ cutBytes bytes) : line ≠ [] := by
  induction bytes generalizing line with
  | nil => cases mem
  | cons b rest ih =>
    rw [cutBytes] at mem
    split at mem
    · rcases List.mem_cons.1 mem with rfl | later
      · exact List.cons_ne_nil _ _
      · exact ih later
    · cases cut : cutBytes rest with
      | nil =>
        rw [cut, List.mem_singleton] at mem
        exact mem ▸ List.cons_ne_nil _ _
      | cons first others =>
        rw [cut] at mem ih
        rcases List.mem_cons.1 mem with rfl | later
        · exact List.cons_ne_nil _ _
        · exact ih (List.mem_cons_of_mem _ later)

end Text

namespace ByteSource

/-! ## Sources that fail -/

/-- A source that fails after so many bytes, with these bytes at hand. -/
structure Failing (s : ByteSource) (n : Nat) : Prop where
  sound : s.Sound
  failingAt : s.failingAt = some n
  within_ : n ≤ s.consumed + s.unread.length

variable {s : ByteSource} {n : Nat}

namespace Failing

theorem fails (h : s.Failing n) : s.fails = true := by
  rw [ByteSource.fails, h.failingAt]
  exact decide_eq_true h.within_

theorem reach (h : s.Failing n) : s.reach = s.unread.take (n - s.consumed) := by
  rw [ByteSource.reach, h.failingAt]

theorem length_reach (h : s.Failing n) : s.reach.length = n - s.consumed := by
  have within_ := h.within_
  rw [h.reach, List.length_take]
  omega

theorem advance (h : s.Failing n) {k : Nat} (short : k ≤ n - s.consumed) :
    (s.advance k).Failing n where
  sound := h.sound.advance (h.length_reach ▸ short)
  failingAt := h.failingAt
  within_ := by
    have before := h.sound.consumed n h.failingAt
    have within_ := h.within_
    simp only [ByteSource.advance, List.length_drop]
    omega

/-- A line whose newline stands in front of the failure is taken. -/
theorem takeLine_of_newline (h : s.Failing n) {inside behind : Text.Bytes}
    (plain : Text.newlineByte ∉ inside)
    (first : s.unread.take (n - s.consumed) = inside ++ Text.newlineByte :: behind) :
    ∃ j, takeLine s = ⟨.ok (inside ++ [Text.newlineByte]), s.advance (inside.length + 1), j⟩ := by
  obtain ⟨j, _, taken⟩ := takeLine_run s h.sound
  rw [h.reach, first, Text.throughNewline_append_newline plain, if_neg (by simp),
    List.length_append, List.length_singleton] at taken
  exact ⟨j, taken⟩

/-- Without a newline in front of the failure all that can be had is taken and lost. -/
theorem takeLine_of_notMem (h : s.Failing n)
    (none_ : Text.newlineByte ∉ s.unread.take (n - s.consumed)) :
    ∃ j, takeLine s = ⟨.error readFailure, s.advance (n - s.consumed), j⟩ := by
  obtain ⟨j, _, taken⟩ := takeLine_run s h.sound
  have line := Text.throughNewline_append (h.reach ▸ none_) []
  rw [List.append_nil, Text.throughNewline, List.append_nil] at line
  rw [line, if_pos ⟨h.reach ▸ none_, h.fails⟩, h.length_reach] at taken
  exact ⟨j, taken⟩

/-- Lines that are taken one after the other are the whole lines, and then the source fails where
it is to fail. -/
theorem taking {ι : Type} (items : List ι) (h : s.Failing n) {i : Nat}
    {r : Run ByteSource SystemError Text.Bytes}
    (taking : (Activity.series (fun _ => takeLine) items s)[i]? = some r) :
    (∀ line, (Text.wholeLines (n - s.consumed) s.unread)[i]? = some line → r.result = .ok line) ∧
    ((Text.wholeLines (n - s.consumed) s.unread).length ≤ i →
      r.result = .error readFailure ∧ r.state = s.advance (n - s.consumed)) := by
  induction items generalizing s i with
  | nil => cases taking
  | cons item rest ih =>
    by_cases newline : Text.newlineByte ∈ s.unread.take (n - s.consumed)
    · obtain ⟨inside, behind, first, plain⟩ := List.eq_append_cons_of_mem newline
      have short : inside.length + 1 ≤ n - s.consumed := by
        have size := congrArg List.length first
        rw [← h.reach, h.length_reach, List.length_append, List.length_cons] at size
        omega
      obtain ⟨j, taken⟩ := h.takeLine_of_newline plain first
      rw [Activity.series, taken] at taking
      rw [Text.wholeLines_of_newline plain first]
      cases i with
      | zero =>
        obtain rfl := Option.some.inj taking
        refine ⟨fun line here => ?_, fun past => absurd past (by simp)⟩
        exact congrArg Except.ok (Option.some.inj here)
      | succ i =>
        obtain ⟨taken, failed⟩ := ih (h.advance short) taking
        have others : n - (s.advance (inside.length + 1)).consumed =
            n - s.consumed - (inside.length + 1) := (Nat.sub_sub ..).symm
        rw [others] at taken failed
        rw [List.getElem?_cons_succ, List.length_cons]
        refine ⟨taken, fun past => ?_⟩
        obtain ⟨result, state⟩ := failed (Nat.le_of_succ_le_succ past)
        rw [advance_advance, Nat.add_sub_cancel' short] at state
        exact ⟨result, state⟩
    · obtain ⟨j, taken⟩ := h.takeLine_of_notMem newline
      rw [Activity.series, taken] at taking
      rw [Text.wholeLines_of_notMem newline]
      refine ⟨fun line here => (nomatch here), fun _ => ?_⟩
      cases i with
      | zero =>
        obtain rfl := Option.some.inj taking
        exact ⟨rfl, rfl⟩
      | succ i =>
        have before := h.sound.consumed n h.failingAt
        have spent : n - (s.advance (n - s.consumed)).consumed = 0 := by
          simp only [ByteSource.advance]
          omega
        obtain ⟨-, failed⟩ := ih (h.advance (Nat.le_refl _)) taking
        rw [spent, Text.wholeLines_of_notMem (by simp), advance_advance, Nat.add_zero] at failed
        exact failed (Nat.zero_le _)

end Failing

end ByteSource

namespace Prompted

open Activity (series)

/-! ## Readings whose prompt was shown -/

variable {prompt : String} {sink after : Sink} {input : ByteSource} {j : Journal}

/-- What a reading comes to, once bytes have been taken for it or the source has failed. -/
def told : Except SystemError Text.Bytes → Except SessionError (Option String)
  | .ok bytes => .ok (if bytes.isEmpty then none else some (Text.lineOf bytes))
  | .error e => .error (.system e)

/-- If the prompt cannot be shown, nothing is read. -/
theorem next_of_unsaid {e : SystemError} (said : Sink.say prompt sink = ⟨.error e, after, j⟩)
    (input : ByteSource) :
    next prompt (sink, input) = ⟨.error (.system e), (after, input), j⟩ := by
  refine Activity.bind_run_error (Activity.mapError_run_error ?_ _) _
  rw [LineSource.onSink, Activity.within, said]

/-- If the prompt is shown, what a reading comes to is up to the source. -/
theorem next_of_said (said : Sink.say prompt sink = ⟨.ok (), after, j⟩) (input : ByteSource) :
    ∃ k, next prompt (sink, input) =
      ⟨told (ByteSource.takeLine input).result, (after, (ByteSource.takeLine input).state), k⟩ := by
  rcases taken : ByteSource.takeLine input with ⟨result, rest, k⟩
  cases result with
  | ok bytes => exact ⟨j ++ k, nextFrom_run_ok said taken⟩
  | error e =>
    refine ⟨j ++ k, ?_⟩
    rw [next, nextFrom, Activity.bind_run_ok (prompt_run_ok said input), Activity.bind_run_error
      (Activity.mapError_run_error (by rw [LineSource.onSource, Activity.within, taken]) _)]
    rfl

def heard (prompts : List String) (sink : Sink) (input : ByteSource) :
    List (Run (Sink × ByteSource) SessionError (Option String)) :=
  (((series Sink.say prompts sink).zip (series next prompts (sink, input))).filter
    fun both => both.1.result.isOk).map Prod.snd

theorem heard_of_unsaid {e : SystemError} (said : Sink.say prompt sink = ⟨.error e, after, j⟩)
    (rest : List String) (input : ByteSource) :
    heard (prompt :: rest) sink input = heard rest after input := by
  simp [heard, series, said, next_of_unsaid said, Except.isOk, Except.toBool]

theorem heard_of_said (said : Sink.say prompt sink = ⟨.ok (), after, j⟩) (rest : List String)
    (input : ByteSource) :
    heard (prompt :: rest) sink input =
      next prompt (sink, input) :: heard rest after (ByteSource.takeLine input).state := by
  obtain ⟨k, read⟩ := next_of_said said input
  simp [heard, series, said, read, Except.isOk, Except.toBool]

/-- What these readings come to is up to the source, and not to prompts and sink. -/
theorem heard_eq_takings {ι : Type} (prompts : List String) (sink : Sink) (input : ByteSource)
    (items : List ι) (many : items.length = (heard prompts sink input).length) :
    (heard prompts sink input).map (fun r => (r.result, r.state.2)) =
      (series (fun _ => ByteSource.takeLine) items input).map
        fun r => (told r.result, r.state) := by
  induction prompts generalizing sink input items with
  | nil =>
    cases items with
    | nil => rfl
    | cons _ _ => cases many
  | cons prompt rest ih =>
    rcases said : Sink.say prompt sink with ⟨result, after, j⟩
    cases result with
    | error e =>
      rw [heard_of_unsaid said] at many ⊢
      exact ih after input items many
    | ok _ =>
      obtain ⟨k, read⟩ := next_of_said said input
      rw [heard_of_said said] at many ⊢
      cases items with
      | nil => cases many
      | cons item others =>
        rw [series, List.map_cons, List.map_cons, read,
          ih after _ others (Nat.succ.inj many)]

/-- With an unfailing sink, every prompt is shown. -/
theorem heard_of_unfailing (prompts : List String) {sink : Sink} (unfailing : sink.Unfailing)
    (input : ByteSource) : heard prompts sink input = series next prompts (sink, input) := by
  induction prompts generalizing sink input with
  | nil => rfl
  | cons prompt rest ih =>
    have said := unfailing.say prompt
    obtain ⟨k, read⟩ := next_of_said said input
    rw [heard_of_said said, series, ih (unfailing.afterTaking _), read]

/-- The prompt goes to the sink as if nothing were read. -/
theorem sink_of_next (prompt : String) (s : Sink × ByteSource) :
    (next prompt s).state.1 = (Sink.say prompt s.1).state := by
  rcases said : Sink.say prompt s.1 with ⟨result, after, j⟩
  cases result with
  | error e => rw [next_of_unsaid said]
  | ok _ =>
    obtain ⟨k, read⟩ := next_of_said said s.2
    rw [read]

theorem sinks_of_readings (prompts : List String) (s : Sink × ByteSource) :
    (series next prompts s).map (fun r => r.state.1) =
      (series Sink.say prompts s.1).map fun r => r.state := by
  induction prompts generalizing s with
  | nil => rfl
  | cons prompt rest ih =>
    rw [series, series, List.map_cons, List.map_cons, ih, sink_of_next]

/-- A reading whose prompt is not shown fails for this reason, and leaves the source as it was. -/
theorem unsaid_reading (prompts : List String) {s : Sink × ByteSource} {i : Nat}
    {said : Run Sink SystemError Unit} {r : Run (Sink × ByteSource) SessionError (Option String)}
    {e : SystemError} (saying : (series Sink.say prompts s.1)[i]? = some said)
    (reading : (series next prompts s)[i]? = some r) (failed : said.result = .error e) :
    r.result = .error (.system e) ∧
      r.state.2 = (Activity.stateAfter ((series next prompts s).take i) s).2 := by
  induction prompts generalizing s i with
  | nil => cases reading
  | cons prompt rest ih =>
    cases i with
    | zero =>
      obtain rfl := Option.some.inj saying
      obtain rfl := Option.some.inj reading
      rcases unsaid : Sink.say prompt s.1 with ⟨result, after, j⟩
      rw [unsaid] at failed
      cases failed
      rw [next_of_unsaid unsaid]
      exact ⟨rfl, rfl⟩
    | succ i =>
      rw [series, List.getElem?_cons_succ, ← sink_of_next] at saying
      exact ih saying reading

/-- A reading fails, or it is one of those whose prompt was shown. -/
theorem failed_or_heard (prompts : List String) {sink : Sink} {input : ByteSource}
    {r : Run (Sink × ByteSource) SessionError (Option String)}
    (mem : r ∈ series next prompts (sink, input)) :
    (∃ e, r.result = .error e) ∨ r ∈ heard prompts sink input := by
  induction prompts generalizing sink input with
  | nil => cases mem
  | cons prompt rest ih =>
    rcases said : Sink.say prompt sink with ⟨result, after, j⟩
    cases result with
    | error e =>
      rw [series, next_of_unsaid said, List.mem_cons] at mem
      rw [heard_of_unsaid said]
      rcases mem with rfl | later
      · exact .inl ⟨_, rfl⟩
      · exact ih later
    | ok _ =>
      obtain ⟨k, read⟩ := next_of_said said input
      rw [series, List.mem_cons] at mem
      rw [heard_of_said said, List.mem_cons]
      rcases mem with rfl | later
      · exact .inr (.inl rfl)
      · rw [read] at later
        exact (ih later).imp_right .inr

/-- If the source fails, the readings whose prompt was shown give its whole lines, and after these
they fail with the source. -/
theorem heard_of_failing (prompts : List String) {sink : Sink} {input : ByteSource} {n : Nat}
    (failing : input.Failing n) {i : Nat}
    {r : Run (Sink × ByteSource) SessionError (Option String)}
    (reading : (heard prompts sink input)[i]? = some r) :
    (∀ line, (Text.wholeLines (n - input.consumed) input.unread)[i]? = some line →
      r.result = .ok (some (Text.lineOf line))) ∧
    ((Text.wholeLines (n - input.consumed) input.unread).length ≤ i →
      r.result = .error (.system ByteSource.readFailure) ∧
        r.state.2 = input.advance (n - input.consumed)) := by
  have takings := heard_eq_takings prompts sink input (heard prompts sink input) rfl
  have here := congrArg (·[i]?) takings
  simp only [List.getElem?_map, reading, Option.map_some] at here
  obtain ⟨t, taking, same⟩ := Option.map_eq_some_iff.1 here.symm
  obtain ⟨result, state⟩ := Prod.mk.inj same
  obtain ⟨taken, failed⟩ := failing.taking _ taking
  rw [← result, ← state]
  refine ⟨fun line whole => ?_, fun past => ?_⟩
  · have some_ := Text.ne_nil_of_mem_cutBytes (List.mem_of_mem_take (List.mem_of_getElem? whole))
    rw [taken line whole, told, if_neg (by simpa using some_)]
  · obtain ⟨lost, place⟩ := failed past
    rw [lost, place]
    exact ⟨rfl, rfl⟩

/-- No line is lost or cut off unnoticed. A reading whose prompt cannot be shown fails with the
error of the sink and takes nothing from the source. The other readings come to the same as with a
sink that never fails and any prompts. If the source is to fail, they give the lines that have come
to their newline by then, one after the other. Every further one fails, and leaves the source where
it is to fail. No reading reports the end of the input, and what is read as a line is a whole
one. -/
theorem readings_of_failing_parts (prompts : List String) (sink : Sink) (input : ByteSource) :
    let readings := series next prompts (sink, input)
    let shown := series Sink.say prompts sink
    readings.map (fun r => r.state.1) = shown.map (fun r => r.state) ∧
    (∀ i said r e, shown[i]? = some said → readings[i]? = some r → said.result = .error e →
      r.result = .error (.system e) ∧
        r.state.2 = (Activity.stateAfter (readings.take i) (sink, input)).2) ∧
    (∀ sink' prompts', sink'.Unfailing → prompts'.length = (heard prompts sink input).length →
      (heard prompts sink input).map (fun r => (r.result, r.state.2)) =
        (series next prompts' (sink', input)).map fun r => (r.result, r.state.2)) ∧
    ∀ n, input.Failing n →
      let whole := Text.wholeLines (n - input.consumed) input.unread
      (∀ i r, (heard prompts sink input)[i]? = some r →
        (∀ line, whole[i]? = some line → r.result = .ok (some (Text.lineOf line))) ∧
        (whole.length ≤ i → r.result = .error (.system ByteSource.readFailure) ∧
          r.state.2.consumed = n ∧ r.state.2.unread = input.unread.drop (n - input.consumed))) ∧
      ∀ r ∈ readings, r.result ≠ .ok none ∧
        ∀ text, r.result = .ok (some text) → ∃ line ∈ whole, text = Text.lineOf line := by
  intro readings shown
  refine ⟨sinks_of_readings prompts (sink, input), fun i said r e saying reading failed => ?_,
    fun sink' prompts' unfailing many => ?_, fun n failing => ?_⟩
  · exact unsaid_reading prompts saying reading failed
  · have all := heard_of_unfailing prompts' unfailing input
    have many' : prompts'.length = (heard prompts' sink' input).length := by
      rw [all, Activity.length_series]
    rw [heard_eq_takings prompts sink input prompts' many, ← all,
      heard_eq_takings prompts' sink' input prompts' many']
  · intro whole
    refine ⟨fun i r reading => ?_, fun r mem => ?_⟩
    · obtain ⟨taken, failed⟩ := heard_of_failing prompts failing reading
      refine ⟨taken, fun past => ?_⟩
      obtain ⟨result, state⟩ := failed past
      have before := failing.sound.consumed n failing.failingAt
      rw [state]
      exact ⟨result, Nat.add_sub_cancel' before, rfl⟩
    · rcases failed_or_heard prompts mem with ⟨e, failed⟩ | shown
      · rw [failed]
        exact ⟨nofun, nofun⟩
      · obtain ⟨i, reading⟩ := List.mem_iff_getElem?.1 shown
        obtain ⟨taken, failed⟩ := heard_of_failing prompts failing reading
        cases here : whole[i]? with
        | some line =>
          rw [taken line here]
          refine ⟨nofun, fun text same => ⟨line, List.mem_of_getElem? here, ?_⟩⟩
          cases same
          rfl
        | none =>
          rw [(failed (List.getElem?_eq_none_iff.1 here)).1]
          exact ⟨nofun, nofun⟩

/-- The second flush fails, and then the source in the midst of its second line. -/
theorem readings_of_failing_flush :
    let input : ByteSource :=
      { unread := [0x61, 0x0A, 0x62, 0x63], chunk := some 1, failingAt := some 3 }
    let sink : Sink := { failingFlush := some 2 }
    let prompts := ["> ", "> ", "> ", "> "]
    let readings := series next prompts (sink, input)
    let shown := series Sink.say prompts sink
    input.Failing 3 ∧ Sink.boundless.Unfailing ∧
      ["", "", ""].length = (heard prompts sink input).length ∧
      shown.map (fun said => said.result.isOk) = [true, false, true, true] ∧
      readings.map (fun r => r.result) = [.ok (some "a"), .error (.system Sink.flushFailure),
        .error (.system ByteSource.readFailure), .error (.system ByteSource.readFailure)] ∧
      (heard prompts sink input).map (fun r => (r.result, r.state.2)) =
        (series next ["", "", ""] (.boundless, input)).map (fun r => (r.result, r.state.2)) ∧
      (∀ r, (heard prompts sink input)[2]? = some r → r.state.2.consumed = 3) ∧
      ∀ r ∈ readings, r.result ≠ .ok none := by
  intro input sink prompts readings shown
  have failing : input.Failing 3 :=
    ⟨⟨by decide, fun n failing => Nat.zero_le n⟩, rfl, by decide⟩
  have many : ["", "", ""].length = (heard prompts sink input).length := by cbv
  obtain ⟨_, _, same, lines⟩ := readings_of_failing_parts prompts sink input
  obtain ⟨given, ends⟩ := lines 3 failing
  have end_ : (Text.wholeLines (3 - input.consumed) input.unread).length ≤ 2 := by decide
  exact ⟨failing, Sink.unfailing_boundless, many, by cbv, by cbv,
    same .boundless ["", "", ""] Sink.unfailing_boundless many,
    fun r reading => ((given 2 r reading).2 end_).2.1, fun r mem => (ends r mem).1⟩

end Prompted

end CommandChains
