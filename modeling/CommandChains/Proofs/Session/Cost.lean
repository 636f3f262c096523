import Mathlib
import CommandChains.Proofs.Cost
import CommandChains.Proofs.Input.Lines
import CommandChains.Proofs.Session.Execute
import CommandChains.Proofs.Session.Source

/-!
# What sessions cost

A line costs what its chain costs and a little more. A source can pay for the lines that it
gives if reading a line uses up as much as running it may cost (`LineSource.Pays`): listed
lines are worth what they cost, and prompted lines pay with their bytes, since a line of so
many bytes has no more commands than that.

So a session that works through a source comes to an end, and how long it takes is known
beforehand: it depends on the input, on the credit of the facility, and on nothing else.
-/

namespace CommandChains

/-! ## How much a line can ask for -/

namespace Text

theorem Utf8.length_start (b : UInt8) :
    (start b).units.length + (start b).begun.toList.length = 1 := by
  simp only [start]
  repeat' split
  all_goals rfl

theorem Utf8.length_step_le (begun : Option Begun) (b : UInt8) :
    (step begun b).units.length + (step begun b).begun.toList.length ≤
      begun.toList.length + 1 := by
  have fresh := length_start b
  cases begun with
  | none => exact fresh.le
  | some p =>
    simp only [step, Option.toList_some, List.length_singleton]
    split
    · split <;> simp
    · simp only [List.length_cons]
      omega

/-- A sequence that is open counts for one more part, for it may turn out to be ill-formed. -/
theorem Utf8.length_unitsFrom_le (begun : Option Begun) (bytes : Bytes) :
    (unitsFrom begun bytes).length ≤ begun.toList.length + bytes.length := by
  induction bytes generalizing begun with
  | nil => cases begun <;> simp [unitsFrom]
  | cons b rest ih =>
    have step := length_step_le begun b
    have more := ih (Utf8.step begun b).begun
    rw [unitsFrom, List.length_append, List.length_cons]
    omega

/-- Bytes say no more characters than there are bytes. -/
theorem length_lineOf_le (bytes : Bytes) : (lineOf bytes).toList.length ≤ bytes.length := by
  have decoded := Utf8.length_unitsFrom_le none bytes
  have trimmed := ((Utf8.decodeChars bytes).reverse.dropWhile_sublist isLineEnd).length_le
  simp only [Utf8.decodeChars, Utf8.units, List.length_reverse, List.length_map] at trimmed
  simp only [lineOf, trimLineEnd, Utf8.decodeChars, Utf8.units, String.toList_ofList,
    List.length_reverse]
  simp only [Option.toList_none, List.length_nil] at decoded
  omega

theorem length_words_le (text : List Char) : (words text).length ≤ text.length := by
  induction text with
  | nil => simp
  | cons c rest ih =>
    cases space : isWhiteSpace c with
    | true =>
      rw [words_cons_space rest space, List.length_cons]
      omega
    | false =>
      obtain ⟨piece, others, cut⟩ := List.exists_cons_of_ne_nil (pieces_ne_nil rest)
      have fewer : (others.filter fun piece => !piece.isEmpty).length ≤ (words rest).length := by
        rw [words, cut]
        exact ((List.sublist_cons_self piece others).filter _).length_le
      simp only [words, pieces, space, cut, Bool.false_eq_true, if_false, List.filter_cons,
        List.isEmpty_cons, Bool.not_false, if_true, List.length_cons]
      omega

end Text

theorem Chain.length_commandsOf_le (words : List String) :
    (commandsOf words).length ≤ words.length := by
  induction words with
  | nil => simp
  | cons word rest ih =>
    cases h : Delimiter.ofWord? word with
    | some d =>
      rw [commandsOf_delimiter rest h]
      simpa using ih
    | none =>
      rw [commandsOf_word rest h]
      cases read : commandsOf rest with
      | nil => simp [joinFirst]
      | cons c others =>
        rw [read] at ih
        simp only [joinFirst, List.length_cons] at ih ⊢
        omega

/-- A line has no more commands than the bytes that it was read from. -/
theorem Chain.length_dispatchable_lineOf_le (bytes : Text.Bytes) :
    (ofLine (Text.lineOf bytes)).dispatchable.length ≤ bytes.length := by
  refine (List.length_filter_le _ _).trans ?_
  refine (length_commandsOf_le _).trans ?_
  rw [Text.wordsOf, List.length_map]
  exact (Text.length_words_le _).trans (Text.length_lineOf_le bytes)

namespace Session

variable {σ τ : Type} {F : Facility σ} {credit : σ → Nat}

/-! ## Lines -/

def charge (line : String) : Nat :=
  10 * (Chain.ofLine line).dispatchable.length + 4

theorem costs_settle (line : String) (ending : Ending) :
    (settle line ending).Costs (fun s : Session σ => World.credit credit s.toWorld) 1 := by
  cases ending with
  | exit =>
    refine Activity.costs_state.bind (n := 1) fun s => ?_
    refine (Activity.costs_log _).bind fun _ => Activity.costs_update ?_
    exact fun _ => rfl
  | completed =>
    rw [settle]
    split
    · exact Activity.costs_pure _ _
    · refine (Activity.costs_update ?_).mono (Nat.zero_le 1)
      exact fun _ => rfl

theorem costs_runLine (spends : F.Spends credit) (line : String) :
    (runLine F line).Costs (fun s => World.credit credit s.toWorld)
      (10 * (Chain.ofLine line).dispatchable.length + 2) := by
  rw [runLine]
  split
  · exact Activity.costs_pure _ _
  · exact ((Chain.costs_run spends _).mapError _).within fun _ _ => Nat.add_comm _ _

theorem costs_execute (spends : F.Spends credit) (line : String) :
    (execute F line).Costs (fun s => World.credit credit s.toWorld) (charge line) := by
  have going : (proceed F line).Costs (fun s => World.credit credit s.toWorld) (charge line) := by
    refine Activity.Costs.mono
      (m := 1 + (10 * (Chain.ofLine line).dispatchable.length + 2 + (1 + 0))) ?_ ?_
    · refine (Activity.costs_log _).bind fun _ => (costs_runLine spends line).bind fun ending => ?_
      exact (costs_settle line ending).bind fun _ => Activity.costs_pure _ 0
    · rw [charge]
      omega
  intro s
  rw [execute_run]
  split
  · simp
  · exact going s

end Session

/-! ## Sources -/

/-- Readings that are paid for by what they use up of a source, and so are the lines read. -/
structure LineSource.Pays {τ : Type}
    (next : String → Activity (Sink × τ) SessionError (Option String)) (work : τ → Nat)
    (charge : Nat) : Prop where
  /-- No reading costs more than the charge, beyond what it uses up. -/
  reading : ∀ prompt, (next prompt).Costs (fun s => work s.2) charge
  /-- A reading that gives a line uses up what it costs, and what the line may cost. -/
  line : ∀ {prompt line sink after input rest j},
    next prompt (sink, input) = ⟨.ok (some line), (after, rest), j⟩ →
      j.length + Session.charge line + work rest ≤ work input

namespace Session

variable {σ τ : Type} {F : Facility σ} {credit : σ → Nat} {L : LineSource σ τ}
variable {next : String → Activity (Sink × τ) SessionError (Option String)} {work : τ → Nat}
variable {n : Nat} {s t : Session σ} {w : World σ} {input rest : τ} {j k : Journal}

theorem paid_reading (beside : L.Beside next) (pays : LineSource.Pays next work n)
    {result : Except SessionError (Option String)}
    (read : L.next s.prompt (s.toWorld, input) = ⟨result, (w, rest), j⟩) :
    j.length + (World.credit credit w + work rest) ≤
      World.credit credit s.toWorld + work input + n := by
  obtain ⟨read, same⟩ := beside.of_next read
  have paid := pays.reading s.prompt (s.sink, input)
  rw [read] at paid
  simp only [World.credit, same]
  dsimp only at paid
  omega

/-- A line is paid for by the time that it has been run, however it ends. -/
theorem paid_line (spends : F.Spends credit) (beside : L.Beside next)
    (pays : LineSource.Pays next work n) {line : String} {result : Except SessionError Ending}
    (read : L.next s.prompt (s.toWorld, input) = ⟨.ok (some line), (w, rest), j⟩)
    (ran : execute F line { s with toWorld := w } = ⟨result, t, k⟩) :
    (j ++ k).length + (World.credit credit t.toWorld + work rest) ≤
      World.credit credit s.toWorld + work input := by
  obtain ⟨read, same⟩ := beside.of_next read
  have paid := pays.line read
  have cost := costs_execute spends line { s with toWorld := w }
  rw [ran] at cost
  simp only [World.credit, same, List.length_append] at cost ⊢
  omega

/-- A session that works through a source that pays comes to an end. What goes beyond the work
and the credit is the reading that ends it, and what is logged then. -/
theorem costs_converse (spends : F.Spends credit) (beside : L.Beside next)
    (pays : LineSource.Pays next work n) :
    (converse F L).Costs (fun s => World.credit credit s.1.toWorld + work s.2) (n + 1) := by
  rintro ⟨s, input⟩
  refine converse_induction (F := F) (L := L) (motive := fun s input r =>
    r.journal.length + (World.credit credit r.state.1.toWorld + work r.state.2) ≤
      World.credit credit s.toWorld + work input + (n + 1)) ?_ ?_ ?_ ?_ ?_ s input
  · intro s input _
    simp
  · intro s input e w rest j _ read
    exact (paid_reading beside pays read).trans (Nat.le_succ _)
  · intro s input w rest j _ read
    have paid : j.length + (World.credit credit w + work rest) ≤ _ :=
      paid_reading beside pays read
    simp only [List.length_append, List.length_singleton]
    omega
  · intro s input line w rest j e t k _ read ran
    exact (paid_line spends beside pays read ran).trans (Nat.le_add_right _ _)
  · intro s input line w rest j how t k _ read ran more ih
    have paid := paid_line spends beside pays read ran
    simp only [List.length_append] at paid ⊢
    omega

end Session

def ListedLines.work (lines : ListedLines) : Nat :=
  (lines.entries.map fun
    | .line text => Session.charge text
    | .failure _ | .endOfInput => 0).sum

theorem ListedLines.pays :
    LineSource.Pays (fun prompt => LineSource.onSource (take prompt)) work 0 where
  reading prompt := by
    have taking : (take prompt).Costs work 0 := by
      intro lines
      unfold take
      split <;> next listed => simp [work, listed]
    exact taking.within fun t s => Nat.add_comm _ _
  line {prompt line sink after input rest j} read := by
    simp only [LineSource.onSource, Activity.within] at read
    unfold take at read
    split at read <;> cases read
    next others listed => simp [work, listed]

/-- Each request but the last takes a byte at least, so what is laid aside for each byte pays
for the requests. -/
theorem ByteSource.costs_takeLine {k : Nat} (some_ : 1 ≤ k) :
    takeLine.Costs (fun s => k * s.unread.length) 1 := by
  intro s
  fun_induction takeLine s with
  | case1 s e asked => exact (Nat.add_comm _ _).le
  | case2 s piece asked line newline =>
    have fewer := Nat.mul_le_mul_left k (Nat.sub_le s.unread.length (line.length + 1))
    simp only [advance, List.length_drop, List.length_singleton]
    omega
  | case3 s asked => exact (Nat.add_comm _ _).le
  | case4 s piece asked line through some_ shorter rest ih =>
    have fewer := Nat.mul_le_mul_left k (Nat.succ_le_of_lt shorter)
    rw [Nat.mul_succ] at fewer
    simp only [List.length_cons, rest] at ih ⊢
    omega

namespace Prompted

theorem costs_next {k : Nat} (some_ : 1 ≤ k) (prompt : String) :
    (next prompt).Costs (fun s => k * s.2.unread.length) 3 := by
  rw [next, nextFrom]
  refine (((Sink.costs_say prompt).within ?_).mapError _).bind (n := 1) fun _ =>
    (((ByteSource.costs_takeLine some_).within ?_).mapError _).bind (n := 0) fun bytes => ?_
  · exact fun _ _ => rfl
  · exact fun _ _ => Nat.add_comm _ _
  · split <;> exact Activity.costs_pure _ _

/-- A line that was read is what some bytes say, and these were taken. -/
theorem bytes_of_next {prompt line : String} {sink after : Sink} {input rest : ByteSource}
    {j : Journal} (read : next prompt (sink, input) = ⟨.ok (some line), (after, rest), j⟩) :
    ∃ bytes, bytes ≠ [] ∧ line = Text.lineOf bytes ∧ input.unread = bytes ++ rest.unread := by
  obtain ⟨bytes, k, some_, taken⟩ := taken_of_nextFrom read
  refine ⟨bytes, some_, ?_, ByteSource.unread_of_takeLine taken⟩
  obtain ⟨t, said⟩ | ⟨e, t, said⟩ := Sink.say_cases prompt sink
  · rw [next, nextFrom_run_ok said taken, if_neg (by simpa using some_)] at read
    cases read
    rfl
  · rw [next, nextFrom, Activity.bind_run_error (e := .system e) (t := (t, input))
      (Activity.mapError_run_error (by rw [LineSource.onSink, Activity.within, said]) _)] at read
    cases read

/-- Eighteen for each byte: seven for the reading of its line and for what the line costs
without its commands, eleven for the request for it and for a command that it may belong to. -/
theorem pays : LineSource.Pays next (fun input => 18 * input.unread.length) 3 where
  reading := costs_next (by omega)
  line {prompt line sink after input rest j} read := by
    have cost := costs_next (Nat.le_refl 1) prompt (sink, input)
    obtain ⟨bytes, some_, rfl, taken⟩ := bytes_of_next read
    have commands := Chain.length_dispatchable_lineOf_le bytes
    have length := congrArg List.length taken
    have pos := List.length_pos_iff.2 some_
    rw [read] at cost
    rw [List.length_append] at length
    simp only [Session.charge, Nat.one_mul] at cost ⊢
    omega

end Prompted

/-! ## Scripted facilities -/

/-- On a scripted facility everything comes to an end, from whatever state it is in and whatever
waits are set. The credit of a state is the number of its outstanding children together with
the number of foreign handles that are set for waits still to come.

No more handles than that can be named one after the other, whoever they name. So a wait for a
child ends, and it asks at most once more. A chain, a line, and a session over bytes or over
listed lines do no more than twice the credit, and so much for each command, byte or line:
everything that they do is an entry of the journal. -/
theorem Scripted.ends_within_credit (p : Plan) (s : State) (sink : Sink) :
    let F := facility p
    let credit := s.outstanding.length + (p.strangers s.waits).card
    (∀ (named : List Handle) (t : State),
      F.Trace s (named.map fun r => .wait (.ok r)) t → named.length ≤ credit) ∧
    (∀ h, ∃ answer t j,
      (await F h ⟨s, sink⟩ : Run _ SystemError _) = ⟨.ok answer, ⟨t, sink⟩, j⟩ ∧
        F.Trace s j.calls t ∧ WaitsFor h j.calls ∧ j.calls.length ≤ credit + 1) ∧
    (∀ chain : Chain, (chain.run F ⟨s, sink⟩).journal.length ≤
      2 * credit + (10 * chain.dispatchable.length + 2)) ∧
    ∀ counter terminated,
      let session : Session State := ⟨⟨s, sink⟩, counter, terminated⟩
      (∀ line, (Session.execute F line session).journal.length ≤
        2 * credit + (10 * (Chain.ofLine line).dispatchable.length + 4)) ∧
      (∀ input, (Session.converse F Prompted.source (session, input)).journal.length ≤
        2 * credit + 18 * input.unread.length + 4) ∧
      ∀ lines, (Session.converse F ListedLines.source (session, lines)).journal.length ≤
        2 * credit + lines.work + 1 := by
  intro F credit
  have spends : F.Spends (State.credit p) := Scripted.spends p
  refine ⟨fun named t trace => ?_, fun h => ?_, fun chain => ?_, fun counter terminated => ?_⟩
  · exact Nat.le_of_add_right_le (spends.length_le trace)
  · obtain ⟨answer, t, j, performed, waits⟩ := await_run (ε := SystemError) F h ⟨s, sink⟩
    have trace := (faithful_await (ε := SystemError) F h).trace performed
    exact ⟨answer, t, j, performed, trace, waits, spends.length_waits_le waits trace⟩
  · exact (Chain.costs_run spends chain).length_le _
  · intro session
    refine ⟨fun line => ?_, fun input => ?_, fun lines => ?_⟩
    · exact (Session.costs_execute spends line).length_le session
    · exact (Session.costs_converse spends Prompted.source_beside Prompted.pays).length_le
        (session, input)
    · exact (Session.costs_converse spends ListedLines.source_beside ListedLines.pays).length_le
        (session, lines)

end CommandChains
