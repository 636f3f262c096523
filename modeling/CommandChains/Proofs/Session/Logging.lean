import CommandChains.Proofs.Chain.Account
import CommandChains.Proofs.Logging
import CommandChains.Proofs.Session.Execute
import CommandChains.Proofs.Session.Source
import CommandChains.SessionStep

/-!
# The log of a session

Every line begins with nobody to be awaited, so it is recorded whatever child was started
last before it. Reading calls nobody and logs nothing about a call. Hence the log of a session
accounts for all calls of its facility, one record for each and in their order, also where
lines fail at the sink.
-/

namespace CommandChains

/-! ## Reading -/

theorem ByteSource.callRecords_takeLine (s : ByteSource) : (takeLine s).journal.callRecords = [] := by
  fun_induction takeLine s with
  | case1 => rfl
  | case2 => rfl
  | case3 => rfl
  | case4 s piece asked line through some_ shorter rest ih => exact ih

theorem Prompted.recorded_next (prompt : String) {P : Option Handle → Prop} :
    Activity.Recorded P (next prompt) fun _ => P := by
  have said : Activity.Recorded P (Sink.say prompt) fun _ => P :=
    Activity.recorded_of_silent (Sink.calls_say prompt) (Sink.callRecords_say prompt)
  have taken : Activity.Recorded P ByteSource.takeLine fun _ => P :=
    Activity.recorded_of_silent ByteSource.silent_takeLine ByteSource.callRecords_takeLine
  refine ((said.within _ _).mapError _).bind fun _ => ?_
  refine ((taken.within _ _).mapError _).bind fun bytes => ?_
  split <;> exact Activity.recorded_pure fun _ => id

theorem ListedLines.recorded_take (prompt : String) {P : Option Handle → Prop} :
    Activity.Recorded P (take prompt) fun _ => P := by
  refine Activity.recorded_of_silent (silent_take prompt) fun s => ?_
  unfold take
  split <;> rfl

theorem LineSource.Beside.recorded {σ τ : Type} {L : LineSource σ τ}
    {next : String → Activity (Sink × τ) SessionError (Option String)} (beside : L.Beside next)
    {P : Option Handle → Prop} {prompt : String}
    (reading : Activity.Recorded P (next prompt) fun _ => P) :
    Activity.Recorded P (L.next prompt) fun _ => P := by
  rw [beside prompt]
  exact reading.within _ _

namespace Session

variable {σ τ : Type}

/-! ## Lines and sources -/

/-- Nobody is awaited at the beginning of a line. -/
theorem recorded_runLine (F : Facility σ) (line : String) :
    Activity.Recorded (fun _ => True) (runLine F line) fun _ _ => True := by
  have nonempty : ∀ c ∈ (Chain.ofLine line).dispatchable, c.argv ≠ [] :=
    fun _ => Chain.ne_nil_of_mem_dispatchable
  have ran := Chain.recorded_runCommands F (Chain.ofLine line).endsInBackground nonempty none none
  have fresh : Activity.Recorded (fun _ => True) ((Chain.ofLine line).run F) fun _ _ => True :=
    ran.consequence (fun _ _ _ no => nomatch no) fun _ _ => id
  unfold runLine
  split
  · exact Activity.recorded_pure fun _ => id
  · exact (fresh.mapError _).within _ _

theorem recorded_settle (line : String) (ending : Ending) :
    Activity.Recorded (fun _ => True) (settle line ending : Activity (Session σ) _ _)
      fun _ _ => True := by
  refine Activity.recorded_of_silent (fun s => ?_) fun s => ?_ <;>
    rw [settle_run] <;> cases ending <;> rfl

/-- A line is recorded after whatever was started before, and whether it fails or not. -/
theorem recorded_execute (F : Facility σ) (line : String) :
    Activity.Recorded (fun _ => True) (execute F line) fun _ _ => True := by
  intro s last _
  rw [execute_run]
  split
  · exact ⟨rfl, fun _ _ => trivial⟩
  · have parsed : Activity.Recorded (fun _ => True)
        (Activity.log (.parsed (Chain.ofLine line)) : Activity (Session σ) SessionError Unit)
        fun _ _ => True := Activity.recorded_of_silent (fun _ => rfl) fun _ => rfl
    have went : Activity.Recorded (fun _ => True) (proceed F line) fun _ _ => True :=
      parsed.bind fun _ => (recorded_runLine F line).bind fun ending =>
        (recorded_settle line ending).bind fun _ => Activity.recorded_pure fun _ => id
    exact went s last trivial

/-- If the readings of a source are recorded, so is the work on it. -/
theorem recorded_converse (F : Facility σ) {L : LineSource σ τ}
    (reading : ∀ prompt, Activity.Recorded (fun _ => True) (L.next prompt) fun _ _ => True)
    (start : Session σ × τ) (last : Option Handle) :
    (converse F L start).journal.Recorded last := by
  have read {prompt : String} {w w' : World σ} {input rest : τ} {j : Journal}
      {result : Except SessionError (Option String)}
      (told : L.next prompt (w, input) = ⟨result, (w', rest), j⟩) (last : Option Handle) :
      j.Recorded last := by
    have recorded := (reading prompt (w, input) last trivial).1
    rwa [told] at recorded
  have run {line : String} {s t : Session σ} {k : Journal} {result : Except SessionError Ending}
      (ran : execute F line s = ⟨result, t, k⟩) (last : Option Handle) : k.Recorded last := by
    have recorded := (recorded_execute F line s last trivial).1
    rwa [ran] at recorded
  obtain ⟨s, input⟩ := start
  refine converse_induction (motive := fun _ _ talk => ∀ last, talk.journal.Recorded last)
    ?_ ?_ ?_ ?_ ?_ s input last
  · intro s input _ last
    rfl
  · intro s input e w rest j _ told last
    exact read told last
  · intro s input w rest j _ told last
    exact (read told last).append rfl
  · intro s input line w rest j e t k _ told ran last
    exact (read told last).append (run ran _)
  · intro s input line w rest j how t k _ told ran more later last
    exact ((read told last).append (run ran _)).append (later _)

theorem recorded_perform (F : Facility σ) (step : Step) (s : Session σ) (last : Option Handle) :
    (step.perform F s).journal.Recorded last := by
  cases step with
  | line text => exact (recorded_execute F text s last trivial).1
  | stream input =>
    exact recorded_converse F
      (fun prompt => Prompted.source_beside.recorded (Prompted.recorded_next prompt)) _ last
  | listed input =>
    exact recorded_converse F (fun prompt => ListedLines.source_beside.recorded
      ((ListedLines.recorded_take prompt).within _ _)) _ last

/-- The steps of a session are recorded one after the other. -/
theorem recorded_series (F : Facility σ) (steps : List Step) (s : Session σ)
    (last : Option Handle) :
    Journal.Recorded last ((Activity.series (Step.perform F) steps s).flatMap Run.journal) := by
  induction steps generalizing s last with
  | nil => rfl
  | cons step rest ih => exact (recorded_perform F step s last).append (ih _ _)

/-- The log is a faithful record of the facility calls. Take any facility, any sink, however
it fails, and any lines and sources of lines one after the other. Leave out what is logged
about the session itself, which are the chains that were read, the exit and the end of the
input. What remains is exactly one record for each facility call, in the same order. It is the
one that `Call.record?` gives: a start that succeeds is logged with its program and the new
handle, a start that fails or breaks the facility with its program and the reason; and where
`h` is the child started last before a wait, so that `h` is awaited, the wait is logged as
the end of `h` if its answer names `h`, as the discarded end of another child if it names that,
and as given up with the reason if it fails. -/
theorem log_tells_calls (F : Facility σ) (s : Session σ) (steps : List Step) :
    let j : Journal := (Activity.series (Step.perform F) steps s).flatMap Run.journal
    let kept := j.records.filter fun r => !r.isRemark
    kept.length = j.calls.length ∧
    ∀ front call rest, j.calls = front ++ call :: rest →
      ∃ r, kept[front.length]? = some r ∧
        call.record? (front.filterMap Call.started?).getLast? = some r := by
  intro j kept
  have recorded : kept.map some = Call.told none j.calls := recorded_series F steps s none
  constructor
  · have lengths := congrArg List.length recorded
    rwa [List.length_map, Call.length_told] at lengths
  · intro front call rest calls
    have entry := Call.getElem?_told none front call rest
    rw [← calls, ← recorded, List.getElem?_map, Option.or_none] at entry
    obtain ⟨r, kept, word⟩ := Option.map_eq_some_iff.1 entry
    exact ⟨r, kept, word.symm⟩

end Session

end CommandChains
