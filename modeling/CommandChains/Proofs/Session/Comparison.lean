import CommandChains.Proofs.Chain.Comparison
import CommandChains.Proofs.Facility.Scripted
import CommandChains.Proofs.Session.Execute
import CommandChains.Proofs.Session.Source
import CommandChains.SessionStep

/-!
# Two sessions side by side

If two facilities compare, sessions on them that have come equally far stay together: their
lines compare, and so does reading from sources that give the same lines and whose prompts go
to their sinks.

So a session does the same outwardly on facilities that start alike, whether lines are given
one by one or read from a source beside the facility. For scripted facilities this means
that neither the order in which children end nor any answer set in advance for a wait can
be told from the outside.
-/

namespace CommandChains

variable {σ σ' τ τ' : Type} {K : Sink → Sink → Prop} {R : σ → σ' → Prop} {I : τ → τ' → Prop}
variable {J : Journal → Journal → Prop} {F : Facility σ} {F' : Facility σ'}

/-- Related states, each with an input, which are related too. -/
def WithInput {S S' : Type} (Q : S → S' → Prop) (I : τ → τ' → Prop) (s : S × τ) (s' : S' × τ') :
    Prop :=
  Q s.1 s'.1 ∧ I s.2 s'.2

/-! ## Reading -/

theorem LineSource.Beside.related {L : LineSource σ τ} {L' : LineSource σ' τ'}
    {next : String → Activity (Sink × τ) SessionError (Option String)}
    {next' : String → Activity (Sink × τ') SessionError (Option String)} (beside : L.Beside next)
    (beside' : L'.Beside next') {prompt : String}
    (reading : Activity.Related (WithInput K I) J (next prompt) (next' prompt)) :
    Activity.Related (WithInput (World.Beside K R) I) J (L.next prompt) (L'.next prompt) := by
  rw [beside prompt, beside' prompt]
  refine reading.within (fun _ _ related => ⟨related.1.sink, related.2⟩) ?_
  exact fun _ _ _ _ before after => ⟨⟨after.1, before.1.facility⟩, after.2⟩

theorem LineSource.related_onSource {ε α : Type} {take : Activity τ ε α} {take' : Activity τ' ε α}
    (taking : Activity.Related I J take take') :
    Activity.Related (WithInput K I) J (onSource take) (onSource take') :=
  taking.within (fun _ _ related => related.2) fun _ _ _ _ before after => ⟨before.1, after⟩

theorem Prompted.related_nextFrom (congruence : Journal.Congruence J)
    (say : ∀ text, Activity.Related K J (Sink.say text) (Sink.say text))
    {take : Activity τ SystemError Text.Bytes} {take' : Activity τ' SystemError Text.Bytes}
    (taking : Activity.Related I J take take') (prompt : String) :
    Activity.Related (WithInput K I) J (nextFrom take prompt) (nextFrom take' prompt) := by
  have said : Activity.Related (WithInput K I) J (LineSource.onSink (Sink.say prompt))
      (LineSource.onSink (Sink.say prompt)) :=
    (say prompt).within (fun _ _ related => related.1)
      fun _ _ _ _ before after => ⟨after, before.2⟩
  refine (said.mapError _).bind congruence fun _ => ?_
  refine ((LineSource.related_onSource taking).mapError _).bind congruence fun bytes => ?_
  split <;> exact Activity.related_pure congruence _

namespace Session

/-- Sessions that have come equally far, on related sinks and facilities. -/
structure Beside (K : Sink → Sink → Prop) (R : σ → σ' → Prop) (s : Session σ) (s' : Session σ') :
    Prop extends World.Beside K R s.toWorld s'.toWorld where
  counter : s.counter = s'.counter
  terminated : s.terminated = s'.terminated

/-! ## Lines -/

theorem related_settle (congruence : Journal.Congruence J) (line : String) (ending : Ending) :
    Activity.Related (Beside K R) J (settle line ending) (settle line ending) := by
  intro s s' related
  rw [settle_run, settle_run]
  cases ending with
  | exit =>
    refine ⟨rfl, ⟨related.toBeside, related.counter, rfl⟩, ?_⟩
    rw [related.counter]
    exact congruence.refl _
  | completed =>
    refine ⟨rfl, ?_, congruence.refl _⟩
    dsimp only
    split
    · exact related
    · exact ⟨related.toBeside, congrArg (· + 1) related.counter, related.terminated⟩

theorem related_runLine (comparable : F.Comparable K R J F') (line : String) :
    Activity.Related (Beside K R) J (runLine F line) (runLine F' line) := by
  unfold runLine
  split
  · exact Activity.related_pure comparable.congruence _
  · refine ((Chain.related_run comparable _).mapError _).within
      (fun _ _ related => related.toBeside) ?_
    intro s s' w w' related after
    exact ⟨after, related.counter, related.terminated⟩

theorem related_proceed (comparable : F.Comparable K R J F') (line : String) :
    Activity.Related (Beside K R) J (proceed F line) (proceed F' line) := by
  have congruence := comparable.congruence
  refine (Activity.related_log congruence _).bind congruence fun _ => ?_
  refine (related_runLine comparable line).bind congruence fun ending => ?_
  exact (related_settle congruence line ending).bind congruence fun _ =>
    Activity.related_pure congruence _

theorem related_execute (comparable : F.Comparable K R J F') (line : String) :
    Activity.Related (Beside K R) J (execute F line) (execute F' line) := by
  intro s s' related
  rw [execute_run, execute_run, ← related.terminated]
  split
  · exact ⟨rfl, related, comparable.congruence.refl _⟩
  · exact related_proceed comparable line s s' related

/-! ## Sources and steps -/

/-- Sources that give the same lines keep sessions together. -/
theorem related_converse (comparable : F.Comparable K R J F') {L : LineSource σ τ}
    {L' : LineSource σ' τ'}
    (reading : ∀ prompt, Activity.Related (WithInput (World.Beside K R) I) J (L.next prompt)
      (L'.next prompt)) :
    Activity.Related (WithInput (Beside K R) I) J (converse F L) (converse F' L') := by
  rintro ⟨s, input⟩ ⟨s', input'⟩ ⟨related, inputs⟩
  have congruence := comparable.congruence
  -- What is read on the one side is read on the other, and the sessions still go together.
  have reads {s : Session σ} {s' : Session σ'} {input rest : τ} {input' : τ'} {w : World σ}
      {j : Journal} {result : Except SessionError (Option String)} (related : Beside K R s s')
      (inputs : I input input')
      (read : L.next s.prompt (s.toWorld, input) = ⟨result, (w, rest), j⟩) :
      ∃ w' rest' j', L'.next s'.prompt (s'.toWorld, input') = ⟨result, (w', rest'), j'⟩ ∧
        I rest rest' ∧ J j j' ∧ Beside K R { s with toWorld := w } { s' with toWorld := w' } := by
    have start : WithInput (World.Beside K R) I (s.toWorld, input) (s'.toWorld, input') :=
      ⟨related.toBeside, inputs⟩
    have prompt : s.prompt = s'.prompt := by rw [Session.prompt, Session.prompt, related.counter]
    obtain ⟨⟨w', rest'⟩, j', read', ⟨world, left⟩, journal⟩ := (reading _).performed start read
    exact ⟨w', rest', j', prompt ▸ read', left, journal, world, related.counter, related.terminated⟩
  refine converse_induction
    (motive := fun s input run => ∀ s' input', Beside K R s s' → I input input' →
      run.Related (WithInput (Beside K R) I) J (converse F' L' (s', input')))
    ?_ ?_ ?_ ?_ ?_ s input s' input' related inputs
  · intro s input ended s' input' related inputs
    rw [converse_of_terminated (related.terminated ▸ ended)]
    exact ⟨rfl, ⟨related, inputs⟩, congruence.refl _⟩
  · intro s input e w rest j going read s' input' related inputs
    obtain ⟨w', rest', j', read', left, journal, after⟩ := reads related inputs read
    rw [converse_of_error (related.terminated ▸ going) read']
    exact ⟨rfl, ⟨after, left⟩, journal⟩
  · intro s input w rest j going read s' input' related inputs
    obtain ⟨w', rest', j', read', left, journal, after⟩ := reads related inputs read
    rw [converse_of_end (related.terminated ▸ going) read']
    exact ⟨rfl, ⟨after, left⟩, congruence.append journal (congruence.refl _)⟩
  · intro s input line w rest j e t k going read ran s' input' related inputs
    obtain ⟨w', rest', j', read', left, journal, between⟩ := reads related inputs read
    obtain ⟨t', k', ran', after, more⟩ := (related_execute comparable line).performed between ran
    rw [converse_of_line_error (related.terminated ▸ going) read' ran']
    exact ⟨rfl, ⟨after, left⟩, congruence.append journal more⟩
  · intro s input line w rest j how t k going read ran talk ih s' input' related inputs
    obtain ⟨w', rest', j', read', left, journal, between⟩ := reads related inputs read
    obtain ⟨t', k', ran', after, more⟩ := (related_execute comparable line).performed between ran
    rw [converse_of_line (related.terminated ▸ going) read' ran']
    have later := ih t' rest' after left
    exact ⟨later.result, later.state,
      congruence.append (congruence.append journal more) later.journal⟩

/-- Whatever is asked of the sessions, they stay together. -/
theorem related_perform (comparable : F.Comparable K R J F') (step : Step) :
    Activity.Related (Beside K R) J (step.perform F) (step.perform F') := by
  have congruence := comparable.congruence
  intro s s' related
  cases step with
  | line text =>
    have ran := related_execute comparable text s s' related
    refine ⟨?_, ran.state, ran.journal⟩
    simp only [Step.perform, ran.result]
  | stream input =>
    have taking := Activity.related_self congruence ByteSource.takeLine
    have reading (prompt : String) := Prompted.source_beside.related (R := R)
      Prompted.source_beside (Prompted.related_nextFrom congruence comparable.say taking prompt)
    have ran := related_converse comparable reading (s, input) (s', input) ⟨related, rfl⟩
    refine ⟨?_, ran.state.1, ran.journal⟩
    simp only [Step.perform, ran.result, ran.state.2]
  | listed input =>
    have taking (prompt : String) := Activity.related_self congruence (ListedLines.take prompt)
    have reading (prompt : String) := ListedLines.source_beside.related (K := K) (R := R)
      ListedLines.source_beside (LineSource.related_onSource (taking prompt))
    have ran := related_converse comparable reading (s, input) (s', input) ⟨related, rfl⟩
    refine ⟨?_, ran.state.1, ran.journal⟩
    simp only [Step.perform, ran.result, ran.state.2]

end Session

/-! ## Scripted facilities -/

namespace Scripted

/-- Two scripted facilities whose plans differ only in the answers set for waits start
alike as long as they have started the same children. -/
theorem alike_of_waits (p : Plan) (waits : List (Nat × WaitAnswer)) :
    (facility p).Alike (facility { p with waits }) fun s s' => s.started = s'.started where
  answer {s s'} argv same := by
    have refusal : Plan.refusal? { p with waits } argv = p.refusal? argv := rfl
    simp only [facility, spawn_eq, refusal]
    cases p.refusal? argv with
    | some e => rfl
    | none => exact congrArg (fun n => Except.ok (p.handle n)) (congrArg List.length same)
  spawn {s s'} argv same := by
    have refusal : Plan.refusal? { p with waits } argv = p.refusal? argv := rfl
    simp only [facility, spawn_eq, refusal]
    cases p.refusal? argv with
    | some e => exact same
    | none =>
      have handle : Plan.handle { p with waits } = p.handle := rfl
      simp [State.start, same, handle]
  waitLeft {s s'} same := (started_waitAny p s).trans same
  waitRight {s s'} same := same.trans (started_waitAny { p with waits } s').symm

end Scripted

namespace Session

open Scripted

/-- What a step of a session on a scripted facility shows to somebody who is told
neither of waits nor of records. -/
structure Shown where
  /-- What has come of the step, and what is left of it. -/
  report : Except Empty Report
  sink : Sink
  counter : Nat
  terminated : Bool
  /-- All children started so far, with their handles. -/
  started : List Child
  /-- What was written, flushed, fetched and started, in order. -/
  outward : Journal

def shown (r : Run (Session State) Empty Report) : Shown :=
  ⟨r.result, r.state.sink, r.state.counter, r.state.terminated, r.state.facility.started,
    r.journal.outward⟩

theorem shown_of_related {r r' : Run (Session State) Empty Report}
    (h : r.Related (Beside Eq fun s s' => s.started = s'.started) Journal.SameOutward r') :
    shown r = shown r' := by
  have outward : r.journal.outward = r'.journal.outward := h.journal
  simp only [shown, h.result, h.state.sink, h.state.counter, h.state.terminated,
    h.state.facility, outward]

/-- Nothing about waits can be told from the outside. Let a plan have other answers set
for its waits, and let the children be in any other condition, outstanding or reaped and
due to end in any order, but the same ones have been started. Then any steps show the
same, one by one. -/
theorem shown_of_waits (p : Plan) (waits : List (Nat × WaitAnswer)) (s : Session State)
    (t : State) (steps : List Step) :
    (Activity.series (Step.perform (facility p)) steps s).map shown =
      (Activity.series (Step.perform (facility { p with waits })) steps
        { s with facility := { t with started := s.facility.started } }).map shown :=
  Activity.Related.map_series_eq (related_perform (alike_of_waits p waits).comparable)
    shown_of_related steps ⟨⟨rfl, rfl⟩, rfl, rfl⟩

end Session

end CommandChains
