import Mathlib
import CommandChains.Facility.Scripted
import CommandChains.Proofs.Chain.Account
import CommandChains.Proofs.Flushing
import CommandChains.Proofs.Session.Source
import CommandChains.Proofs.Session.Execute
import CommandChains.SessionStep

/-!
# Sessions that flush before they block

A prompt is flushed before bytes are asked for, and a line begins with the name of a program,
which is flushed with everything that an earlier line may have left behind. So a session is
timely after any history, and a line that fails at the sink does no harm to the next one.
-/

namespace CommandChains

/-! ## Reading -/

theorem ByteSource.timely_takeLine :
    Activity.Timely Journal.Covered takeLine fun _ => Journal.Covered := by
  refine Activity.timely_of_passing fun s => ?_
  fun_induction takeLine s with
  | case1 => simp [Entry.isPassing]
  | case2 => simp [Entry.isPassing]
  | case3 => simp [Entry.isPassing]
  | case4 s piece asked line through some_ shorter rest ih => simpa [Entry.isPassing] using ih

/-- Whatever the bytes are taken from, if that only waits for what has been flushed. -/
theorem Prompted.timely_nextFrom {τ : Type} {take : Activity τ SystemError Text.Bytes}
    (timely : Activity.Timely Journal.Covered take fun _ => Journal.Covered) (prompt : String) :
    (nextFrom take prompt).TimelyAnywhere := by
  have reading : Activity.Timely (fun _ => True) (nextFrom take prompt) fun _ _ => True := by
    refine (((Sink.timely_say prompt).within _ _).mapError _).bind fun _ => ?_
    refine (((timely.within _ _).mapError _).consequence (fun _ holds => holds.1)
      fun _ _ => id).bind fun bytes => ?_
    split <;> exact Activity.timely_pure fun _ _ => trivial
  exact reading.anywhere

theorem ListedLines.timely_take (prompt : String) : (take prompt).TimelyAnywhere := by
  intro s h
  unfold take
  split <;> trivial

theorem LineSource.Beside.timely {σ τ : Type} {L : LineSource σ τ}
    {next : String → Activity (Sink × τ) SessionError (Option String)} (beside : L.Beside next)
    {prompt : String} (timely : (next prompt).TimelyAnywhere) :
    (L.next prompt).TimelyAnywhere := by
  rw [beside prompt]
  exact timely.within _ _

namespace Session

variable {σ τ : Type}

/-! ## Lines and sources -/

theorem timely_runLine (F : Facility σ) (line : String) : (runLine F line).TimelyAnywhere := by
  have nonempty : ∀ c ∈ (Chain.ofLine line).dispatchable, c.argv ≠ [] :=
    fun _ => Chain.ne_nil_of_mem_dispatchable
  have ran := Chain.timely_runCommands F (Chain.ofLine line).endsInBackground nonempty none none
  have fresh : Activity.Timely (fun _ => True) ((Chain.ofLine line).run F) fun _ _ => True :=
    ran.consequence (fun _ _ no => by simp at no) fun _ _ => id
  unfold runLine
  split
  · exact fun _ _ => trivial
  · exact ((fresh.mapError _).within _ _).anywhere

theorem timely_execute (F : Facility σ) (line : String) : (execute F line).TimelyAnywhere := by
  intro s h
  rw [execute_run]
  split
  · trivial
  · rcases performed : runLine F line s with ⟨result, t, j⟩
    have ran := (timely_runLine F line).journal performed
      (h ++ [.logged (.parsed (Chain.ofLine line))])
    cases result with
    | error e =>
      rw [proceed_of_error performed]
      exact ⟨.of_not_mayBlock rfl, ran⟩
    | ok ending =>
      rw [proceed_of_ok performed, List.cons_append]
      refine ⟨.of_not_mayBlock rfl, Journal.timely_append.2 ⟨ran, ?_⟩⟩
      cases ending with
      | exit => exact ⟨.of_not_mayBlock rfl, trivial⟩
      | completed => trivial

/-- If the readings of a source are timely after any history, so is the work on it. -/
theorem timely_converse (F : Facility σ) {L : LineSource σ τ}
    (reading : ∀ prompt, (L.next prompt).TimelyAnywhere) : (converse F L).TimelyAnywhere := by
  intro (s, input) h
  refine converse_induction (motive := fun _ _ run => ∀ h, Journal.Timely h run.journal)
    ?_ ?_ ?_ ?_ ?_ s input h
  · intro s input _ h
    trivial
  · intro s input e w rest j _ read h
    exact (reading _).journal read h
  · intro s input w rest j _ read h
    have first := (reading _).journal read h
    exact Journal.timely_append.2 ⟨first, .of_not_mayBlock rfl, trivial⟩
  · intro s input line w rest j e t k _ read ran h
    have first := (reading _).journal read h
    have second := (timely_execute F line).journal ran (h ++ j)
    exact Journal.timely_append.2 ⟨first, second⟩
  · intro s input line w rest j how t k _ read ran more later h
    have first := (reading _).journal read h
    have second := (timely_execute F line).journal ran (h ++ j)
    exact Journal.timely_append.2 ⟨Journal.timely_append.2 ⟨first, second⟩, later _⟩

theorem timely_perform (F : Facility σ) (step : Step) : (step.perform F).TimelyAnywhere := by
  intro s h
  cases step with
  | line text => exact timely_execute F text s h
  | stream input =>
    have reading (prompt : String) := Prompted.source_beside.timely (σ := σ)
      (Prompted.timely_nextFrom ByteSource.timely_takeLine prompt)
    exact timely_converse F reading (s, input) h
  | listed input =>
    have reading (prompt : String) := ListedLines.source_beside.timely (σ := σ)
      ((ListedLines.timely_take prompt).within _ _)
    exact timely_converse F reading (s, input) h

/-- A session never blocks on output that has not been flushed. Take any facility, any sink,
however full it may become and whichever flush of it fails, and any steps one after the
other, those after a failed one too. When the facility is called or bytes are asked for, the
last flush that succeeded found all bytes accepted so far. And when a command is started,
the bytes accepted so far end with its program and a newline. -/
theorem flushed_before_blocking (F : Facility σ) (s : Session σ) (steps : List Step)
    {front rest : Journal} {e : Entry}
    (cut : (Activity.series (Step.perform F) steps s).flatMap Run.journal = front ++ e :: rest) :
    (e.mayBlock = true → (front.flushMarks s.sink.accepted).getLast? =
      some (s.sink.accepted + front.output.length)) ∧
      ∀ argv answer, e = .spawned argv answer → front.Announced argv := by
  have timely := Activity.TimelyAnywhere.series (timely_perform F) steps s []
  rw [cut] at timely
  obtain ⟨covered, announced⟩ := timely.entry
  exact ⟨fun blocking => (covered blocking).flushMarks _, announced⟩

/-- The first flush of the sink fails, so the name of `a` is left unflushed and its line
fails. The next line flushes it with the name of `b` before `b` is started. -/
theorem flushed_after_failed_flush :
    let s : Session Scripted.State := { facility := {}, sink := { failingFlush := some 1 } }
    let runs := Activity.series (Step.perform (Scripted.facility {})) [.line "a", .line "b &"] s
    let front : Journal := [
      .logged (.parsed (Chain.ofLine "a")), .wrote (Text.Utf8.encode "a\n"),
      .logged (.parsed (Chain.ofLine "b &")), .wrote (Text.Utf8.encode "b\n"), .flushed]
    let start : Entry := .spawned ["b"] (.ok (.ofIndex 0))
    runs.flatMap Run.journal = front ++ start :: [.logged (.dispatched "b" (.ofIndex 0))] ∧
      (front.flushMarks 0).getLast? = some (Text.Utf8.encode "a\nb\n").length ∧
      front.Announced ["b"] := by
  intro s runs front start
  have cut : runs.flatMap Run.journal =
      front ++ start :: [.logged (.dispatched "b" (.ofIndex 0))] := by cbv
  obtain ⟨flushed, announced⟩ := flushed_before_blocking (Scripted.facility {}) s _ cut
  exact ⟨cut, (flushed rfl).trans (by cbv), announced _ _ rfl⟩

end Session

end CommandChains
