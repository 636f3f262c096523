import CommandChains.Proofs.Facility.Scripted
import CommandChains.Proofs.Session.Execute
import CommandChains.Proofs.Session.Source
import CommandChains.SessionStep

/-!
# What a session asks of its facility

The journal of a session tells all that its facility was asked, whether lines are given
one by one or read from a source. This holds for sources that leave the facility alone,
as prompted and listed lines do. Hence whatever every facility call keeps, a session of
any length keeps.
-/

namespace CommandChains

variable {σ τ : Type} {F : Facility σ}

namespace LineSource

theorem Beside.faithful {next : String → Activity (Sink × τ) SessionError (Option String)}
    {L : LineSource σ τ} (beside : L.Beside next) (silent : ∀ prompt, (next prompt).Silent)
    (prompt : String) : (L.next prompt).Faithful F fun s => s.1.facility := by
  rw [beside prompt]
  exact .of_apart ((silent prompt).within _ _) fun _ => rfl

end LineSource

namespace Session

theorem faithful_settle (line : String) (ending : Ending) :
    (settle line ending : Activity (Session σ) _ _).Faithful F fun s => s.facility := by
  refine .of_apart (fun s => ?_) fun s => ?_ <;> rw [settle_run]
  · cases ending <;> rfl
  · cases ending with
    | exit => rfl
    | completed => dsimp only; split <;> rfl

theorem faithful_runLine (F : Facility σ) (line : String) :
    (runLine F line).Faithful F fun s => s.facility := by
  unfold runLine
  split
  · exact Activity.faithful_pure _
  · exact ((Chain.faithful_run _).mapError _).within (fun _ => rfl) fun _ _ => rfl

theorem faithful_proceed (F : Facility σ) (line : String) :
    (proceed F line).Faithful F fun s => s.facility := by
  refine (Activity.faithful_log _).bind fun _ => (faithful_runLine F line).bind fun ending => ?_
  exact (faithful_settle line ending).bind fun _ => Activity.faithful_pure _

theorem faithful_execute (F : Facility σ) (line : String) :
    (execute F line).Faithful F fun s => s.facility := by
  intro s
  rw [execute_run]
  split
  · exact .nil _
  · exact faithful_proceed F line s

/-- A source that leaves the facility alone makes no difference to what the journal
tells. -/
theorem faithful_converse (F : Facility σ) (L : LineSource σ τ)
    (reading : ∀ prompt, (L.next prompt).Faithful F fun s => s.1.facility) :
    (converse F L).Faithful F fun s => s.1.facility := by
  rintro ⟨s, input⟩
  refine converse_induction (motive := fun s _ run =>
    F.Trace s.facility run.journal.calls run.state.1.facility) ?_ ?_ ?_ ?_ ?_ s input
  · intro s input _
    exact .nil _
  · intro s input e w rest j _ read
    exact (reading s.prompt).trace read
  · intro s input w rest j _ read
    rw [Journal.calls_append]
    exact ((reading s.prompt).trace read).append (.nil _)
  · intro s input line w rest j e t k _ read ran
    rw [Journal.calls_append]
    exact ((reading s.prompt).trace read).append ((faithful_execute F line).trace ran)
  · intro s input line w rest j how t k _ read ran more later
    rw [Journal.calls_append, Journal.calls_append]
    have first := (reading s.prompt).trace read
    exact (first.append ((faithful_execute F line).trace ran)).append later

theorem faithful_perform (F : Facility σ) (step : Step) :
    (step.perform F).Faithful F fun s => s.facility := by
  intro s
  cases step with
  | line text => exact faithful_execute F text s
  | stream input =>
    exact faithful_converse F Prompted.source
      (Prompted.source_beside.faithful Prompted.silent_next) (s, input)
  | listed input =>
    exact faithful_converse F ListedLines.source
      (ListedLines.source_beside.faithful fun prompt => (ListedLines.silent_take prompt).within _ _)
      (s, input)

end Session

end CommandChains
