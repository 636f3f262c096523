import CommandChains.Input.LineSource
import CommandChains.Input.Prompted
import CommandChains.Proofs.Sink

/-!
# Sources beside a facility

Prompted lines and listed lines are read without the facility: neither does reading change
it, nor does what is read depend on it. So one way of reading serves every facility.
-/

namespace CommandChains

variable {σ τ : Type}

namespace Activity

variable {S T ε ε' α β : Type}

/-- An activity that makes no facility call. -/
def Silent (a : Activity S ε α) : Prop :=
  ∀ s, (a s).journal.calls = []

theorem silent_pure (x : α) : (pure x : Activity S ε α).Silent :=
  fun _ => rfl

theorem Silent.bind {a : Activity S ε α} {f : α → Activity S ε β} (first : a.Silent)
    (second : ∀ x, (f x).Silent) : (a >>= f).Silent := by
  intro s
  have start := first s
  rcases performed : a s with ⟨result, t, j⟩
  rw [performed] at start
  cases result with
  | error e =>
    rw [bind_run_error performed]
    exact start
  | ok x =>
    rw [bind_run_ok performed, Journal.calls_append]
    exact List.append_eq_nil_iff.2 ⟨start, second x t⟩

theorem Silent.mapError {a : Activity S ε α} (h : a.Silent) (f : ε → ε') :
    (a.mapError f).Silent :=
  h

theorem Silent.within {a : Activity T ε α} (h : a.Silent) (part : S → T)
    (replace : T → S → S) : (a.within part replace).Silent :=
  fun s => h (part s)

end Activity

theorem ByteSource.silent_takeLine : takeLine.Silent := by
  intro s
  fun_induction takeLine s with
  | case1 => rfl
  | case2 => rfl
  | case3 => rfl
  | case4 s piece asked line through some_ shorter rest ih => exact ih

theorem Prompted.silent_next (prompt : String) : (next prompt).Silent := by
  have said : (Sink.say prompt).Silent := Sink.calls_say prompt
  refine ((said.within _ _).mapError _).bind fun _ => ?_
  refine ((ByteSource.silent_takeLine.within _ _).mapError _).bind fun bytes => ?_
  split <;> exact Activity.silent_pure _

theorem ListedLines.silent_take (prompt : String) : (take prompt).Silent := by
  intro s
  unfold take
  split <;> rfl

namespace LineSource

/-- A source that reads its lines in a given way and has no part in the facility. -/
def Beside (next : String → Activity (Sink × τ) SessionError (Option String))
    (L : LineSource σ τ) : Prop :=
  ∀ prompt, L.next prompt = besideFacility (next prompt)

theorem Beside.next_run {next : String → Activity (Sink × τ) SessionError (Option String)}
    {L : LineSource σ τ} (beside : L.Beside next) {prompt : String} {w : World σ} {input : τ}
    {result : Except SessionError (Option String)} {sink : Sink} {rest : τ} {j : Journal}
    (told : next prompt (w.sink, input) = ⟨result, (sink, rest), j⟩) :
    L.next prompt (w, input) = ⟨result, ({ w with sink }, rest), j⟩ := by
  rw [beside prompt, besideFacility, Activity.within, told]

/-- What such a source does is done to sink and input, and the facility stays as it was. -/
theorem Beside.of_next {next : String → Activity (Sink × τ) SessionError (Option String)}
    {L : LineSource σ τ} (beside : L.Beside next) {prompt : String} {w v : World σ}
    {input rest : τ} {result : Except SessionError (Option String)} {j : Journal}
    (read : L.next prompt (w, input) = ⟨result, (v, rest), j⟩) :
    next prompt (w.sink, input) = ⟨result, (v.sink, rest), j⟩ ∧ v.facility = w.facility := by
  rw [beside prompt] at read
  refine ⟨of_besideFacility read, ?_⟩
  simp only [besideFacility, Activity.within, Run.mk.injEq, Prod.mk.injEq] at read
  rw [← read.2.1.1]

end LineSource

theorem Prompted.source_beside : (source (σ := σ)).Beside next :=
  fun _ => rfl

theorem ListedLines.source_beside :
    (source (σ := σ)).Beside fun prompt => LineSource.onSource (take prompt) :=
  fun _ => rfl

end CommandChains
