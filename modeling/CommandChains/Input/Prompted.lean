import CommandChains.Input.ByteSource
import CommandChains.Input.LineSource

/-!
# Prompted lines

Lines whose bytes are taken from somewhere. The prompt goes to the sink and is
flushed before any byte is asked for. A line that is not well-formed text does not
stop the session: its ill-formed parts are replaced.
-/

namespace CommandChains.Prompted

variable {τ : Type}

/-- Shows the prompt and reads a line, where `take` takes its bytes; none mean that
there are no more. -/
def nextFrom (take : Activity τ SystemError Text.Bytes) (prompt : String) :
    Activity (Sink × τ) SessionError (Option String) := do
  (LineSource.onSink (Sink.say prompt)).mapError .system
  let bytes ← (LineSource.onSource take).mapError .system
  if bytes.isEmpty then pure none else pure (some (Text.lineOf bytes))

/-- A line was read, so bytes were taken for it. -/
theorem taken_of_nextFrom {take : Activity τ SystemError Text.Bytes} {prompt line : String}
    {sink sink' : Sink} {t t' : τ} {j : Journal}
    (h : nextFrom take prompt (sink, t) = ⟨.ok (some line), (sink', t'), j⟩) :
    ∃ bytes k, bytes ≠ [] ∧ take t = ⟨.ok bytes, t', k⟩ := by
  cases said : Sink.say prompt sink with
  | mk r s k =>
  cases r with
  | error e =>
    rw [nextFrom, Activity.bind_run_error (e := .system e) (t := (s, t)) (j := k)
      (Activity.mapError_run_error (by simp [LineSource.onSink, Activity.within, said]) _)] at h
    simp at h
  | ok _ =>
    rw [nextFrom, Activity.bind_run_ok (x := ()) (t := (s, t)) (j := k)
      (Activity.mapError_run_ok (by simp [LineSource.onSink, Activity.within, said]) _)] at h
    cases taken : take t with
    | mk r u l =>
    cases r with
    | error e =>
      rw [Activity.bind_run_error (e := .system e) (t := (s, u)) (j := l)
        (Activity.mapError_run_error
          (by simp [LineSource.onSource, Activity.within, taken]) _)] at h
      simp at h
    | ok bytes =>
      rw [Activity.bind_run_ok (x := bytes) (t := (s, u)) (j := l)
        (Activity.mapError_run_ok (by simp [LineSource.onSource, Activity.within, taken]) _)] at h
      cases bytes with
      | nil => simp at h
      | cons b rest =>
        simp only [List.isEmpty_cons, Bool.false_eq_true, if_false, Activity.pure_run,
          Run.mk.injEq, Prod.mk.injEq] at h
        exact ⟨b :: rest, l, List.cons_ne_nil _ _, by rw [h.2.1.2]⟩

/-- Shows the prompt and reads a line of a byte source. -/
def next : String → Activity (Sink × ByteSource) SessionError (Option String) :=
  nextFrom ByteSource.takeLine

theorem length_lt_of_next {prompt line : String} {sink sink' : Sink} {b b' : ByteSource}
    {j : Journal} (h : next prompt (sink, b) = ⟨.ok (some line), (sink', b'), j⟩) :
    b'.unread.length < b.unread.length := by
  obtain ⟨bytes, k, some_, taken⟩ := taken_of_nextFrom h
  have unread := congrArg List.length (ByteSource.unread_of_takeLine taken)
  have := List.length_pos_iff.2 some_
  rw [List.length_append] at unread
  omega

def source {σ : Type} : LineSource σ ByteSource where
  next prompt := LineSource.besideFacility (next prompt)
  remaining b := b.unread.length
  remaining_lt h := length_lt_of_next (LineSource.of_besideFacility h)

end CommandChains.Prompted
