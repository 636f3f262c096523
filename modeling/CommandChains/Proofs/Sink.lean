import CommandChains.Sink

/-!
# What a sink does

Saying something on a sink goes one of three ways: everything is accepted and
flushed, or only a part fits, or everything is accepted but the flush fails.

`Sink.Takes` says beforehand which of these it will be, by the room that is left and the
flush that is next. `Sink.Unfailing` describes the sinks that will never fail again.
Talking to one always succeeds and leaves it so.
-/

namespace CommandChains.Sink

/-- The sink once it has accepted what fits of some bytes. -/
def afterWrite (s : Sink) (bytes : Text.Bytes) : Sink :=
  { s with accepted := s.accepted + (s.fitting bytes).length }

/-- The sink once it has been asked to flush. -/
def afterFlush (s : Sink) : Sink :=
  { s with flushes := s.flushes + 1 }

/-- A sink with room for everything, none of whose flushes to come fails. -/
structure Unfailing (s : Sink) : Prop where
  room : s.limit = none
  flush : ∀ n, s.failingFlush = some n → n ≤ s.flushes

theorem unfailing_boundless : boundless.Unfailing :=
  ⟨rfl, fun _ h => nomatch h⟩

theorem Unfailing.afterWrite {s : Sink} (h : s.Unfailing) (bytes : Text.Bytes) :
    (s.afterWrite bytes).Unfailing :=
  ⟨h.room, h.flush⟩

theorem Unfailing.afterFlush {s : Sink} (h : s.Unfailing) : s.afterFlush.Unfailing :=
  ⟨h.room, fun n failing => Nat.le_succ_of_le (h.flush n failing)⟩

theorem Unfailing.fitting {s : Sink} (h : s.Unfailing) (bytes : Text.Bytes) :
    s.fitting bytes = bytes := by
  simp [Sink.fitting, h.room]

theorem fitting_isPrefix (s : Sink) (bytes : Text.Bytes) : s.fitting bytes <+: bytes := by
  unfold fitting
  split
  · exact List.prefix_refl bytes
  · exact List.take_prefix _ bytes

theorem fitting_eq_self_iff {s : Sink} {bytes : Text.Bytes} :
    s.fitting bytes = bytes ↔ ∀ limit ∈ s.limit, bytes.length ≤ limit - s.accepted := by
  unfold fitting
  cases s.limit with
  | none => simp
  | some limit =>
    simp only [Option.mem_def, Option.some.injEq, forall_eq']
    refine ⟨fun same => ?_, List.take_of_length_le⟩
    rw [← same, List.length_take]
    exact Nat.min_le_left _ _

theorem length_fitting_eq_iff (s : Sink) (bytes : Text.Bytes) :
    (s.fitting bytes).length = bytes.length ↔ s.fitting bytes = bytes :=
  ⟨(fitting_isPrefix s bytes).eq_of_length, congrArg List.length⟩

theorem write_run (s : Sink) (bytes : Text.Bytes) :
    write bytes s =
      ⟨if s.fitting bytes = bytes then .ok () else .error s.refusal, s.afterWrite bytes,
        [.wrote (s.fitting bytes)]⟩ := by
  simp only [write, length_fitting_eq_iff, afterWrite]

theorem flush_run (s : Sink) :
    flush s =
      if s.failingFlush = some (s.flushes + 1) then ⟨.error flushFailure, s.afterFlush, []⟩
      else ⟨.ok (), s.afterFlush, [.flushed]⟩ :=
  rfl

/-- Whether a sink has room for some bytes and its next flush works. -/
def Takes (s : Sink) (bytes : Text.Bytes) : Prop :=
  (∀ limit ∈ s.limit, bytes.length ≤ limit - s.accepted) ∧ s.failingFlush ≠ some (s.flushes + 1)

instance (s : Sink) (bytes : Text.Bytes) : Decidable (s.Takes bytes) :=
  inferInstanceAs (Decidable (_ ∧ _))

/-- The sink once it has taken some bytes and flushed them. -/
def afterTaking (s : Sink) (bytes : Text.Bytes) : Sink :=
  { s with accepted := s.accepted + bytes.length, flushes := s.flushes + 1 }

theorem Unfailing.takes {s : Sink} (h : s.Unfailing) (bytes : Text.Bytes) : s.Takes bytes := by
  refine ⟨by simp [h.room], fun failing => ?_⟩
  have := h.flush _ failing
  omega

theorem Unfailing.afterTaking {s : Sink} (h : s.Unfailing) (bytes : Text.Bytes) :
    (s.afterTaking bytes).Unfailing :=
  ⟨h.room, fun n failing => Nat.le_succ_of_le (h.flush n failing)⟩

section

variable {s : Sink} {text : String}

theorem say_of_takes (takes : s.Takes (Text.Utf8.encode text)) :
    say text s =
      ⟨.ok (), s.afterTaking (Text.Utf8.encode text),
        [.wrote (Text.Utf8.encode text), .flushed]⟩ := by
  have fits := fitting_eq_self_iff.2 takes.1
  have wrote := write_run s (Text.Utf8.encode text)
  rw [if_pos fits, fits] at wrote
  rw [say, Activity.bind_run_ok wrote, flush_run]
  simp [afterWrite, afterFlush, afterTaking, fits, takes.2]

/-- What does not fit is accepted as far as it goes, and what fits may still not be flushed. -/
theorem say_of_not_takes (not : ¬ s.Takes (Text.Utf8.encode text)) :
    ∃ e t, say text s = ⟨.error e, t, [.wrote (s.fitting (Text.Utf8.encode text))]⟩ := by
  have wrote := write_run s (Text.Utf8.encode text)
  by_cases fits : s.fitting (Text.Utf8.encode text) = Text.Utf8.encode text
  · have failing : s.failingFlush = some (s.flushes + 1) :=
      Classical.byContradiction fun works => not ⟨fitting_eq_self_iff.1 fits, works⟩
    rw [if_pos fits] at wrote
    rw [say, Activity.bind_run_ok wrote, flush_run]
    simp [afterWrite, failing]
  · rw [if_neg fits] at wrote
    exact ⟨_, _, Activity.bind_run_error wrote _⟩

theorem Unfailing.say (h : s.Unfailing) (text : String) :
    say text s =
      ⟨.ok (), s.afterTaking (Text.Utf8.encode text),
        [.wrote (Text.Utf8.encode text), .flushed]⟩ :=
  say_of_takes (h.takes _)

/-- The two ways in which saying something may go. -/
theorem say_cases (text : String) (s : Sink) :
    (∃ t, say text s =
      ⟨.ok (), t, [.wrote (Text.Utf8.encode text), .flushed]⟩) ∨
    ∃ e t, say text s = ⟨.error e, t, [.wrote (s.fitting (Text.Utf8.encode text))]⟩ := by
  by_cases takes : s.Takes (Text.Utf8.encode text)
  · exact .inl ⟨_, say_of_takes takes⟩
  · exact .inr (say_of_not_takes takes)

@[simp] theorem calls_say (text : String) (s : Sink) :
    (Sink.say text s).journal.calls = [] := by
  obtain ⟨t, said⟩ | ⟨e, t, said⟩ := say_cases text s <;> rw [said] <;> rfl

end

end CommandChains.Sink
