import CommandChains.Proofs.Activity
import CommandChains.Proofs.Comparison
import CommandChains.Proofs.Sink

/-!
# Journals told to a sink

What an activity has done can be told to a sink once more: the bytes that it wrote are
written, and where it flushed, the sink is flushed. `Sink.replay` does so up to the first
failure, and it keeps a journal of its own.

An unfailing sink takes the whole of any journal. Any other sink takes it up to one entry,
of which at most a part of the bytes is accepted (`Sink.replay_cases`). If flushes work,
the sink takes as many bytes as it has room for.
-/

namespace CommandChains

namespace Entry

/-- Does to a sink what an entry tells of. What is not done to a sink is only noted. -/
def replay : Entry → Activity Sink SystemError Unit
  | wrote bytes => Sink.write bytes
  | flushed => Sink.flush
  | e => Activity.note e

/-- An entry that is neither bytes nor a flush is told as it is. -/
theorem replay_of_unseen {e : Entry} (unseen : e.isOutward = false) (s : Sink) :
    e.replay s = ⟨.ok (), s, [e]⟩ := by
  cases e <;> first | rfl | cases unseen

/-- An entry is told in full, or the sink fails; then a part of its bytes at most is
accepted, and nobody is called. -/
theorem replay_cases (e : Entry) (s : Sink) :
    (∃ t, e.replay s = ⟨.ok (), t, [e]⟩) ∨
      ∃ x t cut, e.replay s = ⟨.error x, t, cut⟩ ∧ Journal.calls cut = [] ∧
        Journal.output cut <+: e.bytes := by
  cases e with
  | wrote bytes =>
    rw [replay, Sink.write_run]
    split
    · next fits => exact .inl ⟨_, by rw [fits]⟩
    · exact .inr ⟨_, _, _, rfl, rfl, by
        simpa [Journal.output, Entry.bytes] using s.fitting_isPrefix bytes⟩
  | flushed =>
    rw [replay, Sink.flush_run]
    split
    · exact .inr ⟨_, _, _, rfl, rfl, List.prefix_refl _⟩
    · exact .inl ⟨_, rfl⟩
  | _ => exact .inl ⟨s, rfl⟩

end Entry

namespace Sink

/-- Tells a journal to a sink, up to the first write or flush that fails. -/
def replay : Journal → Activity Sink SystemError Unit
  | [] => pure ()
  | e :: rest => do
    e.replay
    replay rest

theorem replay_append (a b : Journal) : replay (a ++ b) = replay a >>= fun _ => replay b := by
  induction a with
  | nil => rfl
  | cons e rest ih => simp only [List.cons_append, replay, ih, bind_assoc]

/-- A failure in the middle of a journal is the end of it. -/
theorem replay_append_of_error {a : Journal} {s t : Sink} {e : SystemError} {j : Journal}
    (told : replay a s = ⟨.error e, t, j⟩) (b : Journal) :
    replay (a ++ b) s = ⟨.error e, t, j⟩ := by
  rw [replay_append]
  exact Activity.bind_run_error told _

theorem replay_append_of_ok {a : Journal} {s t : Sink} {j : Journal}
    (told : replay a s = ⟨.ok (), t, j⟩) (b : Journal) :
    replay (a ++ b) s =
      ⟨(replay b t).result, (replay b t).state, j ++ (replay b t).journal⟩ := by
  rw [replay_append]
  exact Activity.bind_run_ok told _

/-- What cannot be seen outwardly makes no difference to a sink. -/
theorem replay_of_unseen {j : Journal} (unseen : j.outward = []) (s : Sink) :
    replay j s = ⟨.ok (), s, j⟩ := by
  induction j with
  | nil => rfl
  | cons e rest ih =>
    have none_ : ∀ e' ∈ e :: rest, ¬ e'.isOutward = true := List.filter_eq_nil_iff.1 unseen
    rw [List.forall_mem_cons] at none_
    have first := Entry.replay_of_unseen (Bool.eq_false_iff.2 none_.1) s
    rw [replay, Activity.bind_run_ok first, ih (List.filter_eq_nil_iff.2 none_.2)]
    rfl

theorem Unfailing.replay_entry {s : Sink} (h : s.Unfailing) (e : Entry) :
    ∃ t, t.Unfailing ∧ e.replay s = ⟨.ok (), t, [e]⟩ := by
  cases e with
  | wrote bytes =>
    refine ⟨s.afterWrite bytes, h.afterWrite bytes, ?_⟩
    rw [Entry.replay, write_run, h.fitting, if_pos rfl]
  | flushed =>
    refine ⟨s.afterFlush, h.afterFlush, ?_⟩
    rw [Entry.replay, flush_run, if_neg]
    intro failing
    have := h.flush _ failing
    omega
  | _ => exact ⟨s, h, rfl⟩

theorem Unfailing.replay {s : Sink} (h : s.Unfailing) (j : Journal) :
    ∃ t, t.Unfailing ∧ replay j s = ⟨.ok (), t, j⟩ := by
  induction j generalizing s with
  | nil => exact ⟨s, h, rfl⟩
  | cons e rest ih =>
    obtain ⟨t, unfailing, first⟩ := h.replay_entry e
    obtain ⟨u, after, second⟩ := ih unfailing
    refine ⟨u, after, ?_⟩
    rw [Sink.replay, Activity.bind_run_ok first, second]
    rfl

/-- A sink can be told the whole of a journal, or it fails at one entry. Then a part of the
bytes of that entry at most is accepted, and nothing behind it is told. -/
theorem replay_cases (j : Journal) (s : Sink) :
    (∃ t, replay j s = ⟨.ok (), t, j⟩) ∨
      ∃ front failed rest t u e cut, j = front ++ failed :: rest ∧
        replay front s = ⟨.ok (), t, front⟩ ∧ failed.replay t = ⟨.error e, u, cut⟩ ∧
        Journal.calls cut = [] ∧ Journal.output cut <+: failed.bytes ∧
        replay j s = ⟨.error e, u, front ++ cut⟩ := by
  induction j generalizing s with
  | nil => exact .inl ⟨s, rfl⟩
  | cons first rest ih =>
    obtain ⟨t, told⟩ | ⟨e, t, cut, told, silent, part⟩ := first.replay_cases s
    · obtain ⟨u, whole⟩ | ⟨front, failed, last, u, v, e, cut, rfl, before, fails, silent, part,
        after⟩ := ih t
      · refine .inl ⟨u, ?_⟩
        rw [replay, Activity.bind_run_ok told, whole]
        rfl
      · refine .inr ⟨first :: front, failed, last, u, v, e, cut, rfl, ?_, fails, silent, part, ?_⟩
        · rw [replay, Activity.bind_run_ok told, before]
          rfl
        · rw [replay, Activity.bind_run_ok told, after]
          rfl
    · exact .inr ⟨[], first, rest, s, t, e, cut, rfl, rfl, told, silent, part,
        Activity.bind_run_error told _⟩

/-- A sink is told no bytes and no facility calls beyond those of the journal. -/
theorem replay_isPrefix (j : Journal) (s : Sink) :
    (replay j s).journal.output <+: j.output ∧ (replay j s).journal.calls <+: j.calls := by
  obtain ⟨t, whole⟩ | ⟨front, failed, rest, t, u, e, cut, rfl, _, _, silent, part, told⟩ :=
    replay_cases j s
  · exact whole ▸ ⟨List.prefix_refl _, List.prefix_refl _⟩
  · rw [told]
    simp only [Journal.output_append, Journal.calls_append, silent, List.append_nil]
    refine ⟨(List.prefix_append_right_inj _).2 (part.trans ?_), List.prefix_append _ _⟩
    exact List.prefix_append _ (Journal.output rest)

/-! ## Room -/

/-- No flush that is asked for between two conditions of a sink fails. -/
def Flushing (before after : Sink) : Prop :=
  ∀ n, before.failingFlush = some n → n ≤ before.flushes ∨ after.flushes < n

theorem flushing_of_none {s t : Sink} (never : s.failingFlush = none) : s.Flushing t := by
  intro n failing
  rw [never] at failing
  cases failing

theorem flushes_le_replay_entry (e : Entry) (s : Sink) :
    s.flushes ≤ (e.replay s).state.flushes := by
  cases e with
  | flushed =>
    rw [Entry.replay, flush_run]
    split <;> exact Nat.le_succ _
  | _ => exact Nat.le_refl _

/-- What a sink is told after an entry takes no flushes back. -/
theorem flushes_le_replay_cons (e : Entry) (j : Journal) (s : Sink) :
    (e.replay s).state.flushes ≤ (replay (e :: j) s).state.flushes := by
  induction j generalizing e s with
  | nil => rcases told : e.replay s with ⟨_ | _, _, _⟩ <;> simp [replay, Activity.bind_run, told]
  | cons next rest ih =>
    rcases told : e.replay s with ⟨result, t, k⟩
    cases result with
    | error x =>
      exact Nat.le_of_eq (by rw [replay, Activity.bind_run_error told])
    | ok _ =>
      rw [replay, Activity.bind_run_ok told]
      exact Nat.le_trans (flushes_le_replay_entry next t) (ih next t)

section

variable {s : Sink} {e : Entry} {room : Nat}

theorem fitting_of_room (limited : s.limit = some (s.accepted + room)) (bytes : Text.Bytes) :
    s.fitting bytes = bytes.take room := by
  simp [fitting, limited]

/-- As long as flushes work, a sink takes an entry if it has room for its bytes, and has
that much less room afterwards. -/
theorem replay_entry_of_room (limited : s.limit = some (s.accepted + room))
    (flushing : s.Flushing (e.replay s).state) (fits : e.bytes.length ≤ room) :
    ∃ t, e.replay s = ⟨.ok (), t, [e]⟩ ∧ t.refusal = s.refusal ∧
      t.limit = some (t.accepted + (room - e.bytes.length)) ∧
      t.failingFlush = s.failingFlush ∧ s.flushes ≤ t.flushes := by
  have less : s.accepted + room = s.accepted + e.bytes.length + (room - e.bytes.length) := by
    omega
  cases e with
  | wrote bytes =>
    have fitting : s.fitting bytes = bytes :=
      (fitting_of_room limited bytes).trans (List.take_of_length_le fits)
    refine ⟨s.afterWrite bytes, ?_, rfl, ?_, rfl, Nat.le_refl _⟩
    · rw [Entry.replay, write_run, if_pos fitting, fitting]
    · rw [afterWrite, fitting]
      exact limited.trans (congrArg some less)
  | flushed =>
    refine ⟨s.afterFlush, ?_, rfl, limited, rfl, Nat.le_succ _⟩
    rw [Entry.replay, flush_run] at flushing ⊢
    split at flushing
    · next failing =>
      have := flushing _ failing
      simp only [afterFlush] at this
      omega
    · next works => rw [if_neg works]
  | _ => exact ⟨s, rfl, rfl, limited, rfl, Nat.le_refl _⟩

/-- A sink takes as many bytes of an entry as it has room for, and fails if there are more. -/
theorem replay_entry_of_full (limited : s.limit = some (s.accepted + room))
    (full : room < e.bytes.length) :
    ∃ t, e.replay s = ⟨.error s.refusal, t, [.wrote (e.bytes.take room)]⟩ := by
  cases e with
  | wrote bytes =>
    refine ⟨s.afterWrite bytes, ?_⟩
    rw [Entry.replay, write_run, fitting_of_room limited, if_neg]
    · rfl
    intro whole
    have := congrArg List.length whole
    rw [List.length_take] at this
    simp only [Entry.bytes] at full
    omega
  | _ => exact absurd full (Nat.not_lt_zero _)

/-- As long as flushes work, a sink takes the bytes of a journal that it has room for, and
it fails just if these are not all. -/
theorem replay_of_room (limited : s.limit = some (s.accepted + room)) (j : Journal)
    (flushing : s.Flushing (replay j s).state) :
    (replay j s).journal.output = j.output.take room ∧
      (replay j s).result = if j.output.length ≤ room then .ok () else .error s.refusal := by
  induction j generalizing s room with
  | nil => simp [replay, Journal.output]
  | cons e rest ih =>
    have output : Journal.output (e :: rest) = e.bytes ++ Journal.output rest := rfl
    rw [output, List.length_append, List.take_append]
    by_cases fits : e.bytes.length ≤ room
    · have first : s.Flushing (e.replay s).state := fun n failing =>
        (flushing n failing).imp_right (Nat.lt_of_le_of_lt (flushes_le_replay_cons e rest s))
      obtain ⟨t, told, refusal, left, failing, le⟩ := replay_entry_of_room limited first fits
      rw [replay, Activity.bind_run_ok told] at flushing ⊢
      have onward : t.Flushing (replay rest t).state := fun n fails =>
        (flushing n (failing ▸ fails)).imp_left fun earlier => Nat.le_trans earlier le
      obtain ⟨outputs, result⟩ := ih left onward
      refine ⟨?_, ?_⟩
      · rw [Journal.output_append, outputs, List.take_of_length_le fits]
        simp [Journal.output]
      · rw [result, refusal]
        congr 1
        exact propext (by omega)
    · obtain ⟨t, told⟩ := replay_entry_of_full limited (Nat.lt_of_not_le fits)
      rw [replay, Activity.bind_run_error told, if_neg (by omega),
        Nat.sub_eq_zero_of_le (Nat.le_of_not_le fits), List.take_zero, List.append_nil]
      exact ⟨List.append_nil _, rfl⟩

end

end Sink

end CommandChains
