import CommandChains.Input.ByteSource
import CommandChains.Proofs.Session.Source

/-!
# The lines of a byte source

A byte source hands out its bytes in pieces, but the lines that are taken from it are
those of the bytes themselves: `ByteSource.takeLine_run` tells what is taken without
a word about pieces. A line ends behind the first newline among the bytes that can still be
had; if there is none, the source fails or the last bytes are taken.

`Text.cutBytes` cuts bytes into their lines. The lines of a source that does not fail are
these, one after the other.
-/

namespace CommandChains

namespace Text

/-- The bytes through the first newline; without a newline, all. -/
def throughNewline : Bytes → Bytes
  | [] => []
  | b :: rest => if b = newlineByte then [b] else b :: throughNewline rest

/-- Bytes cut after every newline; a newline at the very end starts no further line. -/
def cutBytes : Bytes → List Bytes
  | [] => []
  | b :: rest =>
    if b = newlineByte then [b] :: cutBytes rest
    else match cutBytes rest with
      | [] => [[b]]
      | line :: others => (b :: line) :: others

theorem throughNewline_isPrefix (bytes : Bytes) : throughNewline bytes <+: bytes := by
  induction bytes with
  | nil => exact List.prefix_refl _
  | cons b rest ih =>
    rw [throughNewline]
    split
    · exact ⟨rest, rfl⟩
    · exact (List.prefix_cons_inj b).2 ih

theorem throughNewline_ne_nil {bytes : Bytes} (some_ : bytes ≠ []) :
    throughNewline bytes ≠ [] := by
  cases bytes with
  | nil => exact absurd rfl some_
  | cons b rest =>
    rw [throughNewline]
    split <;> exact List.cons_ne_nil _ _

/-- Bytes without a newline are passed over. -/
theorem throughNewline_append {a : Bytes} (inside : newlineByte ∉ a) (b : Bytes) :
    throughNewline (a ++ b) = a ++ throughNewline b := by
  induction a with
  | nil => rfl
  | cons c rest ih =>
    rw [List.mem_cons, not_or] at inside
    rw [List.cons_append, throughNewline, if_neg (Ne.symm inside.1), ih inside.2,
      List.cons_append]

/-- Nothing behind the first newline counts. -/
theorem throughNewline_append_newline {a : Bytes} (inside : newlineByte ∉ a) (b : Bytes) :
    throughNewline (a ++ newlineByte :: b) = a ++ [newlineByte] := by
  rw [throughNewline_append inside, throughNewline, if_pos rfl]

/-- The first line goes through the first newline, and the others are the lines of what
stands behind it. -/
theorem cutBytes_of_ne_nil {bytes : Bytes} (some_ : bytes ≠ []) :
    cutBytes bytes =
      throughNewline bytes :: cutBytes (bytes.drop (throughNewline bytes).length) := by
  induction bytes with
  | nil => exact absurd rfl some_
  | cons b rest ih =>
    rw [cutBytes, throughNewline]
    split
    · rfl
    · cases rest with
      | nil => rfl
      | cons c more => rw [ih (List.cons_ne_nil c more)]; rfl

theorem cutBytes_append_newline {a : Bytes} (inside : newlineByte ∉ a) (b : Bytes) :
    cutBytes (a ++ newlineByte :: b) = (a ++ [newlineByte]) :: cutBytes b := by
  have some_ : a ++ newlineByte :: b ≠ [] :=
    List.append_ne_nil_of_right_ne_nil _ (List.cons_ne_nil _ _)
  have cut : a ++ newlineByte :: b = (a ++ [newlineByte]) ++ b := List.append_cons ..
  rw [cutBytes_of_ne_nil some_, throughNewline_append_newline inside, cut, List.drop_left]

/-- Bytes without a newline are one line, if there are any. -/
theorem cutBytes_of_notMem {bytes : Bytes} (inside : newlineByte ∉ bytes) (some_ : bytes ≠ []) :
    cutBytes bytes = [bytes] := by
  have line := throughNewline_append inside []
  rw [List.append_nil, throughNewline, List.append_nil] at line
  rw [cutBytes_of_ne_nil some_, line, List.drop_length]
  rfl

theorem cutBytes_eq_nil_iff {bytes : Bytes} : cutBytes bytes = [] ↔ bytes = [] := by
  refine ⟨fun none_ => ?_, fun none_ => none_ ▸ rfl⟩
  refine Decidable.by_contra fun some_ => ?_
  rw [cutBytes_of_ne_nil some_] at none_
  cases none_

/-- Cutting bytes into lines loses nothing. -/
theorem flatten_cutBytes (bytes : Bytes) : (cutBytes bytes).flatten = bytes := by
  induction bytes with
  | nil => rfl
  | cons b rest ih =>
    rw [cutBytes]
    split
    · rw [List.flatten_cons, ih]; rfl
    · cases cut : cutBytes rest with
      | nil => rw [cut] at ih; simp [← ih]
      | cons line others => rw [cut] at ih; simp [← ih]

end Text

namespace ByteSource

/-- The bytes that are handed out before a request fails. -/
def reach (s : ByteSource) : Text.Bytes :=
  match s.failingAt with
  | none => s.unread
  | some n => s.unread.take (n - s.consumed)

/-- Whether a request fails behind the bytes that are handed out. -/
def fails (s : ByteSource) : Bool :=
  match s.failingAt with
  | none => false
  | some n => decide (n ≤ s.consumed + s.unread.length)

/-- A source that hands out at least one byte at a time, and has not gone beyond the
place where it fails. -/
structure Sound (s : ByteSource) : Prop where
  chunk : s.chunk ≠ some 0
  consumed : ∀ n, s.failingAt = some n → s.consumed ≤ n

/-- A source that hands out all its bytes. -/
structure Steady (s : ByteSource) : Prop where
  chunk : s.chunk ≠ some 0
  failingAt : ∀ n, s.failingAt = some n → s.consumed + s.unread.length < n

section

variable {s : ByteSource} {piece : Text.Bytes}

theorem Steady.sound (h : s.Steady) : s.Sound :=
  ⟨h.chunk, fun n failing => by have := h.failingAt n failing; omega⟩

theorem Steady.fails (h : s.Steady) : s.fails = false := by
  unfold ByteSource.fails
  split
  · rfl
  · next n failing =>
    have := h.failingAt n failing
    exact decide_eq_false (by omega)

theorem Steady.reach (h : s.Steady) : s.reach = s.unread := by
  unfold ByteSource.reach
  split
  · rfl
  · next n failing =>
    have := h.failingAt n failing
    exact List.take_of_length_le (by omega)

/-- What can be had from a source stands in front of the place where it fails. -/
theorem Sound.advance (sound : s.Sound) {n : Nat} (within_ : n ≤ s.reach.length) :
    (s.advance n).Sound := by
  refine ⟨sound.chunk, fun m failing => ?_⟩
  have before := sound.consumed m failing
  have failing : s.failingAt = some m := failing
  rw [ByteSource.reach, failing, List.length_take] at within_
  simp only [ByteSource.advance]
  omega

theorem Steady.advance (h : s.Steady) {n : Nat} (within_ : n ≤ s.unread.length) :
    (s.advance n).Steady := by
  refine ⟨h.chunk, fun m failing => ?_⟩
  have := h.failingAt m failing
  simp only [ByteSource.advance, List.length_drop]
  omega

/-- A request fails just where a source is to fail. -/
theorem request_eq_error_iff {e : SystemError} :
    s.request = .error e ↔ s.failingAt = some s.consumed ∧ e = readFailure := by
  unfold request
  split
  · next failing => simp [failing, eq_comm]
  · next works => split <;> simp [works]

/-- The bound on what is handed out keeps to the place of failure. -/
theorem portion?_of_failingAt {n : Nat} (failing : s.failingAt = some n) :
    ∃ m, s.portion? = some m ∧ m ≤ n - s.consumed := by
  unfold portion?
  rw [failing]
  cases s.chunk with
  | none => exact ⟨_, rfl, Nat.le_refl _⟩
  | some _ => exact ⟨_, rfl, Nat.min_le_right _ _⟩

/-- Only a bound of zero, or the place of failure, keeps a source from handing out bytes. -/
theorem portion?_ne_zero (chunk : s.chunk ≠ some 0)
    (before : ∀ n, s.failingAt = some n → s.consumed < n) : s.portion? ≠ some 0 := by
  unfold portion?
  cases chunked : s.chunk <;> cases failing : s.failingAt <;>
    simp [chunked, failing] at chunk before ⊢ <;> omega

/-- A request that is answered hands out some first bytes, never beyond the place of
failure, and none only if there are none. -/
theorem of_request (sound : s.Sound) (asked : s.request = .ok piece) :
    ∃ m, piece = s.unread.take m ∧
      (∀ n, s.failingAt = some n → m ≤ n - s.consumed ∧ s.consumed < n) ∧
      (piece = [] → s.unread = []) := by
  unfold request at asked
  split at asked
  · cases asked
  next working =>
  have before : ∀ n, s.failingAt = some n → s.consumed < n := fun n failing =>
    Nat.lt_of_le_of_ne (sound.consumed n failing) fun same => working (same ▸ failing)
  have bound : ∀ n, s.failingAt = some n → ∃ m, s.portion? = some m ∧ m ≤ n - s.consumed :=
    fun n failing => portion?_of_failingAt failing
  cases portion : s.portion? with
  | none =>
    rw [portion] at asked
    cases asked
    refine ⟨s.unread.length, List.take_length.symm, fun n failing => ?_, id⟩
    obtain ⟨m, some_, _⟩ := bound n failing
    rw [portion] at some_
    cases some_
  | some m =>
    rw [portion] at asked
    cases asked
    refine ⟨m, rfl, fun n failing => ⟨?_, before n failing⟩, fun none_ => ?_⟩
    · obtain ⟨_, same, le⟩ := bound n failing
      rw [portion] at same
      cases same
      exact le
    · refine (List.take_eq_nil_iff.1 none_).resolve_left fun zero => ?_
      exact portion?_ne_zero sound.chunk before (zero ▸ portion)

/-- What a request hands out stands in front of what can still be had, and once it is
taken, requests fail where they did before. -/
theorem reach_of_request (sound : s.Sound) (asked : s.request = .ok piece) :
    s.reach = piece ++ (s.advance piece.length).reach ∧
      (s.advance piece.length).fails = s.fails ∧ (s.advance piece.length).Sound := by
  obtain ⟨m, rfl, before, _⟩ := of_request sound asked
  have short : (s.unread.take m).length ≤ m := List.length_take_le m _
  have size := congrArg List.length (prefix_of_request asked)
  have whole := prefix_of_request asked
  generalize s.unread.take m = piece at whole short size ⊢
  rw [List.length_append] at size
  refine ⟨?_, ?_, sound.chunk, fun n failing => ?_⟩
  · unfold reach
    simp only [advance] at whole ⊢
    cases failing : s.failingAt with
    | none => exact whole
    | some n =>
      have := before n failing
      dsimp only
      conv => lhs; rw [whole]
      rw [List.take_append, List.take_of_length_le (by omega), Nat.sub_sub]
  · unfold fails
    simp only [advance] at size ⊢
    cases failing : s.failingAt with
    | none => rfl
    | some n =>
      refine decide_eq_decide.2 ?_
      omega
  · have := before n failing
    simp only [advance]
    omega

theorem advance_advance (m n : Nat) : (s.advance m).advance n = s.advance (m + n) := by
  simp [advance, Nat.add_assoc]

theorem newline_notMem_takeWhile (piece : Text.Bytes) :
    Text.newlineByte ∉ piece.takeWhile insideLine := by
  intro mem
  have inside := List.all_eq_true.1 (List.all_takeWhile (p := insideLine) (l := piece)) _ mem
  simp [insideLine] at inside

theorem newline_notMem_of_drop (h : piece.drop (piece.takeWhile insideLine).length = []) :
    Text.newlineByte ∉ piece := by
  have all : piece.takeWhile insideLine = piece :=
    (List.takeWhile_prefix _).eq_of_length_le (List.drop_eq_nil_iff.1 h)
  exact all ▸ newline_notMem_takeWhile piece

/-- A line is taken through its newline, in whatever pieces its bytes come. If there is
no newline, the bytes that are left are a line, unless the source fails behind them. -/
theorem takeLine_run (s : ByteSource) (sound : s.Sound) :
    let line := Text.throughNewline s.reach
    ∃ j, j.output = [] ∧ takeLine s =
      ⟨if Text.newlineByte ∉ line ∧ s.fails then .error readFailure else .ok line,
        s.advance line.length, j⟩ := by
  intro line
  fun_induction takeLine s with
  | case1 s e failed =>
    obtain ⟨failing, rfl⟩ := request_eq_error_iff.1 failed
    have none_ : line = [] := by simp [line, reach, failing, Text.throughNewline]
    have fails : s.fails := by simp [fails, failing]
    refine ⟨[.fetched], rfl, ?_⟩
    rw [none_, if_pos ⟨List.not_mem_nil, fails⟩]
    simp [advance]
  | case2 s piece asked front newline =>
    have whole := (reach_of_request sound asked).1
    have cut := prefix_through_newline newline
    have found : line = front ++ [Text.newlineByte] := by
      simp only [line, whole]
      conv => lhs; rw [cut]
      rw [List.append_assoc, List.cons_append]
      exact Text.throughNewline_append_newline (newline_notMem_takeWhile piece) _
    refine ⟨[.fetched], rfl, ?_⟩
    rw [found, if_neg (by simp)]
    simp
  | case3 s asked front =>
    obtain ⟨m, _, before, none_⟩ := of_request sound asked
    have unread := none_ rfl
    have none_ : line = [] := by
      simp only [line, reach]
      cases s.failingAt <;> simp [unread, Text.throughNewline]
    have works : ¬ s.fails := by
      unfold fails
      cases failing : s.failingAt with
      | none => simp
      | some n =>
        have := before n failing
        simp [unread]
        omega
    refine ⟨[.fetched], rfl, ?_⟩
    rw [none_, if_neg (fun both => works both.2)]
    simp [advance]
  | case4 s piece asked front through some_ shorter rest ih =>
    obtain ⟨whole, fails, still⟩ := reach_of_request sound asked
    have inside := newline_notMem_of_drop (Decidable.not_not.1 through)
    obtain ⟨j, quiet, taken⟩ := ih still
    have found : line = piece ++ Text.throughNewline (s.advance piece.length).reach := by
      simp only [line, whole]
      exact Text.throughNewline_append inside _
    refine ⟨.fetched :: j, quiet, ?_⟩
    simp only [rest, taken, found, fails, List.mem_append, inside, false_or, List.length_append,
      advance_advance]
    split <;> rfl

end

/-- The first line is taken off a steady source, and it stays steady. -/
theorem Steady.takeLine {s : ByteSource} (h : s.Steady) :
    let line := Text.throughNewline s.unread
    ∃ j, j.output = [] ∧ ByteSource.takeLine s = ⟨.ok line, s.advance line.length, j⟩ ∧
      (s.advance line.length).Steady := by
  intro line
  obtain ⟨j, quiet, taken⟩ := takeLine_run s h.sound
  rw [h.reach, if_neg (by simp [h.fails])] at taken
  exact ⟨j, quiet, taken, h.advance (Text.throughNewline_isPrefix s.unread).length_le⟩

end ByteSource

namespace Prompted

/-- A prompt goes to the sink, and the source is left alone. -/
theorem prompt_run_ok {τ : Type} {prompt : String} {sink after : Sink} {j : Journal}
    (said : Sink.say prompt sink = ⟨.ok (), after, j⟩) (t : τ) :
    ((LineSource.onSink (Sink.say prompt)).mapError SessionError.system) (sink, t) =
      ⟨.ok (), (after, t), j⟩ :=
  Activity.mapError_run_ok (by rw [LineSource.onSink, Activity.within, said]) _

/-- Where prompt and bytes go well, a line is what the bytes say; without bytes there is
none. -/
theorem nextFrom_run_ok {τ : Type} {take : Activity τ SystemError Text.Bytes}
    {prompt : String} {sink after : Sink} {t u : τ} {bytes : Text.Bytes} {j k : Journal}
    (said : Sink.say prompt sink = ⟨.ok (), after, j⟩) (taken : take t = ⟨.ok bytes, u, k⟩) :
    nextFrom take prompt (sink, t) =
      ⟨.ok (if bytes.isEmpty then none else some (Text.lineOf bytes)), (after, u), j ++ k⟩ := by
  have second : ((LineSource.onSource take).mapError SessionError.system) (after, t) =
      ⟨.ok bytes, (after, u), k⟩ :=
    Activity.mapError_run_ok (by rw [LineSource.onSource, Activity.within, taken]) _
  rw [nextFrom, Activity.bind_run_ok (prompt_run_ok said t), Activity.bind_run_ok second]
  split <;> simp

/-- With an unfailing sink and a steady source, the prompt is all that is written, and
the next line is the first one of the bytes. -/
theorem next_of_steady {sink : Sink} {input : ByteSource} (unfailing : sink.Unfailing)
    (steady : input.Steady) (prompt : String) :
    let line := Text.throughNewline input.unread
    ∃ after j, after.Unfailing ∧ j.output = Text.Utf8.encode prompt ∧ j.calls = [] ∧
      next prompt (sink, input) =
        ⟨.ok (if line.isEmpty then none else some (Text.lineOf line)),
          (after, input.advance line.length), j⟩ := by
  intro line
  obtain ⟨j, quiet, taken, _⟩ := steady.takeLine
  have told := nextFrom_run_ok (unfailing.say prompt) taken
  refine ⟨_, _, unfailing.afterTaking _, ?_, ?_, told⟩
  · rw [Journal.output_append, quiet]
    simp [Journal.output, Entry.bytes]
  · have silent := silent_next prompt (sink, input)
    rwa [next, told] at silent

end Prompted

end CommandChains
