import Mathlib.Data.List.Basic
import Mathlib.Data.List.Induction
import CommandChains.SharedBuffers

/-!
# Where shared bytes come from

Which writers share a buffer changes with time: a writer leaves one buffer and joins another,
while the first lives on with the writers that stay. `SharedBuffers.origin` follows a writer back
through the steps to the place where the buffer that it shares now has come from. That is the
writer who started out with the buffer, or the step in which it was made. Two writers share a
buffer just if they are led back to the same origin.

So a buffer can be told by its origin, and what it holds by the history of the writes:
`SharedBuffers.writtenTo` collects the bytes that were written by whoever shared the buffer at the
time. `SharedBuffers.Traced` says that buffers and history agree. Every step keeps this.

Writes that follow one another may be cut in another way (`SharedBuffers.Recut`). No writer shows
anything of the cuts, because what a buffer holds is only decoded as a whole.
-/

namespace CommandChains.SharedBuffers

variable {steps steps' : List (Nat × WriterStep)} {s s' : SharedBuffers} {v w : Nat}

def after (s : SharedBuffers) (steps : List (Nat × WriterStep)) : SharedBuffers :=
  steps.foldl (fun s step => s.perform step.1 step.2) s

@[simp] theorem after_nil (s : SharedBuffers) : s.after [] = s := rfl

@[simp] theorem after_cons (s : SharedBuffers) (v : Nat) (step : WriterStep)
    (rest : List (Nat × WriterStep)) :
    s.after ((v, step) :: rest) = (s.perform v step).after rest := rfl

theorem after_append (s : SharedBuffers) (first second : List (Nat × WriterStep)) :
    s.after (first ++ second) = (s.after first).after second :=
  List.foldl_append

/-- The buffers after each step are those after the steps up to it. -/
theorem performEach_eq (steps : List (Nat × WriterStep)) (s : SharedBuffers) :
    performEach steps s =
      (List.range steps.length).map fun n => s.after (steps.take (n + 1)) := by
  induction steps generalizing s with
  | nil => rfl
  | cons step rest ih =>
    rw [performEach, ih, List.length_cons, List.range_succ_eq_map, List.map_cons, List.map_map]
    rfl

/-! ## Origins -/

inductive Origin where
  | own (writer : Nat)
  /-- It was made in the step with this number. -/
  | step (number : Nat)
  deriving DecidableEq, Repr

/-- Where the buffer of a writer comes from, if the latest step stands first. -/
def originBackwards : List (Nat × WriterStep) → Nat → Origin
  | [], w => .own w
  | (v, step) :: earlier, w =>
    if w = v then
      match step with
      | .write _ => originBackwards earlier w
      | .share other => originBackwards earlier other
      | .renew => .step earlier.length
    else originBackwards earlier w

/-- Where the buffer of a writer comes from, after some steps. -/
def origin (steps : List (Nat × WriterStep)) (w : Nat) : Origin :=
  originBackwards steps.reverse w

@[simp] theorem origin_nil (w : Nat) : origin [] w = .own w := rfl

@[simp] theorem origin_write (steps : List (Nat × WriterStep)) (v : Nat) (bytes : Text.Bytes)
    (w : Nat) : origin (steps ++ [(v, .write bytes)]) w = origin steps w := by
  simp [origin, originBackwards]

@[simp] theorem origin_share (steps : List (Nat × WriterStep)) (v other w : Nat) :
    origin (steps ++ [(v, .share other)]) w =
      if w = v then origin steps other else origin steps w := by
  simp [origin, originBackwards]

@[simp] theorem origin_renew (steps : List (Nat × WriterStep)) (v w : Nat) :
    origin (steps ++ [(v, .renew)]) w =
      if w = v then .step steps.length else origin steps w := by
  simp [origin, originBackwards]

/-- A buffer that a writer shares has been made by then. -/
theorem lt_of_origin_eq_step {n : Nat} (made : origin steps w = .step n) : n < steps.length := by
  induction steps using List.reverseRecOn generalizing w with
  | nil => exact nomatch made
  | append_singleton earlier last ih =>
    rw [List.length_append, List.length_singleton]
    obtain ⟨v, step⟩ := last
    cases step with
    | write bytes =>
      rw [origin_write] at made
      exact Nat.lt_succ_of_lt (ih made)
    | share other =>
      rw [origin_share] at made
      split at made
      · exact Nat.lt_succ_of_lt (ih made)
      · exact Nat.lt_succ_of_lt (ih made)
    | renew =>
      rw [origin_renew] at made
      split at made
      · cases made
        exact Nat.lt_succ_self _
      · exact Nat.lt_succ_of_lt (ih made)

/-! ## Histories -/

/-- What a step writes to the buffer of an origin, after the steps before it. -/
def adds (o : Origin) (before : List (Nat × WriterStep)) : Nat × WriterStep → Text.Bytes
  | (v, .write bytes) => if origin before v = o then bytes else []
  | (_, .share _) | (_, .renew) => []

/-- All that was written to the buffer of an origin, in the order of time, by whichever writer
shared it at the time. -/
def writtenTo (o : Origin) (steps : List (Nat × WriterStep)) : Text.Bytes :=
  steps.zipIdx.flatMap fun (step, n) => adds o (steps.take n) step

@[simp] theorem writtenTo_nil (o : Origin) : writtenTo o [] = [] := rfl

@[simp] theorem writtenTo_concat (o : Origin) (steps : List (Nat × WriterStep))
    (last : Nat × WriterStep) :
    writtenTo o (steps ++ [last]) = writtenTo o steps ++ adds o steps last := by
  -- The steps before a step are the same, whatever follows it.
  have before : steps.zipIdx.flatMap (fun (step, n) => adds o ((steps ++ [last]).take n) step) =
      writtenTo o steps := by
    apply List.flatMap_congr
    rintro ⟨step, n⟩ mem
    have earlier : n < steps.length := (List.mem_zipIdx' mem).1
    simp only [List.take_append_of_le_length (Nat.le_of_lt earlier)]
  have behind : (steps ++ [last]).take steps.length = steps := List.take_left
  rw [writtenTo, List.zipIdx_append, List.flatMap_append, before, List.zipIdx_singleton,
    List.flatMap_singleton]
  simp only [Nat.zero_add, behind]

/-- Nothing has been written to a buffer that is still to be made. -/
theorem writtenTo_unmade {n : Nat} (later : steps.length ≤ n) :
    writtenTo (.step n) steps = [] := by
  induction steps using List.reverseRecOn with
  | nil => rfl
  | append_singleton earlier last ih =>
    rw [List.length_append, List.length_singleton] at later
    have before : earlier.length ≤ n := Nat.le_of_succ_le later
    rw [writtenTo_concat, ih before, List.nil_append]
    obtain ⟨v, step⟩ := last
    cases step with
    | write bytes =>
      have other : origin earlier v ≠ .step n := fun made =>
        absurd (lt_of_origin_eq_step made) (Nat.not_lt.2 before)
      exact if_neg other
    | share other => rfl
    | renew => rfl

/-! ## Buffers and their history -/

@[simp] theorem held_share (s : SharedBuffers) (v other : Nat) (b : Buffer) :
    (s.perform v (.share other)).held b = s.held b := rfl

@[simp] theorem held_renew (s : SharedBuffers) (v : Nat) (b : Buffer) :
    (s.perform v .renew).held b = s.held b := rfl

@[simp] theorem bound_write (s : SharedBuffers) (v : Nat) (bytes : Text.Bytes) (w : Nat) :
    (s.perform v (.write bytes)).bound w = s.bound w := rfl

@[simp] theorem bound_share (s : SharedBuffers) (v other w : Nat) :
    (s.perform v (.share other)).bound w = if w = v then s.bound other else s.bound w :=
  bound_rebind s v w (s.bound other)

@[simp] theorem bound_renew (s : SharedBuffers) (v w : Nat) :
    (s.perform v .renew).bound w = if w = v then .made s.made else s.bound w :=
  bound_rebind s v w (.made s.made)

/-- The buffers agree with the history: writers share a buffer just if it has one origin, and it
holds what was written to this. Buffers still to be made are bound to nobody and hold nothing. -/
structure Traced (steps : List (Nat × WriterStep)) (s : SharedBuffers) : Prop where
  shared : ∀ v w, s.bound v = s.bound w ↔ origin steps v = origin steps w
  holds : ∀ w, s.held (s.bound w) = writtenTo (origin steps w) steps
  made_lt : ∀ w n, s.bound w = .made n → n < s.made
  unmade : ∀ n, s.made ≤ n → s.held (.made n) = []

theorem traced_nil : Traced [] {} where
  shared v w := by simp [bound]
  holds w := rfl
  made_lt w n made := by simp [bound] at made
  unmade n later := rfl

theorem Traced.write (h : Traced steps s) (v : Nat) (bytes : Text.Bytes) :
    Traced (steps ++ [(v, .write bytes)]) (s.perform v (.write bytes)) where
  shared u w := by
    rw [bound_write, bound_write, origin_write, origin_write]
    exact h.shared u w
  holds w := by
    rw [bound_write, held_write, h.holds, origin_write, writtenTo_concat, adds]
    simp only [h.shared w v, eq_comm]
  made_lt w n made := h.made_lt w n made
  unmade n later := by
    have other : .made n ≠ s.bound v := fun same =>
      absurd (h.made_lt v n same.symm) (Nat.not_lt.2 later)
    rw [held_write, h.unmade n later, if_neg other, List.append_nil]

theorem Traced.share (h : Traced steps s) (v other : Nat) :
    Traced (steps ++ [(v, .share other)]) (s.perform v (.share other)) where
  shared u w := by
    rw [bound_share, bound_share, origin_share, origin_share]
    split <;> split <;> exact h.shared _ _
  holds w := by
    rw [bound_share, held_share, origin_share, writtenTo_concat, adds, List.append_nil]
    split <;> exact h.holds _
  made_lt w n made := by
    rw [bound_share] at made
    split at made
    · exact h.made_lt other n made
    · exact h.made_lt w n made
  unmade n later := h.unmade n later

theorem Traced.renew (h : Traced steps s) (v : Nat) :
    Traced (steps ++ [(v, .renew)]) (s.perform v .renew) where
  shared u w := by
    have fresh : ∀ x, s.bound x ≠ .made s.made := fun x made =>
      Nat.lt_irrefl _ (h.made_lt x _ made)
    have later : ∀ x, origin steps x ≠ .step steps.length := fun x made =>
      Nat.lt_irrefl _ (lt_of_origin_eq_step made)
    rw [bound_renew, bound_renew, origin_renew, origin_renew]
    split <;> split
    · exact iff_of_true rfl rfl
    · exact iff_of_false (fresh w).symm (later w).symm
    · exact iff_of_false (fresh u) (later u)
    · exact h.shared u w
  holds w := by
    rw [bound_renew, held_renew, origin_renew, writtenTo_concat, adds, List.append_nil]
    split
    · rw [h.unmade _ (Nat.le_refl _), writtenTo_unmade (Nat.le_refl _)]
    · exact h.holds w
  made_lt w n made := by
    rw [bound_renew] at made
    split at made
    · cases made
      exact Nat.lt_succ_self _
    · exact Nat.lt_succ_of_lt (h.made_lt w n made)
  unmade n later := h.unmade n (Nat.le_of_succ_le later)

/-- The buffers after some steps agree with the history of these steps. -/
theorem traced_after (steps : List (Nat × WriterStep)) : Traced steps (after {} steps) := by
  induction steps using List.reverseRecOn with
  | nil => exact traced_nil
  | append_singleton earlier last ih =>
    obtain ⟨v, step⟩ := last
    rw [after_append, after_cons, after_nil]
    cases step with
    | write bytes => exact ih.write v bytes
    | share other => exact ih.share v other
    | renew => exact ih.renew v

/-! ## Cuts of writes -/

/-- The same steps, with writes that follow one another cut in another way. -/
inductive Recut : List (Nat × WriterStep) → List (Nat × WriterStep) → Prop
  | nil : Recut [] []
  | keep (v : Nat) (step : WriterStep) {rest rest' : List (Nat × WriterStep)} :
      Recut rest rest' → Recut ((v, step) :: rest) ((v, step) :: rest')
  | writes (v : Nat) {pieces pieces' : List Text.Bytes} {rest rest' : List (Nat × WriterStep)} :
      pieces.flatten = pieces'.flatten → Recut rest rest' →
      Recut (pieces.map (fun piece => (v, .write piece)) ++ rest)
        (pieces'.map (fun piece => (v, .write piece)) ++ rest')

/-- Buffers that hold the same and are bound in the same way. -/
structure Alike (s s' : SharedBuffers) : Prop where
  bound : ∀ w, s.bound w = s'.bound w
  held : ∀ b, s.held b = s'.held b
  made : s.made = s'.made

theorem Alike.refl (s : SharedBuffers) : Alike s s :=
  ⟨fun _ => rfl, fun _ => rfl, rfl⟩

theorem Alike.symm (h : Alike s s') : Alike s' s :=
  ⟨fun w => (h.bound w).symm, fun b => (h.held b).symm, h.made.symm⟩

theorem Alike.trans {t : SharedBuffers} (h : Alike s s') (h' : Alike s' t) : Alike s t :=
  ⟨fun w => (h.bound w).trans (h'.bound w), fun b => (h.held b).trans (h'.held b),
    h.made.trans h'.made⟩

theorem Alike.perform (h : Alike s s') (v : Nat) (step : WriterStep) :
    Alike (s.perform v step) (s'.perform v step) := by
  cases step with
  | write bytes =>
    refine ⟨h.bound, fun b => ?_, h.made⟩
    rw [held_write, held_write, h.held, h.bound]
  | share other =>
    refine ⟨fun w => ?_, h.held, h.made⟩
    rw [bound_share, bound_share, h.bound, h.bound]
  | renew =>
    refine ⟨fun w => ?_, h.held, congrArg (· + 1) h.made⟩
    rw [bound_renew, bound_renew, h.bound, h.made]

theorem Alike.after (h : Alike s s') (steps : List (Nat × WriterStep)) :
    Alike (s.after steps) (s'.after steps) := by
  induction steps generalizing s s' with
  | nil => exact h
  | cons step rest ih => exact ih (h.perform step.1 step.2)

/-- Writes of one writer that follow one another come to one write of all the bytes. -/
theorem alike_writes (s : SharedBuffers) (v : Nat) (pieces : List Text.Bytes) :
    Alike (s.after (pieces.map fun piece => (v, .write piece)))
      (s.perform v (.write pieces.flatten)) := by
  induction pieces generalizing s with
  | nil =>
    refine ⟨fun _ => rfl, fun b => ?_, rfl⟩
    rw [held_write]
    simp
  | cons piece rest ih =>
    refine (ih (s.perform v (.write piece))).trans ⟨fun _ => rfl, fun b => ?_, rfl⟩
    rw [held_write, held_write, held_write, bound_write, List.flatten_cons]
    split <;> simp

/-- Buffers do not depend on the cuts. -/
theorem Recut.alike (h : Recut steps steps') (same : Alike s s') :
    Alike (s.after steps) (s'.after steps') := by
  induction h generalizing s s' with
  | nil => exact same
  | keep v step _ ih => exact ih (same.perform v step)
  | @writes v pieces pieces' _ _ bytes _ ih =>
    rw [after_append, after_append]
    have front := (alike_writes s v pieces).trans (same.perform v (.write pieces.flatten))
    rw [bytes] at front
    exact ih (front.trans (alike_writes s' v pieces').symm)

/-- What writers show is settled by the history of their buffers. After each step a writer shows
the text of all that was written to the buffer it shares, by whoever shared it at the time.
Buffers are told apart by their origins, and writers that share one show the same. A write
changes its own buffer only, and no buffer is changed when a writer is bound to another. How the
bytes are cut into writes cannot be seen. -/
theorem contents_of_history (steps : List (Nat × WriterStep)) :
    performEach steps {} =
      (List.range steps.length).map (fun n => after {} (steps.take (n + 1))) ∧
    (∀ w, (after {} steps).contents w = Text.Utf8.decode (writtenTo (origin steps w) steps)) ∧
    (∀ v w, (after {} steps).bound v = (after {} steps).bound w ↔
      origin steps v = origin steps w) ∧
    (∀ v w, (after {} steps).bound v = (after {} steps).bound w →
      (after {} steps).contents v = (after {} steps).contents w) ∧
    (∀ v bytes b, b ≠ (after {} steps).bound v →
      ((after {} steps).perform v (.write bytes)).held b = (after {} steps).held b) ∧
    (∀ v other b, ((after {} steps).perform v (.share other)).held b = (after {} steps).held b) ∧
    (∀ v b, ((after {} steps).perform v .renew).held b = (after {} steps).held b) ∧
    (∀ steps', Recut steps steps' → ∀ w,
      (after {} steps).contents w = (after {} steps').contents w) := by
  have traced := traced_after steps
  refine ⟨performEach_eq steps {}, fun w => ?_, traced.shared, fun v w same => ?_,
    fun v bytes b other => ?_, fun v other b => rfl, fun v b => rfl, fun steps' cut w => ?_⟩
  · rw [contents, bytesOf, traced.holds]
  · rw [contents, contents, bytesOf, bytesOf, same]
  · rw [held_write, if_neg other, List.append_nil]
  · have alike := cut.alike (Alike.refl {})
    rw [contents, contents, bytesOf, bytesOf, alike.bound, alike.held]

/-- A writer is bound to itself, and a character is cut in two; the writers that share the buffer
show the same, and another writer's buffer is left alone. -/
theorem contents_of_cut_character :
    let steps : List (Nat × WriterStep) :=
      [(1, .share 0), (0, .share 0), (0, .write [0xC3]), (0, .write [0xA9])]
    let steps' : List (Nat × WriterStep) := [(1, .share 0), (0, .share 0), (0, .write [0xC3, 0xA9])]
    Recut steps steps' ∧ (after {} steps).contents 1 = (after {} steps').contents 1 ∧
      (after {} steps).bound 0 = (after {} steps).bound 1 ∧
      (after {} steps).contents 0 = (after {} steps).contents 1 ∧
      Buffer.own 2 ≠ (after {} steps).bound 0 ∧
      ((after {} steps).perform 0 (.write [0x21])).held (.own 2) = (after {} steps).held (.own 2) := by
  intro steps steps'
  have bytes : [[0xC3], [0xA9]].flatten = [([0xC3, 0xA9] : Text.Bytes)].flatten := rfl
  have cut : Recut steps steps' := .keep 1 _ (.keep 0 _ (.writes 0 bytes .nil))
  have shared : (after {} steps).bound 0 = (after {} steps).bound 1 := by decide
  have other : Buffer.own 2 ≠ (after {} steps).bound 0 := by decide
  obtain ⟨_, _, _, same, frame, _, _, uncut⟩ := contents_of_history steps
  exact ⟨cut, uncut steps' cut 1, shared, same 0 1 shared, other, frame 0 [0x21] _ other⟩

/-- What was written stays with the writers that share the buffer when its writer leaves. -/
example :
    (after {} [(1, .share 0), (0, .write [0x61]), (0, .renew), (0, .write [0x62])]).contents 1 =
      "a" := by
  decide

end CommandChains.SharedBuffers
