import CommandChains.Proofs.Facility.Scripted

/-!
# The children and the calls

The calls that a scripted facility has answered account for its children. Each start that
succeeded is a child, and so many children have been started. A wait whose answer is not
set in advance and that names a handle is the end of a child; a wait whose answer is set
is the end of nobody, whomever it names, and leaves the children alone.

`State.Accounted` says this together with what holds among the children themselves: they
are numbered without gaps, each is outstanding or has ended but not both, none ends twice,
and the outstanding ones stand in the order of their numbers. Handles may repeat, so it
speaks of children and numbers where it says that they are different.
-/

namespace CommandChains

namespace Call

/-- The handle of the child that a call has started. -/
def started? : Call → Option Handle
  | spawn _ (.ok handle) => some handle
  | _ => none

def isWait : Call → Bool
  | wait _ => true
  | spawn .. => false

end Call

namespace Scripted

/-- The handles of the children that have ended in some calls, if `n` waits came before.
A wait whose answer is set is the end of nobody. -/
def Plan.reaps (p : Plan) : Nat → List Call → List Handle
  | _, [] => []
  | n, .spawn .. :: rest => p.reaps n rest
  | n, .wait answer :: rest =>
    match p.waits.lookup (n + 1), answer with
    | none, .ok handle => handle :: p.reaps (n + 1) rest
    | _, _ => p.reaps (n + 1) rest

section

variable {p : Plan} {s t : State} {answer : Except WaitError Handle}

theorem waitAny_of_set {set : WaitAnswer} (found : p.waits.lookup (s.waits + 1) = some set) :
    waitAny p s = (set.answer, s.asked) := by
  simp only [waitAny, found, State.asked]

theorem waitAny_of_unset (unset : p.waits.lookup (s.waits + 1) = none) :
    waitAny p s = s.next?.elim (.error .noChildren, s.asked)
      fun child => (.ok child.handle, s.asked.reap child) := by
  simp only [waitAny, unset]
  cases s.next? <;> rfl

/-- A wait whose answer is set leaves the children and their order alone. -/
theorem eq_asked_of_set (set : p.waits.lookup (s.waits + 1) ≠ none)
    (answered : waitAny p s = (answer, t)) : t = s.asked := by
  obtain ⟨_, found⟩ := Option.ne_none_iff_exists'.1 set
  rw [waitAny_of_set found] at answered
  exact (congrArg Prod.snd answered).symm

/-- What a start does to the count of children. -/
theorem handles_of_spawn {argv : List String} {answer : Except StartError Handle}
    (answered : spawn p argv s = (answer, t)) :
    t.waits = s.waits ∧ t.reaped = s.reaped ∧
      t.started.map Child.handle =
        s.started.map Child.handle ++ (Call.spawn argv answer).started?.toList := by
  obtain ⟨e, rfl, rfl⟩ | ⟨rfl, rfl⟩ := spawn_cases answered
  · exact ⟨rfl, rfl, (List.append_nil _).symm⟩
  · exact ⟨rfl, rfl, by simp [State.start, Call.started?]⟩

/-- What a wait does to the count of children. -/
theorem handles_of_wait (answered : waitAny p s = (answer, t)) :
    t.waits = s.waits + 1 ∧ t.started = s.started ∧
      t.reaped.map Child.handle =
        s.reaped.map Child.handle ++ p.reaps s.waits [.wait answer] := by
  cases found : p.waits.lookup (s.waits + 1) with
  | some set =>
    rw [waitAny_of_set found] at answered
    cases answered
    refine ⟨rfl, rfl, ?_⟩
    simp [Plan.reaps, found, State.asked]
  | none =>
    rw [waitAny_of_unset found] at answered
    cases next : s.next? with
    | none =>
      rw [next] at answered
      cases answered
      exact ⟨rfl, rfl, by simp [Plan.reaps, found, State.asked]⟩
    | some child =>
      rw [next] at answered
      cases answered
      exact ⟨rfl, rfl, by simp [Plan.reaps, found, State.asked]⟩

theorem Plan.reaps_cons_wait (n : Nat) (calls : List Call) :
    p.reaps n (.wait answer :: calls) = p.reaps n [.wait answer] ++ p.reaps (n + 1) calls := by
  cases found : p.waits.lookup (n + 1) <;> cases answer <;> simp [Plan.reaps, found]

/-- The calls tell how many waits there were, who was started and who has ended. -/
theorem handles_of_trace {calls : List Call} (trace : (facility p).Trace s calls t) :
    t.waits = s.waits + calls.countP Call.isWait ∧
      t.started.map Child.handle =
        s.started.map Child.handle ++ calls.filterMap Call.started? ∧
      t.reaped.map Child.handle = s.reaped.map Child.handle ++ p.reaps s.waits calls := by
  induction trace with
  | nil => simp [Plan.reaps]
  | @spawn s u t argv answer calls answered _ ih =>
    obtain ⟨waits, started, reaped⟩ := ih
    obtain ⟨sameWaits, sameReaped, grown⟩ := handles_of_spawn answered
    rw [waits, started, reaped, sameWaits, sameReaped, grown]
    refine ⟨rfl, ?_, rfl⟩
    cases asked : (Call.spawn argv answer).started? <;> simp [asked]
  | @wait s u t answer calls answered _ ih =>
    obtain ⟨waits, started, reaped⟩ := ih
    obtain ⟨more, same, grown⟩ := handles_of_wait answered
    rw [waits, started, reaped, more, same, grown]
    refine ⟨?_, rfl, ?_⟩
    · rw [List.countP_cons_of_pos rfl]
      omega
    · rw [List.append_assoc, ← Plan.reaps_cons_wait]

end

/-- The children are accounted for by the calls that the facility has answered. -/
structure State.Accounted (p : Plan) (calls : List Call) (s : State) : Prop where
  /-- Each start that succeeded is a child, and they are numbered without gaps. -/
  handles : s.started.map Child.handle = calls.filterMap Call.started?
  ordinals : s.started.map Child.ordinal = List.range' 1 (calls.filterMap Call.started?).length
  /-- Each child is outstanding or has ended, never both. -/
  mem_started : ∀ child, child ∈ s.started ↔ child ∈ s.outstanding ∨ child ∈ s.reaped
  apart : ∀ child ∈ s.outstanding, child ∉ s.reaped
  /-- Each wait that is the end of a child is so for one of them, and no child ends twice. -/
  reaped : s.reaped.map Child.handle = p.reaps 0 calls
  once : (s.reaped.map Child.ordinal).Nodup
  /-- The outstanding children stand in the order of their numbers. -/
  ordered : (s.outstanding.map Child.ordinal).Pairwise (· < ·)
  /-- All starts less all ends are the outstanding children. -/
  balance : (calls.filterMap Call.started?).length =
    s.outstanding.length + (p.reaps 0 calls).length

/-- The calls from the beginning on account for the children. -/
theorem accounted_of_trace {p : Plan} {finishing : List Nat} {calls : List Call} {t : State}
    (trace : (facility p).Trace { finishing } calls t) : t.Accounted p calls := by
  have orderly := orderly_of_trace trace (.initial finishing)
  obtain ⟨_, started, reaped⟩ := handles_of_trace trace
  have number : t.started.length = (calls.filterMap Call.started?).length := by
    simpa using congrArg List.length started
  have distinct := orderly.nodup_all_ordinals
  rw [List.map_append] at distinct
  obtain ⟨_, once, apart⟩ := List.nodup_append.1 distinct
  refine ⟨started, number ▸ orderly.ordinals, fun child => ?_, ?_, reaped, once, ?_, ?_⟩
  · rw [orderly.kept.mem_iff, List.mem_append]
  · intro child outstanding ended
    exact apart _ (List.mem_map_of_mem outstanding) _ (List.mem_map_of_mem ended) rfl
  · refine List.Pairwise.sublist (orderly.outstanding.map Child.ordinal) ?_
    rw [orderly.ordinals]
    exact List.pairwise_lt_range'
  · have ends : t.reaped.length = (p.reaps 0 calls).length := by
      simpa using congrArg List.length reaped
    rw [← number, orderly.kept.length_eq, List.length_append, ends]

end Scripted

end CommandChains
