import Mathlib
import CommandChains.Proofs.Chain.Account
import CommandChains.Proofs.Facility.Scripted

/-!
# What a sequential delimiter guarantees

On a plain scripted facility a wait is over only when the child waited for has ended.
So a command behind `;` is started only after the child started last has ended, and a
chain that is not left in the background is completed only after its last child has
ended. When the run is over, of the children that it has started only those that need
not be awaited may still be outstanding. The sink may fail at any time, and children of
earlier lines may be outstanding and may end first.
-/

namespace CommandChains.Chain

open Scripted

/-! ## Stages and the calls around them -/

section

variable {σ : Type} {F : Facility σ} {chain : Chain} {w : World σ} {a : Account}
variable {front rest : List Stage} {stage : Stage} {h : Handle}

theorem Stage.child?_eq_some_iff : stage.child? = some h ↔ stage.answer = some (.ok h) := by
  rcases answer : stage.answer with _ | _ | _ <;> simp [Stage.child?, answer, Except.toOption]

theorem Account.calls_of_stages (stages : a.stages = front ++ stage :: rest) :
    a.calls = (front.flatMap Stage.calls ++ stage.waits) ++
      ((stage.answer.map (Call.spawn stage.command.argv)).toList ++
        rest.flatMap Stage.calls ++ a.final) := by
  simp [Account.calls, stages, Stage.calls]

/-- Behind the stage that started a child last, nothing is started. -/
theorem exists_of_lastStarted {done : List Stage} (last : lastStarted done = some h) :
    ∃ front stage rest, done = front ++ stage :: rest ∧ stage.answer = some (.ok h) ∧
      ∀ later ∈ rest, later.child? = none := by
  obtain ⟨earlier, children⟩ := List.getLast?_eq_some_iff.1 last
  obtain ⟨front, others, rfl, _, one⟩ := List.filterMap_eq_append_iff.1 children
  obtain ⟨failed, stage, rest, rfl, _, started, none_⟩ := List.filterMap_eq_cons_iff.1 one
  refine ⟨front ++ failed, stage, rest, by simp, Stage.child?_eq_some_iff.1 started, ?_⟩
  exact List.filterMap_eq_nil_iff.1 none_

/-- The facility just before a stage asks for a start. -/
theorem Account.Recounts.trace_before (recounts : a.Recounts F chain w)
    (stages : a.stages = front ++ stage :: rest) :
    ∃ u v, F.Trace w.facility (front.flatMap Stage.calls) u ∧ F.Trace u stage.waits v ∧
      F.Trace v ((stage.answer.map (Call.spawn stage.command.argv)).toList ++
        rest.flatMap Stage.calls ++ a.final) (chain.run F w).state.facility := by
  have trace := recounts.trace
  rw [Account.calls_of_stages stages] at trace
  obtain ⟨v, before, after⟩ := trace.split
  obtain ⟨u, first, waits⟩ := before.split
  exact ⟨u, v, first, waits, after⟩

/-- The facility just before the last pause. -/
theorem Account.Recounts.trace_final (recounts : a.Recounts F chain w) :
    ∃ u, F.Trace w.facility (a.stages.flatMap Stage.calls) u ∧
      F.Trace u a.final (chain.run F w).state.facility :=
  recounts.trace.split

end

/-! ## Children that have ended -/

variable {p : Plan} {s t u : State} {chain : Chain} {sink : Sink} {a : Account}
variable {front rest : List Stage} {stage : Stage} {h : Handle}

/-- A child that has just been started is the youngest one, and outstanding. -/
theorem youngest_of_trace (plain : p.Plain) {calls : List Call} {argv : List String}
    (trace : (facility p).Trace s (calls ++ [.spawn argv (.ok h)]) t) :
    h.number = t.started.length ∧ h ∈ t.handles := by
  obtain ⟨u, _, last⟩ := trace.split
  cases last with
  | spawn answered rest =>
    cases rest
    obtain ⟨e, no, _⟩ | ⟨same, rfl⟩ := spawn_cases answered
    · cases no
    · cases same
      rw [plain.handle]
      simp [State.start, State.handles, Handle.ofIndex]

/-- The child started last in some stages has a number among those given by then. -/
theorem number_le_of_lastStarted (plain : p.Plain)
    (trace : (facility p).Trace s (front.flatMap Stage.calls) t)
    (last : lastStarted front = some h) : h.number ≤ t.started.length := by
  obtain ⟨before, stage, after, rfl, answer, _⟩ := exists_of_lastStarted last
  have calls : (before ++ stage :: after).flatMap Stage.calls =
      ((before.flatMap Stage.calls ++ stage.waits) ++ [.spawn stage.command.argv (.ok h)]) ++
        after.flatMap Stage.calls := by
    simp [Stage.calls, answer]
  rw [calls] at trace
  obtain ⟨u, upTo, later⟩ := trace.split
  rw [(youngest_of_trace plain upTo).1]
  exact length_started_le_of_trace later

/-- A child that is waited for after some stages is gone after the wait. -/
theorem gone_after_wait (plain : p.Plain) (reachable : Reachable p s)
    (before : (facility p).Trace s (front.flatMap Stage.calls) t)
    (last : lastStarted front = some h) {calls : List Call} (waits : WaitsFor h calls)
    (trace : (facility p).Trace t calls u) : u.Gone h :=
  gone_of_wait plain ((reachable.trace before).numbered plain) waits trace
    (number_le_of_lastStarted plain before last)

/-- Once a command behind `;` is started, the child started last before it is gone. -/
theorem gone_before_next (plain : p.Plain) (reachable : Reachable p s)
    (recounts : a.Recounts (facility p) chain ⟨s, sink⟩)
    (stages : a.stages = front ++ stage :: rest) (awaited : due front = some h) :
    ∃ t, (facility p).Trace s (front.flatMap Stage.calls ++ stage.waits) t ∧ t.Gone h ∧
      (chain.run (facility p) ⟨s, sink⟩).state.facility.Gone h := by
  obtain ⟨u, v, before, waiting, after⟩ := recounts.trace_before stages
  have waits := recounts.course.pause stages
  rw [List.nil_append, awaited] at waits
  have gone := gone_after_wait plain reachable before (due_eq_some_iff.1 awaited).2 waits waiting
  exact ⟨v, before.append waiting, gone, gone_of_trace plain after gone⟩

/-- Once a chain that is not left in the background is completed, the child started
last in it is gone. -/
theorem gone_of_completed (plain : p.Plain) (reachable : Reachable p s)
    (recounts : a.Recounts (facility p) chain ⟨s, sink⟩)
    (completed : (chain.run (facility p) ⟨s, sink⟩).result = .ok .completed)
    (foreground : chain.closedBy ≠ some .concurrent) (last : lastStarted a.stages = some h) :
    (chain.run (facility p) ⟨s, sink⟩).state.facility.Gone h := by
  obtain ⟨u, before, waiting⟩ := recounts.trace_final
  have course := recounts.course
  rw [completed] at course
  have waits := course.ending.2.2
  rw [beq_eq_false_iff_ne.2 foreground, List.nil_append, last] at waits
  exact gone_after_wait plain reachable before last waits waiting

/-- Only a run that is completed may end with a stage that started a child. -/
theorem Course.completed_of_last_started {background : Bool} {done : List Stage}
    {commands : List Command} {result : Except SystemError Ending}
    (course : Course background done commands result a) (stages : a.stages = front ++ [stage])
    (started : stage.child? = some h) : result = .ok .completed := by
  match result, course.ending with
  | .ok .completed, _ => rfl
  | .ok .exit, ⟨_, _, others, last, same, isExit⟩ =>
    rw [stages] at same
    obtain ⟨_, rfl⟩ := List.append_singleton_inj.1 same
    have nothing := course.exit stage (by simp [stages]) isExit
    rw [Stage.child?_eq_some_iff, nothing] at started
    cases started
  | .error _, ⟨_, others, last, same, nothing⟩ =>
    rw [stages] at same
    obtain ⟨_, rfl⟩ := List.append_singleton_inj.1 same
    rw [started] at nothing
    cases nothing

/-- What `;` and the foreground guarantee. Let a plain scripted facility be in any state
that it can come to, with any children of earlier lines outstanding and any order in
which children are to end. Whenever a run asks for the start of a command behind `;`, the
child that it started last is no longer outstanding. If it is completed and not left in
the background, the last child that it started is not outstanding afterwards. However it
ends, a child that it started and that is still outstanding belongs to a command that is
not closed by `;`, or it is the last one of a chain that ends in `&`. -/
theorem ended_before_next (plain : p.Plain) (reachable : Reachable p s) (chain : Chain)
    (sink : Sink) :
    ∃ a : Account, a.Recounts (facility p) chain ⟨s, sink⟩ ∧
      (∀ front stage rest h, a.stages = front ++ stage :: rest →
        closing front = some .sequential → lastStarted front = some h →
        ∃ t, (facility p).Trace s (front.flatMap Stage.calls ++ stage.waits) t ∧
          h ∉ t.handles) ∧
      ((chain.run (facility p) ⟨s, sink⟩).result = .ok .completed →
        chain.closedBy ≠ some .concurrent → ∀ h, lastStarted a.stages = some h →
        h ∉ (chain.run (facility p) ⟨s, sink⟩).state.facility.handles) ∧
      ∀ stage ∈ a.stages, ∀ h, stage.child? = some h →
        h ∈ (chain.run (facility p) ⟨s, sink⟩).state.facility.handles →
        stage.command.closedBy ≠ some .sequential ∨
          chain.closedBy = some .concurrent ∧ lastStarted a.stages = some h := by
  obtain ⟨a, recounts⟩ := exists_recounts (facility p) chain ⟨s, sink⟩
  refine ⟨a, recounts, ?_, ?_, ?_⟩
  · intro front stage rest h stages sequential last
    obtain ⟨t, trace, gone, _⟩ :=
      gone_before_next plain reachable recounts stages (due_eq_some_iff.2 ⟨sequential, last⟩)
    exact ⟨t, trace, gone.ended⟩
  · intro completed foreground h last
    exact (gone_of_completed plain reachable recounts completed foreground last).ended
  · intro stage mem h started outstanding
    refine Classical.or_iff_not_imp_left.2 fun sequential => ?_
    rw [ne_eq, Classical.not_not] at sequential
    obtain ⟨front, rest, stages⟩ := List.append_of_mem mem
    cases rest with
    | cons next rest =>
      have awaited : due (front ++ [stage]) = some h :=
        due_eq_some_iff.2 ⟨by simp [sequential], by simp [started]⟩
      obtain ⟨_, _, _, gone⟩ := gone_before_next plain reachable recounts
        (by rw [stages, List.append_cons]) awaited
      exact absurd outstanding gone.ended
    | nil =>
      have last : lastStarted a.stages = some h := by simp [stages, started]
      refine ⟨?_, last⟩
      refine Classical.byContradiction fun foreground => ?_
      have completed := recounts.course.completed_of_last_started stages started
      have gone := gone_of_completed plain reachable recounts completed foreground last
      exact gone.ended outstanding

/-- After `a ; bad ; c` the child of `c` has ended, though `bad` cannot be started, a child of
an earlier line is outstanding, and the children are to end in another order. -/
theorem ended_after_failed_start :
    let p : Plan := { missing := ["bad"] }
    let s : State := (spawn p ["x"] { finishing := [1, 3, 2] }).2
    let chain : Chain :=
      ⟨[⟨["a"], some .sequential⟩, ⟨["bad"], some .sequential⟩, ⟨["c"], none⟩]⟩
    ∃ a : Account, a.Recounts (facility p) chain ⟨s, .boundless⟩ ∧
      ∀ h, lastStarted a.stages = some h →
        h ∉ (chain.run (facility p) ⟨s, .boundless⟩).state.facility.handles := by
  intro p s chain
  have plain : p.Plain := plain_of_defaults rfl rfl
  have leftover : (facility p).Trace { finishing := [1, 3, 2] }
      [.spawn ["x"] (.ok (.ofIndex 0))] s := .spawn rfl (.nil _)
  have reachable := (reachable_initial p [1, 3, 2]).trace leftover
  obtain ⟨a, recounts, _, foreground, _⟩ := ended_before_next plain reachable chain .boundless
  exact ⟨a, recounts, foreground (by cbv) (by decide)⟩

end CommandChains.Chain
