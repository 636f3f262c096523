import CommandChains.Proofs.Chain.Ordering
import CommandChains.Session

/-!
# Waits for children that have ended

A run keeps in mind the child that it started last, also when that child has been
awaited. If all commands since then could not be started, the next wait is for the
same child once more. On a plain scripted facility this is the only way in which a run
can wait for a child that is not outstanding. What such a wait does is to reap all that
is outstanding, whichever line it comes from, and to give up.
-/

namespace CommandChains.Chain

open Scripted

/-- The calls of a pause that comes after some stages of an account. -/
def Account.PausesAfter (a : Account) (done : List Stage) (calls : List Call) : Prop :=
  (∃ stage rest, a.stages = done ++ stage :: rest ∧ stage.waits = calls) ∨
    a.stages = done ∧ a.final = calls

/-- The child started last in some stages has been awaited since: some stage has waited,
and from it on nothing has been started. -/
def AlreadyAwaited (done : List Stage) : Prop :=
  ∃ front stage rest, done = front ++ stage :: rest ∧ stage.waits ≠ [] ∧
    ∀ later ∈ stage :: rest, later.child? = none

theorem lastStarted_append_of_failed {done rest : List Stage}
    (failed : ∀ later ∈ rest, later.child? = none) :
    lastStarted (done ++ rest) = lastStarted done := by
  rw [lastStarted, List.filterMap_append, List.filterMap_eq_nil_iff.2 failed, List.append_nil]
  rfl

variable {σ : Type} {F : Facility σ} {chain : Chain} {w : World σ} {a : Account}
variable {done : List Stage} {calls : List Call}

/-- Whoever is awaited after the last command is the child started last. -/
theorem Course.last_of_final {background : Bool} {commands : List Command}
    {result : Except SystemError Ending} (course : Course background [] commands result a)
    (asked : a.final ≠ []) : ∃ h, lastStarted a.stages = some h ∧ WaitsFor h a.final := by
  match result, course.ending with
  | .ok .completed, ⟨_, _, pause⟩ =>
    obtain ⟨h, awaited, waits⟩ := pause.exists_of_ne_nil asked
    refine ⟨h, ?_, waits⟩
    split at awaited
    · cases awaited
    · exact awaited
  | .ok .exit, ⟨_, nothing, _⟩ => exact absurd nothing asked
  | .error _, ⟨nothing, _⟩ => exact absurd nothing asked

/-- Whoever is awaited in a run is the child started last by then. -/
theorem Account.Recounts.last_of_pause (recounts : a.Recounts F chain w)
    (pause : a.PausesAfter done calls) (asked : calls ≠ []) :
    ∃ h, lastStarted done = some h ∧ WaitsFor h calls := by
  rcases pause with ⟨stage, rest, stages, rfl⟩ | ⟨rfl, rfl⟩
  · obtain ⟨h, awaited, waits⟩ := (recounts.course.pause stages).exists_of_ne_nil asked
    exact ⟨h, (due_eq_some_iff.1 awaited).2, waits⟩
  · exact recounts.course.last_of_final asked

theorem Account.Recounts.trace_of_pause (recounts : a.Recounts F chain w)
    (pause : a.PausesAfter done calls) :
    ∃ t u, F.Trace w.facility (done.flatMap Stage.calls) t ∧ F.Trace t calls u := by
  rcases pause with ⟨stage, rest, stages, rfl⟩ | ⟨rfl, rfl⟩
  · obtain ⟨t, u, before, waiting, _⟩ := recounts.trace_before stages
    exact ⟨t, u, before, waiting⟩
  · obtain ⟨t, before, waiting⟩ := recounts.trace_final
    exact ⟨t, _, before, waiting⟩

/-- The stages before a pause begin those of the account. -/
theorem Account.PausesAfter.isPrefix (pause : a.PausesAfter done calls) : done <+: a.stages := by
  rcases pause with ⟨stage, rest, stages, _⟩ | ⟨rfl, _⟩
  · exact ⟨stage :: rest, stages.symm⟩
  · exact List.prefix_refl _

section

variable {p : Plan} {s t : State} {sink : Sink} {h : Handle}

/-- Stages that neither wait nor start anything leave a scripted facility as it is. -/
theorem state_eq_of_failed {stages : List Stage}
    (failed : ∀ stage ∈ stages, stage.waits = [] ∧ stage.child? = none)
    (trace : (facility p).Trace s (stages.flatMap Stage.calls) t) : t = s := by
  induction stages with
  | nil => cases trace; rfl
  | cons stage rest ih =>
    rw [List.forall_mem_cons] at failed
    obtain ⟨⟨waits, nothing⟩, others⟩ := failed
    match answer : stage.answer with
    | none => exact ih others (by simpa [Stage.calls, waits, answer] using trace)
    | some (.ok handle) => simp [Stage.child?, answer, Except.toOption] at nothing
    | some (.error e) =>
      have first : stage.calls = [.spawn stage.command.argv (.error e)] := by
        simp [Stage.calls, waits, answer]
      rw [List.flatMap_cons, first] at trace
      cases trace with
      | spawn answered after =>
        obtain ⟨_, _, rfl⟩ | ⟨no, _⟩ := spawn_cases answered
        · exact ih others after
        · cases no

/-- A child that has been awaited already is gone. -/
theorem gone_of_already_awaited (plain : p.Plain) (reachable : Reachable p s)
    (recounts : a.Recounts (facility p) chain ⟨s, sink⟩) (stages : done <+: a.stages)
    (awaited : AlreadyAwaited done) (last : lastStarted done = some h)
    (trace : (facility p).Trace s (done.flatMap Stage.calls) t) : t.Gone h := by
  obtain ⟨front, stage, rest, rfl, some_, failed⟩ := awaited
  obtain ⟨more, all⟩ := stages
  rw [lastStarted_append_of_failed failed] at last
  have pause := recounts.course.pause (all.symm.trans (List.append_assoc front _ more))
  obtain ⟨h', awaited, waits⟩ := pause.exists_of_ne_nil some_
  have same := (due_eq_some_iff.1 awaited).2
  rw [List.nil_append, last] at same
  cases same
  rw [List.flatMap_append, List.flatMap_cons, Stage.calls, List.append_assoc] at trace
  obtain ⟨u, before, after⟩ := trace.split
  obtain ⟨v, waiting, rest⟩ := after.split
  exact gone_of_trace plain rest (gone_after_wait plain reachable before last waits waiting)

/-- A child that has not been awaited yet is still outstanding. -/
theorem outstanding_of_not_awaited (plain : p.Plain) (not : ¬ AlreadyAwaited done)
    (last : lastStarted done = some h)
    (trace : (facility p).Trace s (done.flatMap Stage.calls) t) : h ∈ t.handles := by
  obtain ⟨front, stage, rest, rfl, answer, failed⟩ := exists_of_lastStarted last
  have unwaited : ∀ later ∈ rest, later.waits = [] ∧ later.child? = none := by
    intro later mem
    refine ⟨Classical.byContradiction fun waits => not ?_, failed later mem⟩
    obtain ⟨before, after, rfl⟩ := List.append_of_mem mem
    refine ⟨front ++ stage :: before, later, after, by simp, waits, fun other inside => ?_⟩
    exact failed other (List.mem_append_right before inside)
  have calls : (front ++ stage :: rest).flatMap Stage.calls =
      ((front.flatMap Stage.calls ++ stage.waits) ++ [.spawn stage.command.argv (.ok h)]) ++
        rest.flatMap Stage.calls := by
    simp [Stage.calls, answer]
  rw [calls] at trace
  obtain ⟨u, started, after⟩ := trace.split
  rw [state_eq_of_failed unwaited after]
  exact (youngest_of_trace plain started).2

/-- When a run waits, and for whom. Let a plain scripted facility be in any state that it
can come to. Each wait of a run is for the child that the run started last, and that child
is outstanding just if it has not been awaited already. The first wait for it goes past
other outstanding children and ends with its end. A later wait for it reaps all children
that are outstanding, those of earlier lines too, and is given up because none is left. -/
theorem outstanding_iff_not_awaited (plain : p.Plain) (reachable : Reachable p s)
    (chain : Chain) (sink : Sink) :
    ∃ a : Account, a.Recounts (facility p) chain ⟨s, sink⟩ ∧
      ∀ done calls, a.PausesAfter done calls → calls ≠ [] →
        ∃ h t u, lastStarted done = some h ∧ WaitsFor h calls ∧
          (facility p).Trace s (done.flatMap Stage.calls) t ∧ (facility p).Trace t calls u ∧
          (h ∈ t.handles ↔ ¬ AlreadyAwaited done) ∧
          (¬ AlreadyAwaited done → ∃ others : List Handle,
            calls = others.map (fun r => .wait (.ok r)) ++ [.wait (.ok h)]) ∧
          (AlreadyAwaited done → ∃ others : List Handle,
            calls = others.map (fun r => .wait (.ok r)) ++ [.wait (.error .noChildren)] ∧
              others.Perm t.handles ∧ u.outstanding = []) := by
  obtain ⟨a, recounts⟩ := exists_recounts (facility p) chain ⟨s, sink⟩
  refine ⟨a, recounts, fun done calls pause asked => ?_⟩
  obtain ⟨h, last, waits⟩ := recounts.last_of_pause pause asked
  obtain ⟨t, u, before, waiting⟩ := recounts.trace_of_pause pause
  have ended : AlreadyAwaited done → h ∉ t.handles := fun awaited =>
    (gone_of_already_awaited plain reachable recounts pause.isPrefix awaited last before).ended
  have outstanding : ¬ AlreadyAwaited done → h ∈ t.handles := fun not =>
    outstanding_of_not_awaited plain not last before
  refine ⟨h, t, u, last, waits, before, waiting,
    ⟨fun mem awaited => ended awaited mem, outstanding⟩, ?_, ?_⟩
  · intro not
    obtain ⟨others, same, _⟩ := wait_of_outstanding plain waits waiting (outstanding not)
    exact ⟨others, same⟩
  · intro awaited
    exact wait_of_not_outstanding plain waits waiting (ended awaited)

/-- After `x &` the line `a ; bad ; c` waits for `a` as long as `a` is outstanding, and once
more if `bad` cannot be started. -/
theorem outstanding_until_awaited :
    let p : Plan := { missing := ["bad"] }
    let s : State := (spawn p ["x"] { finishing := [2, 3] }).2
    ∃ a : Account, a.Recounts (facility p) (ofLine "a ; bad ; c") ⟨s, .boundless⟩ ∧
      ∀ done calls, a.PausesAfter done calls → calls ≠ [] →
        ∃ h t, lastStarted done = some h ∧ (facility p).Trace s (done.flatMap Stage.calls) t ∧
          (h ∈ t.handles ↔ ¬ AlreadyAwaited done) := by
  intro p s
  have plain : p.Plain := plain_of_defaults rfl rfl
  have leftover : (facility p).Trace { finishing := [2, 3] }
      [.spawn ["x"] (.ok (.ofIndex 0))] s := .spawn rfl (.nil _)
  have reachable := (reachable_initial p [2, 3]).trace leftover
  obtain ⟨a, recounts, waits⟩ :=
    outstanding_iff_not_awaited plain reachable (ofLine "a ; bad ; c") .boundless
  refine ⟨a, recounts, fun done calls pause asked => ?_⟩
  obtain ⟨h, t, _, last, _, before, _, awaited, _⟩ := waits done calls pause asked
  exact ⟨h, t, last, before, awaited⟩

end

/-! ## A wait for a child that has ended -/

/-- The account of `a ; bad ; c` if `bad` cannot be started and a child of an earlier line
is outstanding. -/
def repeatedWait : Account where
  stages := [
    ⟨⟨["a"], some .sequential⟩, [], some (.ok (.ofIndex 1))⟩,
    ⟨⟨["bad"], some .sequential⟩, [.wait (.ok (.ofIndex 1))], some (.error .notFound)⟩,
    ⟨⟨["c"], none⟩, [.wait (.ok (.ofIndex 0)), .wait (.error .noChildren)],
      some (.ok (.ofIndex 2))⟩]
  final := [.wait (.ok (.ofIndex 2))]

theorem course_repeatedWait :
    Course false [] [⟨["a"], some .sequential⟩, ⟨["bad"], some .sequential⟩, ⟨["c"], none⟩]
      (.ok .completed) repeatedWait := by
  have beforeA : Pause none [] := rfl
  have beforeBad : Pause (some (.ofIndex 1)) [.wait (.ok (.ofIndex 1))] := .ended
  have beforeC : Pause (some (.ofIndex 1))
      [.wait (.ok (.ofIndex 0)), .wait (.error .noChildren)] := .other (by decide) (.failed _)
  have atEnd : Pause (some (.ofIndex 2)) [.wait (.ok (.ofIndex 2))] := .ended
  exact .next beforeA rfl (.next beforeBad rfl (.next beforeC rfl (.finish atEnd)))

/-- Not every wait is for an outstanding child. If `x &` leaves a child behind and `bad`
cannot be started, then before `c` the line `a ; bad ; c` waits for `a` once more, although
`a` has ended. -/
theorem waits_for_ended_child :
    ¬ ∀ (p : Plan) (s : Session State) (lines : List String) (line : String), p.Plain →
      Reachable p s.facility →
      let w := (Activity.stateAfter (Activity.series (Session.execute (facility p)) lines s)
        s).toWorld
      ∀ a : Account, a.Recounts (facility p) (ofLine line) w →
      ∀ done calls h t, a.PausesAfter done calls → calls ≠ [] → lastStarted done = some h →
        (facility p).Trace w.facility (done.flatMap Stage.calls) t → h ∈ t.handles := by
  intro claim
  let p : Plan := { missing := ["bad"] }
  let s : Session State := { facility := { finishing := [2, 3] } }
  let w : World State :=
    ⟨(spawn p ["x"] s.facility).2, { Sink.boundless with accepted := 2, flushes := 1 }⟩
  have plain : p.Plain := plain_of_defaults rfl rfl
  have claim := claim p s ["x &"] "a ; bad ; c" plain (reachable_initial p [2, 3])
  have left : (Activity.stateAfter (Activity.series (Session.execute (facility p)) ["x &"] s)
      s).toWorld = w := by cbv
  rw [left] at claim
  have calls : ((ofLine "a ; bad ; c").run (facility p) w).journal.calls = repeatedWait.calls := by
    cbv
  have result : ((ofLine "a ; bad ; c").run (facility p) w).result = .ok .completed := by cbv
  have recounts : repeatedWait.Recounts (facility p) (ofLine "a ; bad ; c") w := by
    refine ⟨calls, calls ▸ faithful_run _ _, ?_⟩
    rw [result]
    exact course_repeatedWait
  have outstanding := claim repeatedWait recounts (repeatedWait.stages.take 2) _ (.ofIndex 1) _
    (.inl ⟨_, _, rfl, rfl⟩) (List.cons_ne_nil _ _) rfl
    (.spawn rfl (.wait rfl (.spawn rfl (.nil _))))
  exact absurd outstanding (by decide)

end CommandChains.Chain
