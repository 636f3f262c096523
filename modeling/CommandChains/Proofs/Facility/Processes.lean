import CommandChains.Machine.Process
import CommandChains.Proofs.Facility.Children
import CommandChains.Proofs.Session.Children

/-!
# Processes and their ends

The processes of a machine are accounted for by the calls that were answered, whatever the
programs do. No two processes have the same handle. A wait names a process that nobody has
heard the end of, and of these one that ends first; it fails only if there is none. So no
process is named twice, and those that were never named are the ones that still run.
-/

namespace CommandChains

/-- The handle that a wait has named. -/
def Call.named? : Call → Option Handle
  | .wait (.ok handle) => some handle
  | _ => none

namespace Machine.Host

variable {programs : Start} {h t : Host} {calls : List Call}

/-- The processes of a host, if waits have named these handles so far. -/
structure Orderly (h : Host) (named : List Handle) : Prop where
  handles : h.history.map Process.handle = (List.range h.history.length).map Handle.ofIndex
  kept : (h.history.map Process.handle).Perm (h.running.map Process.handle ++ named)

theorem Orderly.nodup {named : List Handle} (orderly : h.Orderly named) :
    (h.running.map Process.handle ++ named).Nodup := by
  refine orderly.kept.nodup ?_
  rw [orderly.handles]
  refine List.Pairwise.map _ (fun i j different same => different ?_) List.nodup_range
  exact Nat.succ.inj (congrArg Handle.number same)

/-! ## Single calls -/

/-- A start is refused and changes no process, or there is one process more, and its handle
is the next one. -/
theorem spawn_cases {argv : List String} {answer : Except StartError Handle}
    (answered : spawn programs argv h = (answer, t)) :
    (∃ e, answer = .error e ∧ t = h) ∨
      ∃ p : Process, p.handle = .ofIndex h.history.length ∧ answer = .ok p.handle ∧
        t.history = h.history ++ [p] ∧ t.running = h.running ++ [p] := by
  unfold spawn at answered
  split at answered
  · next e _ =>
    cases answered
    exact .inl ⟨e, rfl, rfl⟩
  · next done _ =>
    cases answered
    exact .inr ⟨_, rfl, rfl, rfl, rfl⟩

theorem earlier_le (p q : Process) : (earlier p q).ends ≤ p.ends ∧ (earlier p q).ends ≤ q.ends := by
  unfold earlier
  split <;> omega

theorem foldl_earlier_le (p : Process) (rest : List Process) :
    ∀ q ∈ p :: rest, (rest.foldl earlier p).ends ≤ q.ends := by
  induction rest generalizing p with
  | nil => simp
  | cons r rest ih =>
    have first := earlier_le p r
    intro q mem
    have least := ih (earlier p r)
    rw [List.forall_mem_cons] at least
    rw [List.foldl_cons]
    rcases List.mem_cons.1 mem with rfl | mem
    · exact Nat.le_trans least.1 first.1
    · rcases List.mem_cons.1 mem with rfl | mem
      · exact Nat.le_trans least.1 first.2
      · exact least.2 q mem

/-- A wait names one of the running processes that end first, or there is none. -/
theorem waitAny_cases {answer : Except WaitError Handle} (answered : waitAny h = (answer, t)) :
    (h.running = [] ∧ answer = .error .noChildren ∧ t = h) ∨
      ∃ p ∈ h.running, (∀ q ∈ h.running, p.ends ≤ q.ends) ∧ answer = .ok p.handle ∧
        t = h.finish p := by
  unfold waitAny at answered
  cases running : h.running with
  | nil =>
    rw [running] at answered
    cases answered
    exact .inl ⟨rfl, rfl, rfl⟩
  | cons p rest =>
    rw [running] at answered
    cases answered
    exact .inr ⟨_, foldl_earlier_mem p rest, foldl_earlier_le p rest, rfl, rfl⟩

theorem Orderly.spawn {named : List Handle} (orderly : h.Orderly named) {argv : List String}
    {answer : Except StartError Handle} (answered : spawn programs argv h = (answer, t)) :
    t.Orderly named ∧ t.history.map Process.handle =
      h.history.map Process.handle ++ (Call.spawn argv answer).started?.toList := by
  obtain ⟨e, rfl, rfl⟩ | ⟨p, handle, rfl, history, running⟩ := spawn_cases answered
  · exact ⟨orderly, (List.append_nil _).symm⟩
  · refine ⟨⟨?_, ?_⟩, by simp [history, Call.started?]⟩
    · simp [history, orderly.handles, handle, List.range_succ]
    · rw [history, running, List.map_append, List.map_append, List.append_assoc]
      refine (orderly.kept.append_right _).trans ?_
      rw [List.append_assoc]
      exact (List.perm_append_comm).append_left _

theorem Orderly.waitAny {named : List Handle} (orderly : h.Orderly named)
    {answer : Except WaitError Handle} (answered : waitAny h = (answer, t)) :
    t.Orderly (named ++ (Call.wait answer).named?.toList) ∧ t.history = h.history := by
  obtain ⟨_, rfl, rfl⟩ | ⟨p, mem, _, rfl, rfl⟩ := waitAny_cases answered
  · exact ⟨⟨orderly.handles, by simpa [Call.named?] using orderly.kept⟩, rfl⟩
  · refine ⟨⟨orderly.handles, orderly.kept.trans ?_⟩, rfl⟩
    have taken : (h.running.map Process.handle).Perm
        (p.handle :: (h.running.erase p).map Process.handle) :=
      (List.perm_cons_erase mem).map Process.handle
    refine (taken.append_right named).trans ?_
    change ((p.handle :: (h.running.erase p).map Process.handle) ++ named).Perm
      ((h.running.erase p).map Process.handle ++ (named ++ [p.handle]))
    rw [List.cons_append, ← List.append_assoc]
    exact (List.perm_append_singleton _ _).symm

/-! ## Runs -/

theorem Orderly.trace {named : List Handle} (orderly : h.Orderly named)
    (trace : (processes programs).Trace h calls t) :
    t.Orderly (named ++ calls.filterMap Call.named?) ∧ t.history.map Process.handle =
      h.history.map Process.handle ++ calls.filterMap Call.started? := by
  induction trace generalizing named with
  | nil => simpa using orderly
  | @spawn s u t argv answer calls answered _ ih =>
    obtain ⟨after, grown⟩ := orderly.spawn answered
    obtain ⟨last, history⟩ := ih after
    rw [List.filterMap_cons_none rfl, history, grown]
    refine ⟨last, ?_⟩
    cases asked : (Call.spawn argv answer).started? <;> simp [asked]
  | @wait s u t answer calls answered _ ih =>
    obtain ⟨after, same⟩ := orderly.waitAny answered
    obtain ⟨last, history⟩ := ih after
    rw [List.filterMap_cons_none (f := Call.started?) rfl, history, same]
    refine ⟨?_, rfl⟩
    cases asked : (Call.wait answer).named? <;> simpa [asked] using last

/-- The processes that calls from the beginning on account for: they have handles of their own,
in the order of their starts; no wait names a process that has been named before; and those that
were started are the ones that still run and the ones that were named. -/
theorem accounted_of_trace (fresh : h.history = [] ∧ h.running = [])
    (trace : (processes programs).Trace h calls t) :
    let started := calls.filterMap Call.started?
    let named := calls.filterMap Call.named?
    started = (List.range started.length).map Handle.ofIndex ∧ named.Nodup ∧
      started.Perm (t.running.map Process.handle ++ named) := by
  have orderly : h.Orderly [] := ⟨by simp [fresh.1], by simp [fresh.1, fresh.2]⟩
  obtain ⟨last, history⟩ := orderly.trace trace
  rw [fresh.1, List.map_nil, List.nil_append] at history
  have number : t.history.length = (calls.filterMap Call.started?).length := by
    simpa using congrArg List.length history
  refine ⟨?_, (List.nodup_append.1 last.nodup).2.1, history ▸ last.kept⟩
  rw [← number, ← last.handles, history]

end Machine.Host

open Machine Host in
/-- Whatever a session on processes is asked, and whatever the programs do, its children have
handles of their own, no child is reaped twice, and what was started has been reaped or still
runs. -/
theorem Session.processes_accounted (programs : Start) (h : Host)
    (fresh : h.history = [] ∧ h.running = []) (sink : Sink) (counter : Nat) (terminated : Bool)
    (steps : List Session.Step) :
    let s : Session Host := { facility := h, sink, counter, terminated }
    let runs := Activity.series (Session.Step.perform (processes programs)) steps s
    let calls := runs.flatMap fun r => r.journal.calls
    let started := calls.filterMap Call.started?
    let named := calls.filterMap Call.named?
    started = (List.range started.length).map Handle.ofIndex ∧ named.Nodup ∧
      started.Perm
        ((Activity.stateAfter runs s).facility.running.map Process.handle ++ named) := by
  intro s runs
  have trace : (processes programs).Trace h (runs.flatMap fun r => r.journal.calls)
      (Activity.stateAfter runs s).facility :=
    Activity.trace_of_series (Session.faithful_perform (processes programs)) steps s
  exact accounted_of_trace fresh trace

end CommandChains
