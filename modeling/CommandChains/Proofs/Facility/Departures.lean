import Mathlib.Data.List.Nodup
import CommandChains.Proofs.Facility.Children

/-!
# The order in which children end

As long as nobody is started and no answer is set, the waits of a scripted facility reap its
outstanding children in an order that is settled beforehand: `State.departures`. Each wait
takes the next departure, and what is left are the departures of the state after it.

A wait for a handle takes departures up to the first that has the handle. If none has it, all
of them are taken, and the wait is given up because nobody is left. Both follow from one lemma
about departures that do not have the handle (`await_past`), by induction on them.
-/

namespace CommandChains.Scripted

/-- None of the `k` waits after the first `n` has its answer set. -/
def Plan.Unset (p : Plan) (n k : Nat) : Prop :=
  ∀ i, n < i → i ≤ n + k → p.waits.lookup i = none

namespace Plan.Unset

variable {p : Plan} {n k : Nat}

theorem first (unset : p.Unset n (k + 1)) : p.waits.lookup (n + 1) = none :=
  unset (n + 1) (by omega) (by omega)

theorem rest (unset : p.Unset n (k + 1)) : p.Unset (n + 1) k :=
  fun i after before => unset i (by omega) (by omega)

theorem mono {m : Nat} (unset : p.Unset n k) (le : m ≤ k) : p.Unset n m :=
  fun i after before => unset i after (by omega)

end Plan.Unset

namespace State

/-! ## Departures -/

theorem length_reap_lt {s : State} {child : Child} (next : s.next? = some child) :
    (s.asked.reap child).outstanding.length < s.outstanding.length := by
  have mem := mem_of_next? next
  have some_ := List.length_pos_of_mem mem
  rw [reap_outstanding, asked, List.length_erase_of_mem mem]
  omega

/-- The outstanding children in the order in which they end at one wait after the other. -/
def departures (s : State) : List Child :=
  match next : s.next? with
  | none => []
  | some child =>
    have : (s.asked.reap child).outstanding.length < s.outstanding.length := length_reap_lt next
    child :: departures (s.asked.reap child)
termination_by s.outstanding.length

/-- The state after these children have ended, each at a wait. -/
def reapEach (s : State) (children : List Child) : State :=
  children.foldl (fun s child => s.asked.reap child) s

section

variable {s : State} {child : Child} {taken rest : List Child}

theorem departures_of_next (next : s.next? = some child) :
    s.departures = child :: (s.asked.reap child).departures := by
  rw [departures]
  split
  · next nobody => simp [next] at nobody
  · next found =>
    rw [next] at found
    cases found
    rfl

theorem departures_of_nobody (nobody : s.next? = none) : s.departures = [] := by
  rw [departures]
  split
  · rfl
  · next found => simp [nobody] at found

/-- The first departure is the child that ends next. -/
theorem departures_eq_cons (split : s.departures = child :: rest) :
    s.next? = some child ∧ (s.asked.reap child).departures = rest := by
  cases next : s.next? with
  | none =>
    rw [departures_of_nobody next] at split
    cases split
  | some first =>
    rw [departures_of_next next] at split
    cases split
    exact ⟨rfl, rfl⟩

theorem next?_of_departures_eq_nil (none_ : s.departures = []) : s.next? = none := by
  cases next : s.next? with
  | none => rfl
  | some child =>
    rw [departures_of_next next] at none_
    cases none_

/-- Exactly the outstanding children depart. -/
theorem departures_perm (s : State) : s.departures.Perm s.outstanding := by
  fun_induction departures s with
  | case1 s nobody => rw [next?_eq_none_iff.1 nobody]
  | case2 s child next shorter ih =>
    exact (ih.cons child).trans (List.perm_cons_erase (mem_of_next? next)).symm

/-- What is left after some departures is the rest of them. -/
theorem departures_reapEach (split : s.departures = taken ++ rest) :
    (s.reapEach taken).departures = rest := by
  induction taken generalizing s with
  | nil => exact split
  | cons child more ih => exact ih (departures_eq_cons split).2

theorem reaped_reapEach (s : State) (children : List Child) :
    (s.reapEach children).reaped = s.reaped ++ children := by
  induction children generalizing s with
  | nil => exact (List.append_nil _).symm
  | cons child rest ih =>
    have later := ih (s.asked.reap child)
    rwa [reap_reaped, List.append_assoc] at later

theorem outstanding_reapEach (s : State) (children : List Child) :
    (s.reapEach children).outstanding = s.outstanding.diff children := by
  induction children generalizing s with
  | nil => rfl
  | cons child rest ih =>
    have later := ih (s.asked.reap child)
    rwa [reap_outstanding, ← List.diff_cons] at later

theorem outstanding_of_all_departed (s : State) :
    (s.reapEach s.departures).outstanding = [] := by
  have none_ := departures_reapEach (List.append_nil s.departures).symm
  exact next?_eq_none_iff.1 (next?_of_departures_eq_nil none_)

theorem waits_reapEach (s : State) (children : List Child) :
    (s.reapEach children).waits = s.waits + children.length := by
  induction children generalizing s with
  | nil => rfl
  | cons child rest ih =>
    have one : (s.asked.reap child).waits = s.waits + 1 := rfl
    have later := ih (s.asked.reap child)
    rw [one, Nat.add_right_comm] at later
    exact later

end

end State

section

variable {p : Plan} {s t u : State} {child target : Child} {taken others rest : List Child}
variable {calls : List Call} {h : Handle}

/-! ## Waits for anybody -/

/-- The calls of waits that are the ends of these children. -/
def ends (children : List Child) : List Call :=
  children.map fun child => .wait (.ok child.handle)

theorem waitAny_of_departures (unset : p.waits.lookup (s.waits + 1) = none)
    (split : s.departures = child :: rest) :
    waitAny p s = (.ok child.handle, s.asked.reap child) := by
  rw [waitAny_of_unset unset, (State.departures_eq_cons split).1]
  rfl

/-- A wait fails when no departure is left. -/
theorem waitAny_of_no_departures (unset : p.waits.lookup (s.waits + 1) = none)
    (none_ : s.departures = []) : waitAny p s = (.error .noChildren, s.asked) := by
  rw [waitAny_of_unset unset, State.next?_of_departures_eq_nil none_]
  rfl

/-- Waits reap one departure after the other. -/
theorem trace_of_departures (unset : p.Unset s.waits taken.length)
    (split : s.departures = taken ++ rest) :
    (facility p).Trace s (ends taken) (s.reapEach taken) := by
  induction taken generalizing s with
  | nil => exact .nil s
  | cons child more ih =>
    refine .wait (waitAny_of_departures unset.first split) ?_
    exact ih unset.rest (State.departures_eq_cons split).2

/-- Waits reap all departures until nobody is outstanding. -/
theorem trace_of_all_departures (unset : p.Unset s.waits s.departures.length) :
    ∃ t, (facility p).Trace s (ends s.departures) t ∧
      t.reaped = s.reaped ++ s.departures ∧ t.outstanding = [] := by
  have all := (List.append_nil s.departures).symm
  exact ⟨_, trace_of_departures unset all, State.reaped_reapEach s _,
    s.outstanding_of_all_departed⟩

/-! ## Waits for one handle -/

/-- What a wait does about children that it does not wait for. -/
def discards (h : Handle) (children : List Child) : Journal :=
  children.flatMap fun child => [.waited (.ok child.handle), .logged (.discarded h child.handle)]

theorem calls_discards (h : Handle) (children : List Child) :
    (discards h children).calls = ends children := by
  induction children with
  | nil => rfl
  | cons child rest ih =>
    rw [discards, List.flatMap_cons, Journal.calls_append]
    exact congrArg (.wait (.ok child.handle) :: ·) ih

/-- A wait discards departures that do not have its handle, and then goes on as from the state
after them. -/
theorem await_past {ε : Type} (sink : Sink) (unset : p.Unset s.waits others.length)
    (split : s.departures = others ++ rest) (differ : ∀ child ∈ others, child.handle ≠ h) :
    (await (facility p) h ⟨s, sink⟩ : Run _ ε _) =
      let left : Run _ ε _ := await (facility p) h ⟨s.reapEach others, sink⟩
      ⟨left.result, left.state, discards h others ++ left.journal⟩ := by
  induction others generalizing s with
  | nil => rfl
  | cons child more ih =>
    obtain ⟨other, differ⟩ := List.forall_mem_cons.1 differ
    have answered : (facility p).waitAny s = _ := waitAny_of_departures unset.first split
    rw [await_of_other (w := ⟨s, sink⟩) answered other]
    have later := ih unset.rest (State.departures_eq_cons split).2 differ
    dsimp only at later ⊢
    rw [later]
    rfl

/-- A wait ends with the first departure that has its handle. -/
theorem await_of_departure {ε : Type} (sink : Sink) (unset : p.Unset s.waits (others.length + 1))
    (split : s.departures = others ++ target :: rest)
    (differ : ∀ child ∈ others, child.handle ≠ h) (same : target.handle = h) :
    (await (facility p) h ⟨s, sink⟩ : Run _ ε _) =
      ⟨.ok (.ok ()), ⟨s.reapEach (others ++ [target]), sink⟩,
        discards h others ++ [.waited (.ok h), .logged (.awaited h)]⟩ := by
  subst same
  have next : p.waits.lookup ((s.reapEach others).waits + 1) = none := by
    rw [State.waits_reapEach]
    exact unset _ (by omega) (by omega)
  have answered : (facility p).waitAny (s.reapEach others) = _ :=
    waitAny_of_departures next (State.departures_reapEach split)
  rw [await_past sink (unset.mono (Nat.le_succ _)) split differ,
    await_of_same (w := ⟨s.reapEach others, sink⟩) answered, State.reapEach, State.reapEach,
    List.foldl_append]
  rfl

/-- A wait for a handle that no departure has reaps all of them and is given up. -/
theorem await_of_no_departure {ε : Type} (sink : Sink)
    (unset : p.Unset s.waits (s.departures.length + 1))
    (differ : ∀ child ∈ s.departures, child.handle ≠ h) :
    (await (facility p) h ⟨s, sink⟩ : Run _ ε _) =
      ⟨.ok (.error .noChildren), ⟨(s.reapEach s.departures).asked, sink⟩,
        discards h s.departures ++ [.waited (.error .noChildren)]⟩ := by
  have all := (List.append_nil s.departures).symm
  have next : p.waits.lookup ((s.reapEach s.departures).waits + 1) = none := by
    rw [State.waits_reapEach]
    exact unset _ (by omega) (by omega)
  have answered : (facility p).waitAny (s.reapEach s.departures) = _ :=
    waitAny_of_no_departures next (State.departures_reapEach all)
  rw [await_past sink (unset.mono (Nat.le_succ _)) all differ,
    await_of_error (w := ⟨s.reapEach s.departures, sink⟩) answered]

theorem exists_first_of_handle {children : List Child}
    (some_ : ∃ child ∈ children, child.handle = h) :
    ∃ others target rest, children = others ++ target :: rest ∧
      (∀ child ∈ others, child.handle ≠ h) ∧ target.handle = h := by
  have found : (children.find? fun child => child.handle = h).isSome := by simpa using some_
  obtain ⟨target, found⟩ := Option.isSome_iff_exists.1 found
  obtain ⟨same, others, rest, split, differ⟩ := List.find?_eq_some_iff_append.1 found
  exact ⟨others, target, rest, split, by simpa using differ, by simpa using same⟩

/-! ## Afterwards -/

theorem State.Orderly.nodup (orderly : s.Orderly) : (s.outstanding ++ s.reaped).Nodup :=
  .of_map Child.ordinal orderly.nodup_all_ordinals

/-- Whoever has been reaped is not reaped again, whatever is asked. -/
theorem reaped_of_trace (orderly : s.Orderly) (trace : (facility p).Trace s calls t) :
    ∃ later, t.reaped = s.reaped ++ later ∧ later.map Child.handle = p.reaps s.waits calls ∧
      ∀ child ∈ s.reaped, child ∉ later := by
  have grown : s.reaped <+: t.reaped := by
    refine kept_of_trace (P := fun t => s.reaped <+: t.reaped) trace ?_ ?_ ?_ (List.prefix_refl _)
    · exact fun _ grown => grown
    · exact fun grown => grown
    · exact fun _ grown => grown.trans (List.prefix_append _ _)
  obtain ⟨later, reaped⟩ := grown
  refine ⟨later, reaped.symm, ?_, fun child before after => ?_⟩
  · have handles := (handles_of_trace trace).2.2
    rw [← reaped, List.map_append] at handles
    exact List.append_cancel_left handles
  · have nodup := (List.nodup_append.1 (orderly_of_trace trace orderly).nodup).2.1
    rw [← reaped] at nodup
    exact (List.nodup_append.1 nodup).2.2 _ before _ after rfl

end

/-- What a wait for one handle does. Take any plan, any order in which children are still to
end, and any children that are in order, as they always are (`Reachable.orderly`), with handles
that may repeat; and let no answer be set for the waits to come. Waits that go on until nobody is
outstanding reap the outstanding children in the order `s.departures`. If some of them has the
handle, the wait succeeds. It has then reaped the departures through the first that has the
handle, and nobody else, and the other children are outstanding as they were. Whatever is asked
of the facility afterwards, the children that end are none of those that have been reaped. If no
departure has the handle, all of them are reaped, nobody is outstanding any more, and the wait
fails for want of children. -/
theorem await_effect {ε : Type} (p : Plan) (s : State) (h : Handle) (sink : Sink)
    (orderly : s.Orderly) (unset : p.Unset s.waits (s.outstanding.length + 1)) :
    let run : Run (World State) ε _ := await (facility p) h ⟨s, sink⟩
    let t := run.state.facility
    (∃ u, (facility p).Trace s (ends s.departures) u ∧
      u.reaped = s.reaped ++ s.departures ∧ u.outstanding = []) ∧
    ((∃ child ∈ s.departures, child.handle = h) →
      ∃ others target rest, s.departures = others ++ target :: rest ∧
        (∀ child ∈ others, child.handle ≠ h) ∧ target.handle = h ∧
        run.result = .ok (.ok ()) ∧ run.journal.calls = ends (others ++ [target]) ∧
        t.reaped = s.reaped ++ (others ++ [target]) ∧
        t.outstanding = s.outstanding.filter (fun child => child ∉ others ++ [target]) ∧
        ∀ calls u, (facility p).Trace t calls u →
          ∃ later, u.reaped = t.reaped ++ later ∧ later.map Child.handle = p.reaps t.waits calls ∧
            ∀ child ∈ t.reaped, child ∉ later) ∧
    ((∀ child ∈ s.departures, child.handle ≠ h) →
      run.result = .ok (.error .noChildren) ∧
        run.journal.calls = ends s.departures ++ [.wait (.error .noChildren)] ∧
        t.reaped = s.reaped ++ s.departures ∧ t.outstanding = []) := by
  intro run t
  have number := s.departures_perm.length_eq
  rw [← number] at unset
  refine ⟨trace_of_all_departures (unset.mono (Nat.le_succ _)), fun some_ => ?_, fun differ => ?_⟩
  · obtain ⟨others, target, rest, split, differ, same⟩ := exists_first_of_handle some_
    have within_ : others.length + 1 ≤ s.departures.length + 1 := by
      rw [split, List.length_append]
      omega
    have ran : run = _ := await_of_departure sink (unset.mono within_) split differ same
    have reached : t = s.reapEach (others ++ [target]) := congrArg (fun r => r.state.facility) ran
    have trace : (facility p).Trace s run.journal.calls t :=
      faithful_await (facility p) h ⟨s, sink⟩
    refine ⟨others, target, rest, split, differ, same, congrArg Run.result ran, ?_, ?_, ?_, ?_⟩
    · rw [ran, Journal.calls_append, calls_discards, ends, ends, List.map_append, ← same]
      rfl
    · rw [reached, State.reaped_reapEach]
    · have distinct := (List.nodup_append.1 orderly.nodup).1
      rw [reached, State.outstanding_reapEach, distinct.sdiff_eq_filter]
    · exact fun calls u later => reaped_of_trace (orderly_of_trace trace orderly) later
  · have ran : run = _ := await_of_no_departure sink unset differ
    have drained : t = (s.reapEach s.departures).asked := congrArg (fun r => r.state.facility) ran
    refine ⟨congrArg Run.result ran, ?_, ?_, ?_⟩
    · rw [ran, Journal.calls_append, calls_discards]
      rfl
    · rw [drained]
      exact State.reaped_reapEach s _
    · rw [drained]
      exact s.outstanding_of_all_departed

/-- Four children, three of which have one handle, and an order of ends that names strangers. The
wait for the third child reaps the fourth on its way, and a wait for nobody reaps them all. -/
theorem await_effect_among_namesakes :
    let child (ordinal number : Nat) : Child := ⟨ordinal, .ofIndex number, "c"⟩
    let s : State :=
      { started := [child 1 4, child 2 4, child 3 2, child 4 4]
        outstanding := [child 2 4, child 3 2, child 4 4], reaped := [child 1 4]
        finishing := [9, 4, 1, 3], waits := 1 }
    let wait (h : Handle) : Run (World State) Empty _ := await (facility {}) h ⟨s, .boundless⟩
    s.Orderly ∧ Plan.Unset {} s.waits (s.outstanding.length + 1) ∧
      s.departures = [child 4 4, child 3 2, child 2 4] ∧
      (wait (.ofIndex 2)).result = .ok (.ok ()) ∧
      (wait (.ofIndex 2)).state.facility.reaped = [child 1 4, child 4 4, child 3 2] ∧
      (wait (.ofIndex 2)).state.facility.outstanding = [child 2 4] ∧
      (wait (.ofIndex 0)).result = .ok (.error .noChildren) ∧
      (wait (.ofIndex 0)).state.facility.reaped = [child 1 4, child 4 4, child 3 2, child 2 4] := by
  intro child s wait
  have orderly : s.Orderly := ⟨by decide, by decide, by decide⟩
  have unset : Plan.Unset {} s.waits (s.outstanding.length + 1) := fun _ _ _ => rfl
  have departures : s.departures = [child 4 4, child 3 2, child 2 4] := by
    simp only [s, child]
    cbv
  obtain ⟨_, third, _⟩ := await_effect (ε := Empty) {} s (.ofIndex 2) .boundless orderly unset
  obtain ⟨_, _, nobody⟩ := await_effect (ε := Empty) {} s (.ofIndex 0) .boundless orderly unset
  rw [departures] at third nobody
  obtain ⟨others, target, rest, split, differ, same, result, _, reaped, outstanding, _⟩ :=
    third ⟨child 3 2, by decide, rfl⟩
  obtain ⟨failed, _, all, _⟩ := nobody (by decide)
  obtain ⟨rfl, rfl⟩ : others = [child 4 4] ∧ target = child 3 2 := by
    rcases others with _ | ⟨first, _ | ⟨second, more⟩⟩
    · cases split
      exact absurd same (by decide)
    · cases split
      exact ⟨rfl, rfl⟩
    · obtain ⟨_, later⟩ := List.cons_eq_cons.1 split
      obtain ⟨found, _⟩ := List.cons_eq_cons.1 later
      exact absurd (congrArg Child.handle found).symm (differ second (by simp))
  exact ⟨orderly, unset, departures, result, reaped, outstanding.trans (by decide), failed, all⟩

end CommandChains.Scripted
