import Mathlib.Data.List.Nodup
import Mathlib.Data.List.Perm.Basic
import CommandChains.Proofs.Facility.Departures

/-!
# The order in which children end, in one expression

Each wait looks through the finishing order anew, and both the order and the outstanding
children have changed since the wait before. All the same the whole sequence of ends can be
read off at once: first the children that the finishing order names, in the order in which it
first names them, and then the others, oldest first. What is left of the finishing order is
what it was, less the first mention of each child that it named.

One wait is enough to see this. The child that ends is the first of the sequence, the sequence
for the state afterwards is the rest, and the finishing order has lost the first mention of
the child, if there was one.
-/

namespace CommandChains.Scripted

/-- Some numbers in the order in which a finishing order takes them: those that it names, in
the order of the first mentions, and then the others as they stand. -/
def reapOrder (ordinals finishing : List Nat) : List Nat :=
  (finishing.filter fun n => n ∈ ordinals).eraseDups ++ ordinals.filter fun n => n ∉ finishing

/-- The first mention of one of the numbers is the beginning of the order. -/
theorem reapOrder_of_mention {before after ordinals : List Nat} {n : Nat}
    (strangers : ∀ m ∈ before, m ∉ ordinals) (mem : n ∈ ordinals) (distinct : ordinals.Nodup) :
    reapOrder ordinals (before ++ n :: after) =
      n :: reapOrder (ordinals.erase n) (before ++ after) := by
  have passed : before.filter (fun m => m ∈ ordinals) = [] := by
    simpa using strangers
  have still : before.filter (fun m => m ∈ ordinals.erase n) = [] := by
    simpa using fun m named inside => strangers m named (List.mem_of_mem_erase inside)
  have later : (after.filter fun m => m ∈ ordinals).filter (fun m => !m == n) =
      after.filter fun m => m ∈ ordinals.erase n := by
    rw [List.filter_filter]
    refine List.filter_congr fun m _ => ?_
    by_cases same : m = n <;> simp [same, distinct.mem_erase_iff]
  have others : ordinals.filter (fun m => m ∉ before ++ n :: after) =
      (ordinals.erase n).filter fun m => m ∉ before ++ after := by
    rw [distinct.erase_eq_filter, List.filter_filter]
    refine List.filter_congr fun m _ => ?_
    by_cases same : m = n <;> simp [same]
  rw [reapOrder, reapOrder, others, List.filter_append, List.filter_append, passed, still,
    List.nil_append, List.nil_append, List.filter_cons_of_pos (by simpa using mem),
    List.eraseDups_cons, later, List.cons_append]

/-- Where none of the numbers is mentioned, they stay as they stand. -/
theorem reapOrder_of_no_mention {ordinals finishing : List Nat}
    (strangers : ∀ m ∈ finishing, m ∉ ordinals) : reapOrder ordinals finishing = ordinals := by
  have none_ : finishing.filter (fun m => m ∈ ordinals) = [] := by
    simpa using strangers
  have all : ordinals.filter (fun m => m ∉ finishing) = ordinals :=
    List.filter_eq_self.2 fun m mem => by simpa using fun named => strangers m named mem
  rw [reapOrder, none_, all]
  rfl

namespace State

variable {s : State} {child : Child} {taken rest : List Child} {n : Nat}

/-- The numbers of the outstanding children, oldest first. -/
def ordinals (s : State) : List Nat :=
  s.outstanding.map Child.ordinal

theorem isOutstanding_iff : s.isOutstanding n = true ↔ n ∈ s.ordinals := by
  simp [isOutstanding, ordinals]

/-- The entry that decides who ends next is the first mention of an outstanding child. -/
theorem nextEntry?_eq_some_iff :
    s.nextEntry? = some n ↔ n ∈ s.ordinals ∧ ∃ before after,
      s.finishing = before ++ n :: after ∧ ∀ m ∈ before, m ∉ s.ordinals := by
  unfold nextEntry?
  simp [List.find?_eq_some_iff_append, ← isOutstanding_iff]

/-- No entry decides if the finishing order mentions no outstanding child. -/
theorem nextEntry?_eq_none_iff :
    s.nextEntry? = none ↔ ∀ m ∈ s.finishing, m ∉ s.ordinals := by
  unfold nextEntry?
  simp [← isOutstanding_iff]

/-- The child that the deciding entry names is found among the outstanding ones. -/
theorem exists_of_nextEntry? (entry : s.nextEntry? = some n) :
    ∃ child, s.outstanding.find? (fun c => c.ordinal == n) = some child ∧
      child.ordinal = n ∧ s.next? = some child := by
  have known : ∃ child ∈ s.outstanding, child.ordinal = n := by
    simpa [ordinals] using (nextEntry?_eq_some_iff.1 entry).1
  have found : (s.outstanding.find? fun c => c.ordinal == n).isSome := by
    simpa using known
  obtain ⟨child, found⟩ := Option.isSome_iff_exists.1 found
  have same : child.ordinal = n := by simpa using List.find?_some found
  refine ⟨child, found, same, ?_⟩
  rw [next?, entry]
  exact found

/-- The end of a child takes its first mention out of the finishing order, if there is one. -/
theorem finishing_reap (next : s.next? = some child) :
    (s.reap child).finishing = s.finishing.erase child.ordinal := by
  cases entry : s.nextEntry? with
  | some n =>
    obtain ⟨first, _, same, chosen⟩ := exists_of_nextEntry? entry
    rw [next] at chosen
    cases chosen
    rw [reap, entry, same]
  | none =>
    have inside : child.ordinal ∈ s.ordinals := List.mem_map_of_mem (mem_of_next? next)
    have unnamed : child.ordinal ∉ s.finishing := fun named =>
      nextEntry?_eq_none_iff.1 entry _ named inside
    rw [List.erase_of_not_mem unnamed, reap, entry]

/-- The end of a child takes its number out of the outstanding ones. -/
theorem ordinals_reap (distinct : s.ordinals.Nodup) (mem : child ∈ s.outstanding) :
    (s.reap child).ordinals = s.ordinals.erase child.ordinal := by
  have children : s.outstanding.Nodup := .of_map Child.ordinal distinct
  rw [distinct.erase_eq_filter, ordinals, ordinals, reap_outstanding, children.erase_eq_filter,
    List.filter_map]
  refine congrArg _ (List.filter_congr fun other inside => ?_)
  have apart : other.ordinal = child.ordinal ↔ other = child :=
    ⟨List.inj_on_of_nodup_map distinct inside mem, congrArg _⟩
  simp [bne, apart]

/-- The child that ends next is the first in the order, and the order of the others does not
change when it ends. -/
theorem reapOrder_of_next (distinct : s.ordinals.Nodup) (next : s.next? = some child) :
    reapOrder s.ordinals s.finishing =
      child.ordinal :: reapOrder (s.reap child).ordinals (s.reap child).finishing := by
  have mem := mem_of_next? next
  rw [ordinals_reap distinct mem, finishing_reap next]
  cases entry : s.nextEntry? with
  | some n =>
    obtain ⟨first, _, same, chosen⟩ := exists_of_nextEntry? entry
    rw [next] at chosen
    cases chosen
    subst same
    obtain ⟨inside, before, after, split, strangers⟩ := nextEntry?_eq_some_iff.1 entry
    have unnamed : child.ordinal ∉ before := fun named => strangers _ named inside
    rw [split, reapOrder_of_mention strangers inside distinct, List.erase_append_right _ unnamed,
      List.erase_cons_head]
  | none =>
    have strangers := nextEntry?_eq_none_iff.1 entry
    have oldest : s.outstanding.head? = some child := by
      rw [next?, entry] at next
      exact next
    obtain ⟨others, outstanding⟩ := List.head?_eq_some_iff.1 oldest
    have numbers : s.ordinals = child.ordinal :: others.map Child.ordinal := by
      rw [ordinals, outstanding]
      rfl
    have unnamed : child.ordinal ∉ s.finishing := fun named =>
      strangers _ named (List.mem_map_of_mem mem)
    rw [List.erase_of_not_mem unnamed, reapOrder_of_no_mention strangers, numbers,
      List.erase_cons_head, reapOrder_of_no_mention]
    intro m named inside
    exact strangers m named (numbers ▸ List.mem_cons_of_mem _ inside)

/-- The children depart in the order that can be read off beforehand. -/
theorem ordinals_departures (distinct : s.ordinals.Nodup) :
    s.departures.map Child.ordinal = reapOrder s.ordinals s.finishing := by
  fun_induction departures s with
  | case1 s nobody =>
    have none_ : s.ordinals = [] := congrArg (List.map Child.ordinal) (next?_eq_none_iff.1 nobody)
    simp [none_, reapOrder]
  | case2 s child next shorter ih =>
    have later : (s.reap child).ordinals.Nodup := by
      rw [ordinals_reap distinct (mem_of_next? next)]
      exact distinct.erase _
    rw [List.map_cons, ih later, reapOrder_of_next distinct next]
    rfl

/-- Departures take their first mentions out of the finishing order. -/
theorem finishing_reapEach (split : s.departures = taken ++ rest) :
    (s.reapEach taken).finishing = s.finishing.diff (taken.map Child.ordinal) := by
  induction taken generalizing s with
  | nil => rfl
  | cons child more ih =>
    obtain ⟨next, later⟩ := departures_eq_cons split
    have one : (s.asked.reap child).finishing = s.finishing.erase child.ordinal :=
      finishing_reap next
    rw [List.map_cons, List.diff_cons, ← one]
    exact ih later

end State

/-- Waits that find nobody outstanding fail, as often as they are made. -/
theorem trace_of_nobody {p : Plan} {s : State} {k : Nat} (nobody : s.outstanding = [])
    (unset : p.Unset s.waits k) :
    ∃ t, (facility p).Trace s (List.replicate k (.wait (.error .noChildren))) t ∧
      t.reaped = s.reaped ∧ t.outstanding = [] ∧ t.finishing = s.finishing := by
  induction k generalizing s with
  | zero => exact ⟨s, .nil s, rfl, nobody, rfl⟩
  | succ k ih =>
    have none_ : s.next? = none := State.next?_eq_none_iff.2 nobody
    have answered : (facility p).waitAny s = (.error .noChildren, s.asked) := by
      change waitAny p s = _
      rw [waitAny_of_unset unset.first, none_]
      rfl
    obtain ⟨t, trace, kept⟩ := ih (s := s.asked) nobody unset.rest
    exact ⟨t, .wait answered trace, kept⟩

/-- The order in which children end. Take any state in which no two outstanding children have
one number, as in every state that the facility comes to (`Reachable.orderly`), and any
finishing order, with numbers that repeat, that belong to nobody or to children that have ended
already; and let no answer be set for the waits to come. As many waits as there are outstanding
children then reap them all, in the order that `reapOrder` reads off: first those that the
finishing order names, by first mentions, and then the others, oldest first. Every wait after
these fails for want of children. What is left of the finishing order is what it was, less the
first mention of each of the children that it named. In whatever state a wait finds the
facility, the child that it has chosen is among the outstanding ones. -/
theorem reaped_in_order (p : Plan) (s : State) (k : Nat) (distinct : s.ordinals.Nodup)
    (unset : p.Unset s.waits (s.outstanding.length + k)) :
    (∃ order t, (facility p).Trace s
        (ends order ++ List.replicate k (.wait (.error .noChildren))) t ∧
      order.Perm s.outstanding ∧
      order.map Child.ordinal = reapOrder s.ordinals s.finishing ∧
      t.reaped = s.reaped ++ order ∧ t.outstanding = [] ∧
      t.finishing = s.finishing.diff s.ordinals) ∧
    ∀ (u : State) (n : Nat), u.nextEntry? = some n →
      ∃ child, u.outstanding.find? (fun c => c.ordinal == n) = some child ∧
        u.next? = some child := by
  refine ⟨?_, fun u n entry => ?_⟩
  · have all := (List.append_nil s.departures).symm
    have number := s.departures_perm.length_eq
    have nobody := s.outstanding_of_all_departed
    have ended : p.Unset (s.reapEach s.departures).waits k := by
      intro i after before
      rw [State.waits_reapEach] at after before
      exact unset i (by omega) (by omega)
    have first : p.Unset s.waits s.departures.length := unset.mono (by omega)
    obtain ⟨t, failing, reaped, outstanding, finishing⟩ := trace_of_nobody nobody ended
    refine ⟨s.departures, t, (trace_of_departures first all).append failing, s.departures_perm,
      State.ordinals_departures distinct, ?_, outstanding, ?_⟩
    · rw [reaped, State.reaped_reapEach]
    · rw [finishing, State.finishing_reapEach all]
      exact (s.departures_perm.map Child.ordinal).diff_left _
  · obtain ⟨child, found, _, next⟩ := State.exists_of_nextEntry? entry
    exact ⟨child, found, next⟩

/-- Five children, the second of which has ended, and a finishing order that names a stranger,
the child that has ended, and another one twice. -/
theorem reaped_in_order_past_strangers :
    let p : Plan := { waits := [(8, .failure .noChildren)] }
    let child (n : Nat) : Child := ⟨n, .ofIndex (n - 1), "c"⟩
    let s : State :=
      { started := [child 1, child 2, child 3, child 4, child 5]
        outstanding := [child 1, child 3, child 4, child 5], reaped := [child 2]
        finishing := [7, 4, 2, 4, 1], waits := 1 }
    Reachable p s ∧ ∃ order t, (facility p).Trace s
        (ends order ++ List.replicate 2 (.wait (.error .noChildren))) t ∧
      order.map Child.ordinal = [4, 1, 3, 5] ∧ t.finishing = [7, 2, 4] := by
  intro p child s
  have start (u : State) : (facility p).spawn ["c"] u = _ := rfl
  have reachable : Reachable p s :=
    ⟨[2, 7, 4, 2, 4, 1], _, .spawn (start _) (.spawn (start _) (.spawn (start _)
      (.spawn (start _) (.spawn (start _) (.wait rfl (.nil _))))))⟩
  have unset : p.Unset s.waits (s.outstanding.length + 2) := by
    intro i _ before
    have early : i < 8 := Nat.lt_succ_of_le before
    have apart : (i == 8) = false := beq_false_of_ne (Nat.ne_of_lt early)
    simp [p, List.lookup_cons, apart]
  obtain ⟨⟨order, t, trace, _, ordinals, _, _, finishing⟩, _⟩ :=
    reaped_in_order p s 2 reachable.orderly.nodup_ordinals unset
  exact ⟨reachable, order, t, trace, ordinals.trans (by decide), finishing.trans (by decide)⟩

end CommandChains.Scripted
