import CommandChains.Facility.Scripted
import CommandChains.Proofs.Facility.Trace

/-!
# The children of the scripted facility

Whatever is asked of a scripted facility, its children stay in order: the started ones
are numbered from one without gaps, the outstanding ones are among them in the same
order, and each child is outstanding or has been reaped (`State.Orderly`).

If in addition every child has its number as its handle and no wait is set in advance
(`Plan.Plain`), handles name children: no two children share one, and a child that is
no longer outstanding never is again (`State.Gone`). There a wait for a child that is
outstanding reaches it, and a wait for any other child reaps all there are and fails.
-/

namespace CommandChains.Scripted

/-! ## Single calls -/

/-- The state once it has been asked for the end of some child. -/
def State.asked (s : State) : State :=
  { s with waits := s.waits + 1 }

@[simp] theorem State.reap_outstanding (s : State) (child : Child) :
    (s.reap child).outstanding = s.outstanding.erase child := rfl
@[simp] theorem State.reap_reaped (s : State) (child : Child) :
    (s.reap child).reaped = s.reaped ++ [child] := rfl

/-- A start depends on the plan and on the children started before. -/
theorem spawn_eq (p : Plan) (argv : List String) (s : State) :
    spawn p argv s =
      (p.refusal? argv).elim (.ok (p.handle s.started.length),
        s.start (p.handle s.started.length) (argv.headD "")) fun e => (.error e, s) := by
  unfold spawn
  cases p.refusal? argv <;> rfl

/-- A start is refused and changes nothing, or it adds a child. -/
theorem spawn_cases {p : Plan} {argv : List String} {s t : State}
    {answer : Except StartError Handle} (h : spawn p argv s = (answer, t)) :
    (∃ e, answer = .error e ∧ t = s) ∨
      answer = .ok (p.handle s.started.length) ∧
        t = s.start (p.handle s.started.length) (argv.headD "") := by
  unfold spawn at h
  split at h
  · next e _ =>
    cases h
    exact .inl ⟨e, rfl, rfl⟩
  · cases h
    exact .inr ⟨rfl, rfl⟩

/-- Somebody is next as long as somebody is outstanding. -/
theorem State.next?_eq_none_iff {s : State} : s.next? = none ↔ s.outstanding = [] := by
  unfold next?
  split
  · next n entry =>
    have found : s.isOutstanding n = true := by simpa using List.find?_some entry
    obtain ⟨child, mem, ordinal⟩ := List.any_eq_true.1 found
    refine iff_of_false ?_ (List.ne_nil_of_mem mem)
    intro nobody
    exact List.find?_eq_none.1 nobody child mem ordinal
  · exact List.head?_eq_none_iff

/-- The answer of a wait has been set, or nobody is outstanding, or a child ends. -/
theorem waitAny_cases {p : Plan} {s t : State} {answer : Except WaitError Handle}
    (h : waitAny p s = (answer, t)) :
    (∃ set, p.waits.lookup (s.waits + 1) = some set ∧ answer = set.answer ∧ t = s.asked) ∨
      (s.outstanding = [] ∧ answer = .error .noChildren ∧ t = s.asked) ∨
      ∃ child ∈ s.outstanding, answer = .ok child.handle ∧ t = s.asked.reap child := by
  simp only [waitAny] at h
  split at h
  · next set found =>
    cases h
    exact .inl ⟨set, found, rfl, rfl⟩
  · split at h
    · next nobody =>
      cases h
      exact .inr (.inl ⟨State.next?_eq_none_iff.1 nobody, rfl, rfl⟩)
    · next child next =>
      cases h
      exact .inr (.inr ⟨child, State.mem_of_next? next, rfl, rfl⟩)

theorem started_waitAny (p : Plan) (s : State) : (waitAny p s).2.started = s.started := by
  rcases answered : waitAny p s with ⟨answer, t⟩
  obtain ⟨_, _, _, rfl⟩ | ⟨_, _, rfl⟩ | ⟨_, _, _, rfl⟩ := waitAny_cases answered <;> rfl

/-- What a start, a wait and the end of a child each keep, any calls keep. -/
theorem kept_of_trace {p : Plan} {s t : State} {calls : List Call} {P : State → Prop}
    (trace : (facility p).Trace s calls t)
    (start : ∀ {s} program, P s → P (s.start (p.handle s.started.length) program))
    (asked : ∀ {s}, P s → P s.asked)
    (reap : ∀ {s child}, child ∈ s.outstanding → P s → P (s.reap child)) (holds : P s) : P t := by
  refine trace.preserves (P := P) ?_ ?_ holds
  · intro s argv answer t answered before
    obtain ⟨_, _, rfl⟩ | ⟨_, rfl⟩ := spawn_cases answered
    · exact before
    · exact start _ before
  · intro s answer t answered before
    obtain ⟨_, _, _, rfl⟩ | ⟨_, _, rfl⟩ | ⟨child, mem, _, rfl⟩ := waitAny_cases answered
    · exact asked before
    · exact asked before
    · exact reap mem (asked before)

/-! ## Order among the children -/

/-- The children are numbered in the order of their starts, and each is either
outstanding, in that order, or has been reaped. -/
structure State.Orderly (s : State) : Prop where
  ordinals : s.started.map Child.ordinal = List.range' 1 s.started.length
  outstanding : s.outstanding.Sublist s.started
  kept : s.started.Perm (s.outstanding ++ s.reaped)

namespace State.Orderly

variable {s : State} {child : Child}

theorem initial (finishing : List Nat) : State.Orderly { finishing } :=
  ⟨rfl, .slnil, .nil⟩

theorem asked (h : s.Orderly) : s.asked.Orderly :=
  ⟨h.ordinals, h.outstanding, h.kept⟩

theorem start (h : s.Orderly) (handle : Handle) (program : String) :
    (s.start handle program).Orderly where
  ordinals := by
    simp [State.start, h.ordinals, List.range'_1_concat, Nat.add_comm]
  outstanding := h.outstanding.append (List.Sublist.refl _)
  kept := by
    refine (h.kept.append_right _).trans ?_
    simp only [State.start, List.append_assoc]
    exact (List.perm_append_comm).append_left _

theorem reap (h : s.Orderly) (mem : child ∈ s.outstanding) : (s.reap child).Orderly where
  ordinals := h.ordinals
  outstanding := List.erase_sublist.trans h.outstanding
  kept := by
    have moved := (List.perm_cons_erase mem).append_right s.reaped
    refine h.kept.trans (moved.trans ?_)
    rw [State.reap_outstanding, State.reap_reaped, ← List.append_assoc]
    exact (List.perm_append_singleton _ _).symm

/-- No two children have one number, whether they have ended or not. -/
theorem nodup_all_ordinals (h : s.Orderly) :
    ((s.outstanding ++ s.reaped).map Child.ordinal).Nodup := by
  refine (h.kept.map Child.ordinal).nodup_iff.1 ?_
  rw [h.ordinals]
  exact List.nodup_range'

/-- No two outstanding children have one number. -/
theorem nodup_ordinals (h : s.Orderly) : (s.outstanding.map Child.ordinal).Nodup := by
  have distinct := h.nodup_all_ordinals
  rw [List.map_append] at distinct
  exact (List.nodup_append.1 distinct).1

end State.Orderly

/-- What is asked of the facility keeps its children in order. -/
theorem orderly_of_trace {p : Plan} {s t : State} {calls : List Call}
    (trace : (facility p).Trace s calls t) (orderly : s.Orderly) : t.Orderly :=
  kept_of_trace trace (fun _ h => h.start _ _) (fun h => h.asked) (fun mem h => h.reap mem) orderly

/-- Nothing that is asked undoes a start. -/
theorem length_started_le_of_trace {p : Plan} {s t : State} {calls : List Call}
    (trace : (facility p).Trace s calls t) : s.started.length ≤ t.started.length := by
  refine kept_of_trace (P := fun t => s.started.length ≤ t.started.length) trace ?_ ?_ ?_
    (Nat.le_refl _)
  · intro u program le
    simp only [State.start, List.length_append, List.length_singleton]
    omega
  · exact fun le => le
  · exact fun _ le => le

/-- The states that a facility with this plan may come to, whatever it is asked for and
in whatever order its children are to end. -/
def Reachable (p : Plan) (s : State) : Prop :=
  ∃ finishing calls, (facility p).Trace { finishing } calls s

theorem reachable_initial (p : Plan) (finishing : List Nat) : Reachable p { finishing } :=
  ⟨finishing, [], .nil _⟩

theorem Reachable.trace {p : Plan} {s t : State} {calls : List Call} (h : Reachable p s)
    (trace : (facility p).Trace s calls t) : Reachable p t := by
  obtain ⟨finishing, before, first⟩ := h
  exact ⟨finishing, before ++ calls, first.append trace⟩

theorem Reachable.orderly {p : Plan} {s : State} (h : Reachable p s) : s.Orderly := by
  obtain ⟨finishing, calls, trace⟩ := h
  exact orderly_of_trace trace (.initial finishing)

/-! ## Handles as names -/

/-- Every child has its number as its handle, and no wait is set in advance. -/
structure Plan.Plain (p : Plan) : Prop where
  handle : ∀ n, p.handle n = Handle.ofIndex n
  waits : p.waits = []

/-- A plan that says only which programs fail is plain. -/
theorem plain_of_defaults {p : Plan} (handles : p.handles = []) (waits : p.waits = []) :
    p.Plain :=
  ⟨fun n => by simp [Plan.handle, handles], waits⟩

/-- The children are in order, and their handles are their numbers. -/
structure State.Numbered (s : State) : Prop extends State.Orderly s where
  handle : ∀ child ∈ s.started, child.handle.number = child.ordinal

/-- The handles of the outstanding children, oldest first. -/
def State.handles (s : State) : List Handle :=
  s.outstanding.map Child.handle

/-- The handle of a child that was started and is no longer outstanding. -/
structure State.Gone (s : State) (h : Handle) : Prop where
  started : h.number ≤ s.started.length
  ended : h ∉ s.handles

theorem State.Numbered.start {p : Plan} {s : State} (plain : p.Plain) (numbered : s.Numbered)
    (program : String) : (s.start (p.handle s.started.length) program).Numbered where
  toOrderly := numbered.toOrderly.start _ _
  handle := by
    intro child mem
    rcases List.mem_append.1 mem with old | new
    · exact numbered.handle child old
    · rw [List.mem_singleton.1 new, plain.handle]
      rfl

section

variable {p : Plan} {s t : State} {calls : List Call} {h : Handle}

theorem numbered_of_trace (plain : p.Plain) (trace : (facility p).Trace s calls t)
    (numbered : s.Numbered) : t.Numbered := by
  refine kept_of_trace (P := State.Numbered) trace ?_ ?_ ?_ numbered
  · exact fun program h => h.start plain program
  · exact fun h => ⟨h.toOrderly.asked, h.handle⟩
  · exact fun mem h => ⟨h.toOrderly.reap mem, h.handle⟩

theorem Reachable.numbered (plain : p.Plain) (reachable : Reachable p s) : s.Numbered := by
  obtain ⟨finishing, calls, trace⟩ := reachable
  exact numbered_of_trace plain trace ⟨.initial finishing, by simp⟩

/-- No two outstanding children have one handle. -/
theorem State.Numbered.nodup_handles (numbered : s.Numbered) : s.handles.Nodup := by
  have same : s.handles.map Handle.number = s.outstanding.map Child.ordinal := by
    rw [State.handles, List.map_map]
    refine List.map_congr_left fun child mem => ?_
    exact numbered.handle child (numbered.outstanding.subset mem)
  have distinct := numbered.nodup_ordinals
  rw [← same] at distinct
  exact (List.pairwise_map.1 distinct).imp fun differ equal => differ (congrArg _ equal)

/-- The end of a child takes one of the outstanding handles away. -/
theorem State.handles_perm_reap {child : Child} (mem : child ∈ s.outstanding) :
    s.handles.Perm (child.handle :: (s.reap child).handles) :=
  (List.perm_cons_erase mem).map Child.handle

/-- A child that is gone does not come back. -/
theorem gone_of_trace (plain : p.Plain) (trace : (facility p).Trace s calls t)
    (gone : s.Gone h) : t.Gone h := by
  refine kept_of_trace (P := fun s => s.Gone h) trace ?_ ?_ ?_ gone
  · intro s program gone
    have number := gone.started
    refine ⟨?_, fun mem => ?_⟩
    · simp only [State.start, List.length_append, List.length_singleton]
      omega
    · rw [State.handles, State.start, List.map_append, List.mem_append] at mem
      rcases mem with old | new
      · exact gone.ended old
      · rw [List.map_singleton, List.mem_singleton, plain.handle] at new
        rw [new] at number
        simp only [Handle.ofIndex] at number
        omega
  · exact fun gone => ⟨gone.started, gone.ended⟩
  · intro s child mem gone
    refine ⟨gone.started, fun outstanding => gone.ended ?_⟩
    exact (State.handles_perm_reap mem).mem_iff.2 (List.mem_cons_of_mem _ outstanding)

/-! ## Waits -/

/-- A plain facility answers a wait with an outstanding child as long as there is one. -/
theorem waitAny_cases_of_plain (plain : p.Plain) {answer : Except WaitError Handle}
    (answered : waitAny p s = (answer, t)) :
    (s.outstanding = [] ∧ answer = .error .noChildren ∧ t = s.asked) ∨
      ∃ child ∈ s.outstanding, answer = .ok child.handle ∧ t = s.asked.reap child := by
  obtain ⟨set, found, _⟩ | others := waitAny_cases answered
  · simp [plain.waits] at found
  · exact others

/-- A wait for an outstanding child goes past other outstanding children and reaches it.
What has ended by then is gone. -/
theorem wait_of_outstanding (plain : p.Plain) (waits : WaitsFor h calls)
    (trace : (facility p).Trace s calls t) (mem : h ∈ s.handles) :
    ∃ others : List Handle, calls = others.map (fun r => .wait (.ok r)) ++ [.wait (.ok h)] ∧
      (others ++ h :: t.handles).Perm s.handles := by
  induction waits generalizing s with
  | ended =>
    cases trace with
    | wait answered rest =>
      cases rest
      obtain ⟨_, no, _⟩ | ⟨child, inside, same, rfl⟩ := waitAny_cases_of_plain plain answered
      · cases no
      · cases same
        exact ⟨[], rfl, (State.handles_perm_reap inside).symm⟩
  | failed e =>
    cases trace with
    | wait answered rest =>
      obtain ⟨nobody, _⟩ | ⟨child, _, no, _⟩ := waitAny_cases_of_plain plain answered
      · simp [State.handles, nobody] at mem
      · cases no
  | @other r calls other _ ih =>
    cases trace with
    | wait answered rest =>
      obtain ⟨_, no, _⟩ | ⟨child, inside, same, rfl⟩ := waitAny_cases_of_plain plain answered
      · cases no
      · cases same
        have before := State.handles_perm_reap (s := s.asked) inside
        have left := (List.mem_cons.1 (before.mem_iff.1 mem)).resolve_left (Ne.symm other)
        obtain ⟨others, rfl, perm⟩ := ih rest left
        exact ⟨child.handle :: others, rfl, (perm.cons child.handle).trans before.symm⟩

/-- A wait for anybody else reaps all outstanding children and is then given up. -/
theorem wait_of_not_outstanding (plain : p.Plain) (waits : WaitsFor h calls)
    (trace : (facility p).Trace s calls t) (nmem : h ∉ s.handles) :
    ∃ others : List Handle,
      calls = others.map (fun r => .wait (.ok r)) ++ [.wait (.error .noChildren)] ∧
        others.Perm s.handles ∧ t.outstanding = [] := by
  induction waits generalizing s with
  | ended =>
    cases trace with
    | wait answered rest =>
      obtain ⟨_, no, _⟩ | ⟨child, inside, same, rfl⟩ := waitAny_cases_of_plain plain answered
      · cases no
      · cases same
        exact absurd (List.mem_map_of_mem inside) nmem
  | failed e =>
    cases trace with
    | wait answered rest =>
      cases rest
      obtain ⟨nobody, same, rfl⟩ | ⟨child, _, no, _⟩ := waitAny_cases_of_plain plain answered
      · cases same
        exact ⟨[], rfl, by simp [State.handles, nobody], nobody⟩
      · cases no
  | @other r calls other _ ih =>
    cases trace with
    | wait answered rest =>
      obtain ⟨_, no, _⟩ | ⟨child, inside, same, rfl⟩ := waitAny_cases_of_plain plain answered
      · cases no
      · cases same
        have before := State.handles_perm_reap (s := s.asked) inside
        have left : h ∉ (s.asked.reap child).handles :=
          fun mem => nmem (before.mem_iff.2 (List.mem_cons_of_mem _ mem))
        obtain ⟨others, rfl, perm, nobody⟩ := ih rest left
        exact ⟨child.handle :: others, rfl, (perm.cons child.handle).trans before.symm, nobody⟩

/-- After a wait the child that was waited for is gone, if it was ever started. -/
theorem gone_of_wait (plain : p.Plain) (numbered : s.Numbered) (waits : WaitsFor h calls)
    (trace : (facility p).Trace s calls t) (started : h.number ≤ s.started.length) :
    t.Gone h := by
  by_cases mem : h ∈ s.handles
  · obtain ⟨others, _, perm⟩ := wait_of_outstanding plain waits trace mem
    refine ⟨?_, ?_⟩
    · exact Nat.le_trans started (length_started_le_of_trace trace)
    · have nodup := perm.nodup_iff.2 numbered.nodup_handles
      exact (List.nodup_cons.1 (List.nodup_append.1 nodup).2.1).1
  · exact gone_of_trace plain trace ⟨started, mem⟩

end

end CommandChains.Scripted
