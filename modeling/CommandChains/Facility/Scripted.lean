import CommandChains.Facility.Basic

/-!
# The scripted facility

A facility without real children, for rehearsing sessions. A plan says which
programs cannot be started and what the handles are, and the state holds the
order in which children are to end.

Children are numbered from one in the order of their starts; a start that fails
takes no number. These ordinals name the children in the finishing order. The
first entry of that order that is the ordinal of an outstanding child decides who
ends next, and only that entry is used up. If no entry is, the oldest outstanding
child ends.

A plan may also set the answer of particular waits, numbered from one over the
whole life of the facility. Such a wait leaves the children alone.
-/

namespace CommandChains.Scripted

/-- An answer set in advance for one wait. -/
inductive WaitAnswer where
  | foreign (handle : Handle)
  | failure (error : WaitError)
  deriving DecidableEq, Repr

namespace WaitAnswer

def isForeign : WaitAnswer → Bool
  | foreign _ => true
  | failure _ => false

def answer : WaitAnswer → Except WaitError Handle
  | foreign handle => .ok handle
  | failure error => .error error

end WaitAnswer

/-- What is laid down once and for all. -/
structure Plan where
  /-- Programs that fail in a way of their own; the first entry of a name counts. -/
  faults : List (String × StartError) := []
  /-- Programs whose start breaks the facility. -/
  breaking : List String := []
  missing : List String := []
  /-- The handles of the children in the order of their ordinals. A child without
  an entry has its ordinal as its handle. -/
  handles : List (Option Handle) := []
  /-- The waits whose answer is set, by number; the first entry of a number counts. -/
  waits : List (Nat × WaitAnswer) := []
  deriving Repr

namespace Plan

/-- Why a command cannot be started, if it cannot. -/
def refusal? (p : Plan) : List String → Option StartError
  | [] => some .emptyCommand
  | program :: _ =>
    match p.faults.lookup program with
    | some error => some error
    | none =>
      if program ∈ p.breaking then
        some (.broken (.explained ("facility fault starting " ++ program)))
      else if program ∈ p.missing then some .notFound
      else none

/-- The handle of the child that comes after `n` others. -/
def handle (p : Plan) (n : Nat) : Handle :=
  (p.handles[n]?.join).getD (Handle.ofIndex n)

/-- The number of set answers after the first `n` waits that name a handle. -/
def foreignAfter (p : Plan) (n : Nat) : Nat :=
  (p.waits.filter fun w => decide (n < w.1) && w.2.isForeign).length

end Plan

structure Child where
  ordinal : Nat
  handle : Handle
  program : String
  deriving DecidableEq, Repr

/-- What has happened so far, and the order in which children are to end. -/
structure State where
  started : List Child := []
  /-- The children that have not ended, oldest first. -/
  outstanding : List Child := []
  /-- The children that have ended, in that order. -/
  reaped : List Child := []
  /-- The ordinals of children in the order in which they are to end. -/
  finishing : List Nat := []
  /-- The number of waits so far. -/
  waits : Nat := 0
  deriving DecidableEq, Repr

namespace State

/-- Whether a number is the ordinal of an outstanding child. -/
def isOutstanding (s : State) (n : Nat) : Bool :=
  s.outstanding.any fun child => child.ordinal == n

/-- The entry of the finishing order that decides who ends next, if there is one. -/
def nextEntry? (s : State) : Option Nat :=
  s.finishing.find? s.isOutstanding

def next? (s : State) : Option Child :=
  match s.nextEntry? with
  | some n => s.outstanding.find? fun child => child.ordinal == n
  | none => s.outstanding.head?

def reap (s : State) (child : Child) : State :=
  { s with
    outstanding := s.outstanding.erase child
    reaped := s.reaped ++ [child]
    finishing := match s.nextEntry? with
      | some n => s.finishing.erase n
      | none => s.finishing }

/-- The state after a child of this handle and program has been started. -/
def start (s : State) (handle : Handle) (program : String) : State :=
  let child : Child := ⟨s.started.length + 1, handle, program⟩
  { s with
    started := s.started ++ [child]
    outstanding := s.outstanding ++ [child] }

theorem mem_of_next? {s : State} {child : Child} (h : s.next? = some child) :
    child ∈ s.outstanding := by
  unfold next? at h
  split at h
  · exact List.mem_of_find?_eq_some h
  · exact List.mem_of_mem_head? h

end State

def spawn (p : Plan) (argv : List String) (s : State) : Except StartError Handle × State :=
  match p.refusal? argv with
  | some error => (.error error, s)
  | none =>
    let handle := p.handle s.started.length
    (.ok handle, s.start handle (argv.headD ""))

/-- Lets the next child end, unless the answer of this wait is set. -/
def waitAny (p : Plan) (s : State) : Except WaitError Handle × State :=
  let counted := { s with waits := s.waits + 1 }
  match p.waits.lookup counted.waits with
  | some set => (set.answer, counted)
  | none =>
    match s.next? with
    | none => (.error .noChildren, counted)
    | some child => (.ok child.handle, counted.reap child)

/-- A wait for any one child is over after as many reports of others as there are
outstanding children and foreign answers still to come. -/
def patience (p : Plan) (s : State) : Nat :=
  s.outstanding.length + p.foreignAfter s.waits

theorem Plan.foreignAfter_succ_le (p : Plan) (n : Nat) :
    p.foreignAfter (n + 1) ≤ p.foreignAfter n := by
  unfold foreignAfter
  induction p.waits with
  | nil => simp
  | cons w rest ih =>
    rw [List.filter_cons, List.filter_cons]
    by_cases later : n + 1 < w.1
    · have now : n < w.1 := by omega
      cases w.2.isForeign <;> simp [later, now, ih]
    · cases hf : w.2.isForeign <;> by_cases now : n < w.1 <;> simp [later, now, ih]
      omega

theorem Plan.foreignAfter_succ_lt {p : Plan} {n : Nat} {handle : Handle}
    (h : p.waits.lookup (n + 1) = some (.foreign handle)) :
    p.foreignAfter (n + 1) < p.foreignAfter n := by
  obtain ⟨faults, breaking, missing, handles, waits⟩ := p
  simp only at h
  induction waits with
  | nil => simp at h
  | cons w rest ih =>
    have le := Plan.foreignAfter_succ_le ⟨faults, breaking, missing, handles, rest⟩ n
    simp only [foreignAfter] at le ih ⊢
    rw [List.filter_cons, List.filter_cons]
    rw [List.lookup_cons] at h
    by_cases key : n + 1 = w.1
    · have same : (n + 1 == w.1) = true := by simp [key]
      rw [same] at h
      simp only [Option.some.injEq] at h
      have foreign : w.2.isForeign = true := by rw [h]; rfl
      simp [← key, foreign]
      omega
    · have differs : (n + 1 == w.1) = false := by simp [key]
      rw [differs] at h
      have lt := ih h
      by_cases later : n + 1 < w.1
      · have now : n < w.1 := by omega
        cases w.2.isForeign <;> simp [later, now] <;> omega
      · have past : ¬ n < w.1 := by omega
        simp [later, past]
        omega

theorem waitAny_patience_lt {p : Plan} {h r : Handle} {s s' : State}
    (e : waitAny p s = (.ok r, s')) (_ : r ≠ h) : patience p s' < patience p s := by
  simp only [waitAny] at e
  split at e
  · next set found =>
    cases set with
    | failure error => simp [WaitAnswer.answer] at e
    | foreign handle =>
      simp only [WaitAnswer.answer, Prod.mk.injEq] at e
      rw [← e.2]
      have := Plan.foreignAfter_succ_lt found
      simp only [patience]
      omega
  · split at e
    · simp at e
    · next child next =>
      simp only [Prod.mk.injEq] at e
      rw [← e.2]
      have mem := State.mem_of_next? next
      have le := Plan.foreignAfter_succ_le p s.waits
      have pos : 0 < s.outstanding.length := List.length_pos_of_mem mem
      simp only [patience, State.reap, List.length_erase_of_mem mem]
      omega

/-- The facility that follows a plan. -/
def facility (p : Plan) : Facility State where
  spawn := spawn p
  waitAny := waitAny p
  patience _ := patience p
  patience_lt e other := waitAny_patience_lt e other

end CommandChains.Scripted
