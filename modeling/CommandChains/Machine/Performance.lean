import CommandChains.Machine.Duration
import CommandChains.Machine.Signal
import CommandChains.Machine.Tool.Basic

/-!
# Performances

What has come of a program: how long it took, what it printed at which times, the
input it left, and its exit status. What was left running by a program may print
after its end.
-/

namespace CommandChains.Machine

inductive Stream where
  | output
  | errors
  deriving DecidableEq, Repr

structure Mark where
  time : Nat
  stream : Stream
  text : Octets
  deriving DecidableEq, Repr

structure Performance where
  duration : Nat := 0
  marks : List Mark := []
  left : Octets := []
  status : Nat := 0
  signal : Option Signal := none
  lingers : Nat := 0
  files : Option Files := none

namespace Mark

def textOn (stream : Stream) (marks : List Mark) : Octets :=
  (marks.filter fun m => m.stream = stream).flatMap Mark.text

def later (delay : Nat) (marks : List Mark) : List Mark :=
  marks.map fun m => { m with time := m.time + delay }

/-- Marks in the order of time. Of marks of one time the order stays. -/
def inOrder (marks : List Mark) : List Mark :=
  marks.mergeSort fun a b => decide (a.time ≤ b.time)

def ofText (time : Nat) (stream : Stream) (text : Octets) : List Mark :=
  if text.isEmpty then [] else [⟨time, stream, text⟩]

end Mark

namespace Performance

/-- What a tool has done, in time. A tool that takes some of the input has to wait until
it is there. -/
def ofReport (t : Task) (r : Report) : Performance :=
  let waits := match r.left with
    | none => true
    | some left => left.length < t.input.length
  let ready := if waits then t.inputEnds else 0
  { duration := ready + r.lasts
    marks := Mark.ofText ready .errors r.errors ++ Mark.ofText ready .output r.output ++
      Mark.ofText ready .errors r.late
    left := r.left.getD []
    status := r.status
    files := r.files }

/-- A performance that is ended before its time, with all that it left running. What it
would have printed later is lost. -/
def cutOff (limit status : Nat) (signal : Option Signal) (p : Performance) : Performance :=
  { p with
    duration := limit
    marks := p.marks.filter fun m => decide (m.time < limit)
    status, signal, lingers := 0 }

end Performance

/-- Starts a command and runs it, if it can be started. -/
abbrev Start := Task → Except SystemError Performance

abbrev Behavior := Start → Task → Performance

def Tool.behavior (tool : Tool) : Behavior := fun _ t => Performance.ofReport t (tool t)

namespace Task

def reports (t : Task) (r : Report) : Performance := Performance.ofReport t r

/-- The status of a program that has not started a command. -/
def statusOf (e : SystemError) : Nat := if e = FileTree.notFound then 127 else 126

/-- Starts a command in the place of a program, or complains about it. -/
def handOver (t : Task) (start : Start) (command : List Octets)
    (complaint : Octets → Octets → Octets) : Performance :=
  match command with
  | [] => t.reports (t.prints [])
  | name :: arguments =>
    match start { t with name, arguments } with
    | .ok p => p
    | .error e => t.reports (t.fails (complaint name (reasonOf e)) (statusOf e))

end Task

end CommandChains.Machine
