import CommandChains.Facility.Basic
import CommandChains.Machine.Performance
import CommandChains.World

/-!
# Processes of the machine

The facility that runs commands as processes. Time passes only while somebody
waits: a wait takes until the end of the process that ends first, of several the
one started first. What becomes of a process is known when it is started.

What the programs do is not settled here: it is the parameter `programs`.
-/

namespace CommandChains.Machine

structure Process where
  handle : Handle
  ends : Nat
  /-- What it prints, and at which times of the machine. -/
  marks : List Mark
  deriving DecidableEq, Repr

structure Host where
  clock : Nat := 0
  history : List Process := []
  /-- The processes that nobody has heard the end of, oldest first. -/
  running : List Process := []
  input : Text.Bytes := []
  environment : Environment := [("PATH".toList, Octets.joined [':'] Installation.searchPath)]
  files : Files := Installation.files

def nul : Char := '\x00'

def nulFound : SystemError := .text "nul byte found in provided data"

/-- Starts a process with these words, unless the system refuses them. -/
def startProcess (programs : Start) (t : Task) (argv : List String) :
    Except StartError Performance :=
  if argv.isEmpty then .error .emptyCommand
  else if argv.any fun word => word.toList.contains nul then .error (.system nulFound)
  else
    match t.files.find Installation.searchPath t.name with
    | .error e => .error (if e = FileTree.notFound then .notFound else .system e)
    | .ok _ =>
      if argv.any fun word => decide (FileTree.argumentLimit ≤ word.utf8ByteSize) then
        .error (.system FileTree.argumentTooLong)
      else (programs t).mapError StartError.system

namespace Host

def task (h : Host) (argv : List String) : Task :=
  { name := Octets.ofText (argv.headD ""), arguments := argv.tail.map Octets.ofText
    environment := h.environment, input := Octets.ofBytes h.input, files := h.files }

def note (h : Host) (done : Performance) : Process × Host :=
  let process : Process :=
    { handle := .ofIndex h.history.length, ends := h.clock + done.duration
      marks := Mark.later h.clock done.marks }
  (process, { h with
    history := h.history ++ [process]
    running := h.running ++ [process]
    input := Octets.toBytes done.left
    files := (done.files.map h.files.seenAfter).getD h.files })

def earlier (a b : Process) : Process :=
  if b.ends < a.ends then b else a

def next? : List Process → Option Process
  | [] => none
  | p :: rest => some (rest.foldl earlier p)

def finish (h : Host) (p : Process) : Host :=
  { h with clock := max h.clock p.ends, running := h.running.erase p }

theorem foldl_earlier_mem (p : Process) (rest : List Process) :
    rest.foldl earlier p ∈ p :: rest := by
  induction rest generalizing p with
  | nil => simp
  | cons q rest ih =>
    have := ih (earlier p q)
    simp only [List.foldl_cons, List.mem_cons] at this ⊢
    rcases this with same | later
    · rw [same, earlier]
      split <;> simp
    · exact .inr (.inr later)

theorem mem_of_next? {running : List Process} {p : Process} (h : next? running = some p) :
    p ∈ running := by
  cases running with
  | nil => simp [next?] at h
  | cons q rest =>
    simp only [next?, Option.some.injEq] at h
    exact h ▸ foldl_earlier_mem q rest

def spawn (programs : Start) (argv : List String) (h : Host) : Except StartError Handle × Host :=
  match startProcess programs (h.task argv) argv with
  | .error e => (.error e, h)
  | .ok done =>
    let (process, after) := h.note done
    (.ok process.handle, after)

def waitAny (h : Host) : Except WaitError Handle × Host :=
  match next? h.running with
  | none => (.error .noChildren, h)
  | some p => (.ok p.handle, h.finish p)

/-- The processes, if this is what programs do. -/
def processes (programs : Start) : Facility Host where
  spawn := spawn programs
  waitAny := waitAny
  patience _ h := h.running.length
  patience_lt {_ _ s _} e _ := by
    simp only [waitAny] at e
    split at e
    · simp at e
    · next p next =>
      simp only [Prod.mk.injEq] at e
      have mem := mem_of_next? next
      have pos : 0 < s.running.length := List.length_pos_of_mem mem
      rw [← e.2]
      simp only [finish, List.length_erase_of_mem mem]
      omega

end Host

end CommandChains.Machine
