import CommandChains.Machine.Account
import CommandChains.Machine.Shell.Syntax
import CommandChains.Machine.Performance
import CommandChains.Machine.Signal

/-!
# Variables of scripts

A variable holds a text, a row of texts with numbers, or a table of texts with keys. It
can be marked: to be told to commands, not to change, to hold numbers only, to hold
letters of one case, or to stand for another variable.
-/

namespace CommandChains.Machine.Shell

inductive Value where
  | text (text : Octets)
  | row (elements : List (Nat × Octets))
  | table (entries : List (Octets × Octets))
  deriving DecidableEq, Inhabited

namespace Value

/-- The sum that tells where a key stands in a table. -/
def keySum (key : Octets) : Nat :=
  key.foldl (fun n c => Nat.xor (n * 16777619 % 4294967296) c.toNat) 2166136261

/-- The place of a key among the places of a table. -/
def keyPlace (key : Octets) : Nat := keySum key % 1024

/-- The entries of a table as they are listed: by their places, and at one place those
that came last first. -/
def listed (entries : List (Octets × Octets)) : List (Octets × Octets) :=
  entries.reverse.mergeSort fun a b => decide (keyPlace a.1 ≤ keyPlace b.1)

def whole? : Value → Option Octets
  | text t => some t
  | row elements => elements.lookup 0
  | table entries => entries.lookup ['0']

def texts : Value → List Octets
  | text t => [t]
  | row elements => elements.map (·.2)
  | table entries => (listed entries).map (·.2)

def keys : Value → List Octets
  | text _ => [['0']]
  | row elements => elements.map fun entry => Octets.ofNat entry.1
  | table entries => (listed entries).map (·.1)

def setAt (elements : List (Nat × Octets)) (place : Nat) (t : Octets) : List (Nat × Octets) :=
  elements.filter (fun entry => decide (entry.1 < place)) ++
    (place, t) :: elements.filter fun entry => decide (place < entry.1)

def asRow : Value → List (Nat × Octets)
  | text t => [(0, t)]
  | row elements => elements
  | table _ => []

end Value

structure Variable where
  value : Option Value := none
  exported : Bool := false
  fixed : Bool := false
  numeric : Bool := false
  letterCase : Option Bool := none
  refers : Bool := false
  deriving DecidableEq, Inhabited

abbrev Variables := List (Octets × Variable)

namespace Variables

def alter (vs : Variables) (name : Octets) (change : Option Variable → Option Variable) :
    Variables :=
  match change (vs.lookup name) with
  | none => vs.filter fun entry => entry.1 != name
  | some v =>
    if (vs.lookup name).isSome then
      vs.map fun entry => if entry.1 = name then (name, v) else entry
    else vs ++ [(name, v)]

/-- The variable that a name stands for in the end, through at most so many others. -/
def resolve (vs : Variables) : Nat → Octets → Octets
  | 0, name => name
  | steps + 1, name =>
    match vs.lookup name with
    | some v =>
      if v.refers then
        match v.value.bind Value.whole? with
        | some [] | none => name
        | some other => resolve vs steps other
      else name
    | none => name

/-- The place where the small shell keeps a variable. -/
def bucketOf (name : Octets) : Nat :=
  match name with
  | [] => 0
  | c :: _ => (c.toNat * 16 + name.foldl (fun n c => n + c.toNat) 0) % 39

/-- The variables that commands are told, in the order in which a shell tells them. -/
def environment (dialect : Dialect) (vs : Variables) : Environment :=
  let told := vs.filterMap fun (name, v) =>
    match v.exported, v.value with
    | true, some (.text t) => some (name, t)
    | _, _ => none
  match dialect with
  | .small => told.mergeSort fun a b => decide (bucketOf a.1 ≤ bucketOf b.1)
  | .large => Value.listed told

def inOrder (vs : Variables) : Variables := vs.mergeSort fun a b => Octets.atMost a.1 b.1

end Variables

/-!
## A shell while it runs a script

What a shell remembers between two commands: variables and arguments, where its streams
lead, what it has printed and when, the commands that run beside it, and whether it goes
on. A numbered stream leads to a channel; several streams can lead to the same one, and a
shell in the place of another one shares its channels.
-/

inductive Channel where
  | text (left : Octets) (ends : Nat)
  | printed
  | file (outlet : Files.Outlet)
  | update (left : Octets) (outlet : Files.Outlet)
  | told (companion : Nat)
  | heard (companion : Nat)
  deriving DecidableEq

/-- A command that runs beside the shell and can be talked to. -/
structure Companion where
  reply : Octets → Octets
  told : Octets := []
  heard : Nat := 0

structure Printed where
  time : Nat
  channel : Nat
  text : Octets
  deriving DecidableEq

structure Job where
  number : Nat
  place : Nat
  text : Octets := []
  starts : Nat := 0
  ends : Nat
  status : Nat
  printed : List Printed
  signal : Option Signal := none
  stopped : Option Nat := none
  holds : Bool := true
  waited : Bool := false

/-- When a command that runs beside the shell is over. -/
def Job.over (j : Job) : Nat :=
  if j.stopped.isSome then Duration.forever else j.ends

inductive Flow where
  | going
  | breaking (levels : Nat)
  /-- So many loops are left but one, which goes on with its next round. -/
  | continuing (levels : Nat)
  | returning
  /-- Something has gone wrong. The large shell leaves the line, the small one the script,
  unless a command of its own knows better. -/
  | discarding
  | exiting
  | killed
  deriving DecidableEq

structure Frame where
  name : Octets
  line : Nat
  /-- Whether it is a file that is read as a part of the script. -/
  isFile : Bool := false
  outside : List (Octets × Option Variable) := []

structure State where
  dialect : Dialect
  name : Octets
  line : Nat := 1
  /-- The last line of the script that has been read. -/
  reached : Nat := 1
  isArgument : Bool := false
  isFile : Bool := false
  /-- What the text is that is read, if it is not the script. -/
  origin : Option Octets := none
  clock : Nat := 0
  channels : List (Nat × Channel) := [(1, .printed), (2, .printed)]
  streams : List (Nat × Nat) := [(0, 0), (1, 1), (2, 2)]
  nextChannel : Nat := 3
  companions : List (Nat × Companion) := []
  printed : List Printed := []
  files : Files
  /-- The path by which the shell knows the place where it stands. -/
  here : Octets := ['/']
  places : List Octets := []
  niceness : Int := 0
  bindings : Variables := []
  functions : List (Octets × Action) := []
  aliases : List (Octets × Octets) := []
  found : List (Octets × Octets × Nat) := []
  /-- Options of the large shell that are known by names only. -/
  settings : List String := []
  arguments : List Octets := []
  status : Nat := 0
  /-- The status of the last script that was put in the place of a piece, if there was one
  in the present command. -/
  pieceStatus : Option Nat := none
  pipeStatus : List Nat := []
  lastWord : Octets := []
  jobs : List Job := []
  /-- The number of the next command that runs beside the shell. -/
  nextNumber : Nat := 1001
  /-- The number of the last command that was left to run beside the shell. -/
  lastNumber : Option Nat := none
  number : Nat := 1000
  /-- How many shells this one is in the place of. -/
  depth : Nat := 0
  /-- How many texts are run inside one another, for what is told about commands. -/
  traceDepth : Nat := 0
  /-- When the last of what was left running by others is over. -/
  lingers : Nat := 0
  flow : Flow := .going
  /-- The signal that has ended the shell, if one has. -/
  signal : Option Signal := none
  /-- Whether the signal was meant for the shell that this one is in the place of. -/
  forOwner : Bool := false
  /-- Whether nothing is left to be done after the present command. -/
  isLast : Bool := true
  options : List Char := []
  /-- Whether somebody looks at the status of what is run. -/
  tested : Bool := false
  loops : Nat := 0
  frames : List Frame := []
  traps : List (Nat × Octets) := []
  /-- What the first shell does on signals, for those in its place. -/
  ownerTraps : List (Nat × Octets) := []
  /-- Signals that the shell has got and has not heeded yet. -/
  pending : List Nat := []
  /-- Signals that the first shell has got from those in its place. -/
  pendingForOwner : List Nat := []
  /-- The status that there was before what is done on a signal or at the end. -/
  trapStatus : Option Nat := none
  command : Option Octets := none
  /-- The number of the argument with options that is looked at next. -/
  optionPlace : Nat := 1
  /-- How much of an argument with options has been looked at. -/
  optionOffset : Nat := 0
  matches_ : List Octets := []
  seed : Nat := 1
  /-- Paths that stand for scripts that read what is written there. -/
  sinks : List (Nat × Octets) := []

def ownNumber : Nat := 1000

/-- The number by which a command for the end of a script is remembered. -/
def exitTrap : Nat := 0

/-- The number by which a command is remembered that is to be run before every other one. -/
def debugTrap : Nat := 100

/-- The number by which a command is remembered that is to be run after a failure. -/
def errorTrap : Nat := 101

/-- The number by which a command for the end of a function is remembered. -/
def returnTrap : Nat := 102

namespace State

def goes (s : State) : Bool := s.flow = .going

def has (s : State) (option : Char) : Bool := s.options.contains option

def isLarge (s : State) : Bool := s.dialect = .large

def inFunction (s : State) : Bool := s.frames.any fun f => !f.isFile

/-! ## Channels -/

/-- The channel that a stream leads to, if it is open. -/
def channel? (s : State) (stream : Nat) : Option Channel :=
  (s.streams.lookup stream).bind fun number => s.channels.lookup number

def setChannel (s : State) (number : Nat) (c : Channel) : State :=
  { s with channels := (number, c) :: s.channels.filter fun entry => entry.1 != number }

def lead (s : State) (stream number : Nat) : State :=
  { s with streams := (stream, number) :: s.streams.filter fun entry => entry.1 != stream }

def open_ (s : State) (stream : Nat) (c : Channel) : State :=
  let number := s.nextChannel
  ({ s with nextChannel := number + 1 }.setChannel number c).lead stream number

def close (s : State) (stream : Nat) : State :=
  { s with streams := s.streams.filter fun entry => entry.1 != stream }

def share (s : State) (stream other : Nat) : Option State :=
  (s.streams.lookup other).map fun number => s.lead stream number

def write? (s : State) (stream : Nat) (text : Octets) : Option State :=
  match s.streams.lookup stream with
  | none => none
  | some number =>
    match s.channels.lookup number with
    | some .printed =>
      some (if text.isEmpty then s else { s with printed := ⟨s.clock, number, text⟩ :: s.printed })
    | some (.file .full) => if text.isEmpty then some s else none
    | some (.file outlet) => some { s with files := s.files.append outlet text }
    | some (.update left outlet) =>
      some { (s.setChannel number (.update left outlet)) with
        files := s.files.append outlet text }
    | some (.told n) =>
      some { s with companions := s.companions.map fun entry =>
        if entry.1 = n then (n, { entry.2 with told := entry.2.told ++ text }) else entry }
    | _ => none

def say (s : State) (stream : Nat) (text : Octets) : State := (s.write? stream text).getD s

def read? (s : State) (stream : Nat) : Option (Octets × Nat) :=
  match s.channel? stream with
  | some (.text left ends) => some (left, ends)
  | some (.update left _) => some (left, 0)
  | some (.heard n) =>
    (s.companions.lookup n).map fun c => ((c.reply c.told).drop c.heard, 0)
  | _ => none

/-- Leaves so much of what can be read from a stream. -/
def leave (s : State) (stream : Nat) (left : Octets) : State :=
  match s.streams.lookup stream with
  | none => s
  | some number =>
    match s.channels.lookup number with
    | some (.text _ ends) => s.setChannel number (.text left ends)
    | some (.update _ outlet) => s.setChannel number (.update left outlet)
    | some (.heard n) =>
      { s with companions := s.companions.map fun entry =>
        if entry.1 = n then
          (n, { entry.2 with heard := (entry.2.reply entry.2.told).length - left.length })
        else entry }
    | _ => s

def input (s : State) : Octets × Nat := (s.read? 0).getD ([], 0)

/-- Adds what was printed on the usual streams of a program. -/
def add (s : State) (marks : List Mark) : State :=
  marks.foldl (fun (s : State) (m : Mark) =>
    let number : Nat := if m.stream = Stream.output then 1 else 2
    { s with clock := m.time }.say number m.text) s

/-! ## What has been printed -/

/-- Everything that has been printed and will be printed by what is left running. -/
def allPrinted (s : State) : List Printed :=
  (s.printed.reverse ++ s.jobs.flatMap Job.printed).mergeSort fun a b => decide (a.time ≤ b.time)

/-- When the last of what the shell has started is over and nothing more can be
printed. -/
def allEnds (s : State) : Nat :=
  (s.jobs.filter Job.holds).foldl (fun n job => max n job.over) (max s.clock s.lingers)

/-! ## Complaints -/

/-- The name of what is run: the file that is read or the function, if the script has none
of its own, and otherwise the shell or its script. -/
def speaker (s : State) : Octets :=
  match s.dialect, s.frames with
  | .large, frame :: _ =>
    if frame.isFile then frame.name
    else
      match s.frames.find? Frame.isFile with
      | some file => file.name
      | none =>
        if s.isFile then s.name
        else if s.isArgument then "environment".toList
        else "main".toList
  | _, _ => s.name

def place (s : State) : Octets :=
  let line := Octets.ofNat s.line
  match s.dialect with
  | .small => s.name ++ ": ".toList ++ line ++ ": ".toList
  | .large => s.speaker ++ ": line ".toList ++ line ++ ": ".toList

/-- The beginning of a complaint of a command of the shell itself. -/
def commandPlace (s : State) : Octets :=
  s.place ++ (s.command.map fun name => name ++ ": ".toList).getD []

def complain (s : State) (message : Octets) : State :=
  s.say 2 (s.place ++ message ++ ['\n'])

def withStatus (s : State) (status : Nat) : State := { s with status }

def failing (s : State) (message : Octets) (status : Nat) : State :=
  (s.complain message).withStatus status

/-- Complains, as a command of the shell itself, and leaves a status behind. -/
def commandFailing (s : State) (message : Octets) (status : Nat) : State :=
  (s.say 2 (s.commandPlace ++ message ++ ['\n'])).withStatus status

def givingUp (s : State) (message : Octets) (status : Nat) : State :=
  { s.commandFailing message status with flow := .discarding }

/-! ## Variables -/

/-- The variable that a name stands for in the end. -/
def resolve (s : State) (name : Octets) : Octets := s.bindings.resolve 10 name

def kept? (s : State) (name : Octets) : Option Variable := s.bindings.lookup (s.resolve name)

def value? (s : State) (name : Octets) : Option Value := (s.kept? name).bind (·.value)

def text? (s : State) (name : String) : Option Octets :=
  (s.value? name.toList).bind Value.whole?

def isFixed (s : State) (name : Octets) : Bool := (s.kept? name).any Variable.fixed

def alterVariable (s : State) (name : Octets) (change : Variable → Variable) : State :=
  { s with bindings := s.bindings.alter (s.resolve name) fun v => some (change (v.getD {})) }

def setValue (s : State) (name : Octets) (value : Value) : State :=
  s.alterVariable name fun v =>
    { v with value := some value, exported := v.exported || s.has 'a' }

/-- Sets a variable to a text. Of a row or a table the first element is set. Where options
are looked for begins anew if the variable says so. -/
def set (s : State) (name text : Octets) : State :=
  let s : State := if name != "OPTIND".toList then s
    else { s with optionPlace := ((Octets.decimal? text).filter (0 < ·)).getD 1, optionOffset := 0 }
  let s : State := if name = "PATH".toList then { s with found := [] } else s
  match s.value? name with
  | some (.row elements) => s.setValue name (.row (Value.setAt elements 0 text))
  | some (.table entries) => s.setValue name (.table (Environment.set entries ['0'] text))
  | _ => s.setValue name (.text text)

def unset (s : State) (name : Octets) : State :=
  { s with bindings := s.bindings.alter (s.resolve name) fun _ => none }

def environment (s : State) : Environment := s.bindings.environment s.dialect

/-- The characters between which values are cut into words. -/
def separators (s : State) : Octets := (s.text? "IFS").getD [' ', '\t', '\n']

/-! ## Time and other shells -/

/-- A shell in the place of another one that runs a part of its script. Nobody else waits
for what it leaves running, and signals have their usual effects. -/
def sub (s : State) : State :=
  { s with
    jobs := [], loops := 0, lingers := 0, isLast := true, depth := s.depth + 1, pending := []
    trapStatus := none
    ownerTraps := if s.depth = 0 then s.traps else s.ownerTraps
    traps := s.traps.filter fun entry => entry.2.isEmpty && entry.1 < debugTrap }

/-- Goes on where a shell in the place of this one has stopped, in the time of that one. -/
def after (s inner : State) : State :=
  { s with
    clock := inner.clock, status := inner.status, nextNumber := inner.nextNumber
    channels := inner.channels, nextChannel := inner.nextChannel, companions := inner.companions
    printed := inner.printed, files := s.files.seenAfter inner.files, seed := inner.seed
    lingers := max s.lingers inner.allEnds
    pending := if s.depth = 0 then s.pending ++ inner.pendingForOwner else s.pending
    pendingForOwner := if s.depth = 0 then [] else inner.pendingForOwner
    signal := if inner.forOwner then inner.signal else s.signal
    forOwner := inner.forOwner
    flow := if inner.forOwner ∨ Duration.forever ≤ inner.clock then .killed else s.flow }

/-- Waits until a time. What comes after all time does not come. -/
def waitUntil (s : State) (time : Nat) : State :=
  let clock := max s.clock time
  { s with clock, flow := if Duration.forever ≤ clock then .killed else s.flow }

/-- Takes note of the signal that has ended a command. If the command was the last thing
to be done the shell was gone by then. -/
def heed (s : State) (signal : Option Signal) (mayBeLast : Bool) : State :=
  match signal with
  | none => s
  | some signal =>
    if mayBeLast && s.isLast && s.traps.isEmpty then
      { s with flow := .killed, signal := some signal }
    else if s.dialect = .large ∨ signal.isSilent then s
    else s.say 2 (signal.description ++ ['\n'])

/-- What is left running by another shell still prints. -/
def keepPrinting (s inner : State) : State :=
  { s with printed := (inner.jobs.flatMap Job.printed).reverse ++ s.printed }

def restore (s : State) (old : List (Octets × Option Variable)) : State :=
  { s with bindings := old.foldl (fun vs entry => vs.alter entry.1 fun _ => entry.2) s.bindings }

end State

end CommandChains.Machine.Shell
