import CommandChains.Machine.Octets

/-!
# Signals

What processes tell one another. Most signals end the process that gets them, if it
has not made other arrangements; some stop it, and some mean nothing to it.
-/

namespace CommandChains.Machine

/-- A signal, by its number. Nought is the signal that is never sent. -/
structure Signal where
  number : Nat
  deriving DecidableEq, Repr

namespace Signal

/-- The names of the signals, from the first one on. -/
def names : List String :=
  ["HUP", "INT", "QUIT", "ILL", "TRAP", "ABRT", "BUS", "FPE", "KILL", "USR1", "SEGV", "USR2",
    "PIPE", "ALRM", "TERM", "STKFLT", "CHLD", "CONT", "STOP", "TSTP", "TTIN", "TTOU", "URG",
    "XCPU", "XFSZ", "VTALRM", "PROF", "WINCH", "POLL", "PWR", "SYS"]

def otherNames : List (String × Nat) :=
  [("EXIT", 0), ("IOT", 6), ("CLD", 17), ("IO", 29)]

/-- The signal that ends a process in an orderly way. -/
def terminate : Signal := ⟨15⟩

def kill : Signal := ⟨9⟩

/-- The signal that a name or a number writes. Names may be small and may begin with
three letters that all signals share. -/
def ofText? (text : Octets) : Option Signal :=
  match Octets.decimal? text with
  | some n => if n ≤ 64 then some ⟨n⟩ else none
  | none =>
    let capital := text.map Char.toUpper
    let name := String.ofList (if "SIG".toList.isPrefixOf capital then capital.drop 3 else capital)
    match names.findIdx? (· == name) with
    | some place => some ⟨place + 1⟩
    | none => (otherNames.lookup name).map Signal.mk

def name (s : Signal) : Octets :=
  if s.number = 0 then "EXIT".toList
  else ((names[s.number - 1]?).getD (toString s.number)).toList

/-- The number of the first and of the last signal whose meaning is up to programs. -/
def firstFree : Nat := 34

def last : Nat := 64

/-- The name of a signal whose meaning is up to programs. -/
def freeName (n : Nat) : String :=
  if n = firstFree then "RTMIN"
  else if n = last then "RTMAX"
  else if n ≤ 49 then "RTMIN+" ++ toString (n - firstFree)
  else "RTMAX-" ++ toString (last - n)

/-- The name of a signal as shells list it, if it has one. -/
def listName? (n : Nat) : Option String :=
  if n = 0 then some "EXIT"
  else if n = 29 then some "IO"
  else if firstFree ≤ n ∧ n ≤ last then some (freeName n)
  else names[n - 1]?

/-- The signal that a name of a list or a number writes, where letters may be small. -/
def ofListName? (text : Octets) : Option Signal :=
  match Octets.decimal? text with
  | some n => if n ≤ last then some ⟨n⟩ else none
  | none =>
    let capital := String.ofList (text.map Char.toUpper)
    ((List.range (last + 1)).find? fun n => listName? n == some capital).map Signal.mk

/-- How the signals are described that end a process, from the first one on. -/
def descriptions : List String :=
  ["Hangup", "Interrupt", "Quit", "Illegal instruction", "Trace/breakpoint trap", "Aborted",
    "Bus error", "Floating point exception", "Killed", "User defined signal 1",
    "Segmentation fault", "User defined signal 2", "Broken pipe", "Alarm clock", "Terminated",
    "Stack fault", "Child exited", "Continued", "Stopped (signal)", "Stopped",
    "Stopped (tty input)", "Stopped (tty output)", "Urgent I/O condition",
    "CPU time limit exceeded", "File size limit exceeded", "Virtual timer expired",
    "Profiling timer expired", "Window changed", "I/O possible", "Power failure",
    "Bad system call"]

def description (s : Signal) : Octets :=
  ((descriptions[s.number - 1]?).getD ("Signal " ++ toString s.number)).toList

/-- Whether a process that has made no arrangements goes on as if nothing had
happened. -/
def isHarmless (s : Signal) : Bool :=
  [0, 17, 18, 23, 28].contains s.number

/-- Whether the signal stops a process until it is told to go on. -/
def isStop (s : Signal) : Bool :=
  [19, 20, 21, 22].contains s.number

/-- Whether the signal ends a process that has made no arrangements. -/
def isFatal (s : Signal) : Bool :=
  !s.isHarmless && !s.isStop

def isResumption (s : Signal) : Bool := s.number == 18

/-- Whether nobody is told when the signal ends a process. -/
def isSilent (s : Signal) : Bool := [2, 13].contains s.number

def isForced (s : Signal) : Bool :=
  [9, 19].contains s.number

/-- The status of a process that the signal has ended. -/
def status (s : Signal) : Nat := 128 + s.number

end Signal

end CommandChains.Machine
