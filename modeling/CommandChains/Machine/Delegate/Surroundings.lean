import CommandChains.Machine.Performance
import CommandChains.Machine.Signal

/-!
# Programs that change the surroundings of others

Programs that start a command in their own place, with another priority, other buffers or
apart from what goes on around it. To the command it makes no difference here.
-/

namespace CommandChains.Machine.Delegate

/-- The usual complaint about a command that cannot be started. -/
def namedFirst (name reason : Octets) : Octets :=
  Octets.quoted name ++ ": ".toList ++ reason

/-- Another complaint about a command that cannot be started. -/
def failedToRun (name reason : Octets) : Octets :=
  "failed to run command ".toList ++ Octets.quoted name ++ ": ".toList ++ reason

/-- A third complaint about a command that cannot be started. -/
def failedToExecute (name reason : Octets) : Octets :=
  "failed to execute ".toList ++ name ++ ": ".toList ++ reason

/-- Takes arguments apart and goes on with them, or refuses them with a status. -/
def withArguments (t : Task) (known : Known) (status : Nat) (work : Arguments → Performance) :
    Performance :=
  let words := known.words ++ [("help", '\x00'), ("version", '\x00')]
  match Arguments.read { known with words } t.arguments with
  | .error misuse => t.reports (t.refuses misuse.message status)
  | .ok a => if a.has '\x00' then t.reports (t.prints []) else work a

/-! ## Priority -/

/-- Arguments where a number behind dashes is the value of an option. -/
def withAdjustment : List Octets → List Octets
  | ['-', 'n'] :: value :: rest => ['-', 'n'] :: value :: withAdjustment rest
  | ('-' :: sign :: digits) :: rest =>
    let number := if sign = '-' ∨ sign = '+' then digits else sign :: digits
    if number.head?.any Char.isDigit then
      ['-', 'n'] :: (sign :: digits) :: withAdjustment rest
    else ('-' :: sign :: digits) :: rest
  | arguments => arguments

/-- Starts a command with another priority, or prints the priority. -/
def priority : Behavior := fun start t =>
  withArguments { t with arguments := withAdjustment t.arguments }
      { valued := "n", untilOperand := true
        words := [("adjustment", 'n')] } 125 fun a =>
    let bad := (a.values 'n').find? fun value => (Octets.integer? value).isNone
    match bad with
    | some value =>
      t.reports (t.fails ("invalid adjustment ".toList ++ Octets.quoted value) 125)
    | none =>
      if a.operands.isEmpty then
        t.reports (if a.has 'n' then
          t.refuses "a command must be given with an adjustment".toList 125
        else t.prints "0\n".toList)
      else t.handOver start a.operands namedFirst

/-! ## Apart from others -/

/-- Starts a command that goes on when others have to stop. -/
def persistent : Behavior := fun start t =>
  withArguments t { untilOperand := true } 125 fun a =>
    if a.operands.isEmpty then t.reports (t.refuses "missing operand".toList 125)
    else t.handOver start a.operands failedToRun

def buffered : Behavior := fun start t =>
  withArguments t
      { valued := "ioe", untilOperand := true
        words := [("input", 'i'), ("output", 'o'), ("error", 'e')] } 125 fun a =>
    if a.operands.isEmpty then t.reports (t.refuses "missing operand".toList 125)
    else if a.options.isEmpty then
      t.reports (t.refuses "you must specify a buffering mode option".toList 125)
    else t.handOver start a.operands failedToRun

/-- Starts a command in a session of its own, and on demand does not wait for it. -/
def ownSession : Behavior := fun start t =>
  withArguments t
      { plain := "cfw", untilOperand := true
        words := [("ctty", 'c'), ("fork", 'f'), ("wait", 'w')] } 1 fun a =>
    if a.operands.isEmpty then t.reports (t.refuses "no command specified".toList 1)
    else
      let done := t.handOver start a.operands failedToExecute
      if a.has 'f' && !a.has 'w' then
        { done with duration := 0, status := 0, lingers := max done.duration done.lingers }
      else done

/-- What comes before the command of a program that starts one. -/
structure Preamble where
  /-- The letters of options whose values are arguments of their own. -/
  valued : String := ""
  operands : Nat := 0

/-- The arguments behind a preamble. Options go on until the first operand. -/
def Preamble.drop (p : Preamble) : List Octets → List Octets
  | [] => []
  | argument :: rest =>
    match argument with
    | ['-', '-'] => rest.drop p.operands
    | ['-', c] =>
      if p.valued.contains c then
        match rest with
        | [] => []
        | _ :: rest => p.drop rest
      else p.drop rest
    | '-' :: _ :: _ => p.drop rest
    | _ => (argument :: rest).drop p.operands

def behind (p : Preamble) : Behavior := fun start t =>
  t.handOver start (p.drop t.arguments) failedToExecute

/-- Starts a command that goes by the first operand as its root, which has to be the root
there is. -/
def ownRoot : Behavior := fun start t =>
  withArguments t { untilOperand := true } 125 fun a =>
    match a.operands with
    | [] => t.reports (t.refuses "missing operand".toList 125)
    | root :: command =>
      match t.files.node root with
      | .error e =>
        t.reports (t.fails ("cannot change root directory to ".toList ++ Octets.shellQuoted root ++
          ": ".toList ++ reasonOf e) 125)
      | .ok _ => t.handOver start command failedToRun

/-- Starts a command while a file is locked. The command may be one for the shell. -/
def locked : Behavior := fun start t =>
  match (Preamble.drop { valued := "wE" } t.arguments) with
  | _ :: ['-', 'c'] :: command :: _ =>
    t.handOver start ["sh".toList, ['-', 'c'], command] failedToExecute
  | _ :: command => t.handOver start command failedToExecute
  | [] => t.reports { left := some t.input, status := 64 }

/-!
## Commands one after the other

What comes of commands that a program starts in turn: each begins when the one before it has
ended, and finds the files as that one has left them.
-/

structure Sequel where
  time : Nat := 0
  marks : List Mark := []
  files : Files
  changed : Bool := false
  input : Octets := []
  lingers : Nat := 0

namespace Sequel

def prints (s : Sequel) (stream : Stream) (text : Octets) : Sequel :=
  { s with marks := s.marks ++ Mark.ofText s.time stream text }

def withFiles (s : Sequel) (files : Files) : Sequel := { s with files, changed := true }

/-- Takes note of a performance that begins at some time. -/
def after (s : Sequel) (begins : Nat) (p : Performance) : Sequel :=
  { s with
    time := begins + p.duration
    marks := s.marks ++ Mark.later begins p.marks
    files := (p.files.map s.files.seenAfter).getD s.files
    changed := s.changed || p.files.isSome
    input := p.left
    lingers := max s.lingers (begins + p.lingers) }

def run (s : Sequel) (t : Task) (start : Start) (command : List Octets)
    (complaint : Octets → Octets → Octets) : Sequel × Performance :=
  let p := { t with input := s.input, inputEnds := 0, files := s.files }.handOver start command
    complaint
  (s.after s.time p, p)

def performance (s : Sequel) (left : Octets) (status : Nat) : Performance :=
  { duration := s.time, marks := Mark.inOrder s.marks, left, status, lingers := s.lingers
    files := if s.changed then some s.files else none }

end Sequel

/-!
## A limit on time

A program that starts a command and ends it with a signal when it takes too long. Some
signals do not end a command; a second signal may follow that ends every command.
-/

structure Limit where
  /-- The nanoseconds that a command may take. Nought means that there is no limit. -/
  time : Nat
  signal : Signal := Signal.terminate
  /-- The nanoseconds between the signal and the one that ends every command. -/
  grace : Option Nat := none
  /-- Whether the status is that of the command in any case. -/
  keepsStatus : Bool := false
  deriving DecidableEq, Repr

namespace Limit

/-- A performance that has been ended by a signal. The one that ends every command also
ends the program that has sent it. -/
def ended (l : Limit) (time : Nat) (signal : Signal) (p : Performance) : Performance :=
  if signal = Signal.kill then p.cutOff time signal.status (some signal)
  else p.cutOff time (if l.keepsStatus then signal.status else 124) none

def apply (l : Limit) (p : Performance) : Performance :=
  if l.time = 0 ∨ p.duration ≤ l.time then p
  else if l.signal.isFatal then l.ended l.time l.signal p
  else
    match l.grace with
    | some grace =>
      if grace = 0 ∨ p.duration ≤ l.time + grace then { p with status := 124 }
      else l.ended (l.time + grace) Signal.kill p
    | none => { p with status := 124 }

end Limit

/-- Starts a command and ends it when it takes too long. -/
def limited : Behavior := fun start t =>
  withArguments t
      { plain := "v", valued := "ks", untilOperand := true
        words := [("kill-after", 'k'), ("signal", 's'), ("verbose", 'v'),
          ("foreground", '\x01'), ("preserve-status", '\x02')] } 125 fun a =>
    let badInterval (text : Octets) : Performance :=
      t.reports (t.refuses ("invalid time interval ".toList ++ Octets.quoted text) 125)
    let badSignal := (a.values 's').find? fun name => (Signal.ofText? name).isNone
    let badGrace := (a.values 'k').find? fun text => (Duration.ofText? text).isNone
    match badSignal, badGrace, a.operands with
    | some name, _, _ =>
      t.reports (t.refuses (Octets.quoted name ++ ": invalid signal".toList) 125)
    | none, some text, _ => badInterval text
    | none, none, time :: command :: arguments =>
      match Duration.ofText? time with
      | none => badInterval time
      | some limit =>
        let signal := ((a.value? 's').bind Signal.ofText?).getD Signal.terminate
        let l : Limit :=
          { time := limit, signal, grace := (a.value? 'k').bind Duration.ofText?
            keepsStatus := a.has '\x02' }
        let p := t.handOver start (command :: arguments) failedToRun
        let done := l.apply p
        let said := t.complaint ("sending signal ".toList ++ signal.name ++ " to command ".toList ++
          Octets.quoted command)
        let isLate := decide (limit ≠ 0 ∧ limit < p.duration)
        if a.has 'v' && isLate then
          { done with marks := done.marks ++ Mark.ofText limit .errors said }
        else done
    | none, none, _ => t.reports { errors := t.hint, left := some t.input, status := 125 }

end CommandChains.Machine.Delegate
