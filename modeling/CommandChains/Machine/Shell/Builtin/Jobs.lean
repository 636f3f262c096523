import CommandChains.Machine.Shell.Builtin.Places

/-!
# Commands about what runs beside the shell

The commands of the shell that wait for what runs beside it, list it and send it signals,
and those that say what the shell does when it gets a signal itself.
-/

namespace CommandChains.Machine.Shell.Builtin

/-! ## Jobs -/

/-- A job that the shell has waited for: what it prints has been printed. -/
def finish (s : State) (job : Job) : State :=
  let others := s.jobs.map fun other =>
    if other.number = job.number then { other with printed := [], waited := true } else other
  { s with
    printed := job.printed.reverse ++ s.printed, jobs := others
    status := job.status }.waitUntil job.over

def isOver (s : State) (job : Job) : Bool := decide (job.over ≤ s.clock)

/-- The jobs that a shell lists: the small one those that are over, too, until they have
been listed. -/
def listedJobs (s : State) : List Job :=
  match s.dialect with
  | .small => s.jobs
  | .large => s.jobs.filter fun job => !isOver s job && !job.waited

def jobOf? (s : State) (word : Octets) : Option Job :=
  let jobs := listedJobs s
  match word with
  | ['%'] | ['%', '%'] | ['%', '+'] => jobs.getLast?
  | ['%', '-'] => jobs.dropLast.getLast?
  | '%' :: rest =>
    match Octets.decimal? rest with
    | some n => s.jobs.find? fun job => job.place = n
    | none =>
      if s.isLarge then jobs.reverse.find? fun job => rest.isPrefixOf job.text else none
  | word => (Octets.decimal? word).bind fun n => s.jobs.find? fun job => job.number = n

def jobState (s : State) (job : Job) : Octets :=
  if job.stopped.isSome then "Stopped".toList
  else if !isOver s job then "Running".toList
  else
    match job.signal with
    | some signal => signal.description
    | none =>
      if job.status = 0 then "Done".toList
      else
        match s.dialect with
        | .small => "Done(".toList ++ Octets.ofNat job.status ++ [')']
        | .large => "Exit ".toList ++ Octets.ofNat job.status

/-- A job in a line of a list, where the last two are marked. -/
def jobLine (s : State) (withNumber : Bool) (jobs : List Job) (job : Job) : Octets :=
  let mark :=
    if (jobs.getLast?.map Job.number) = some job.number then '+'
    else if (jobs.dropLast.getLast?.map Job.number) = some job.number then '-'
    else ' '
  let number := if withNumber then Octets.ofNat job.number ++ [' '] else []
  let front := '[' :: Octets.ofNat job.place ++ [']']
  match s.dialect with
  | .small =>
    Octets.filled 33 (front ++ ' ' :: mark :: ' ' :: number ++ jobState s job) ++ ['\n']
  | .large =>
    let behind := if isOver s job then [] else " &".toList
    front ++ mark :: (if withNumber then [' '] else [' ', ' ']) ++ number ++
      Octets.filled 24 (jobState s job) ++ job.text ++ behind ++ ['\n']

def noSuchJob (word : Octets) (s : State) : State :=
  match s.dialect with
  | .small => smallMistake ("No such job: ".toList ++ word) s
  | .large => s.commandFailing (word ++ ": no such job".toList) 1

def showJobs : Builtin := fun c arguments s =>
  let work (found : Options) (s : State) : State :=
    if hasOption 'x' found then c.invoke found.2 s
    else
      let all := listedJobs s
      let wanted := if found.2.isEmpty then
          (if hasOption 'r' found then all.filter fun job => !isOver s job && job.stopped.isNone
            else if hasOption 's' found then all.filter fun job => job.stopped.isSome
            else all).map fun job => Except.ok job
        else found.2.map fun word =>
          match jobOf? s word with
          | some job => .ok job
          | none => Except.error word
      let s := wanted.foldl (fun s job =>
        match job with
        | .ok job =>
          if !s.goes then s
          else if hasOption 'p' found then s.say 1 (Octets.ofNat job.number ++ ['\n'])
          else s.say 1 (jobLine s (hasOption 'l' found) all job)
        | .error word => if s.goes then noSuchJob word s else s) (s.withStatus 0)
      if s.isLarge || !found.2.isEmpty then s
      else { s with jobs := s.jobs.filter fun job => !isOver s job }
  withOptions (if s.isLarge then "lnprsx" else "lp") "" work arguments s

def waitNext (found : Options) (s : State) : State :=
  let waiting := s.jobs.filter fun job => !job.waited
  let wanted := if found.2.isEmpty then waiting
    else found.2.filterMap (jobOf? s)
  let next := wanted.foldl (fun (best : Option Job) job =>
    match best with
    | some other => if job.over < other.over then some job else best
    | none => some job) none
  match next with
  | none => s.withStatus 127
  | some job =>
    let s := finish s job
    match valueOf? 'p' found with
    | some name => s.set name (Octets.ofNat job.number)
    | none => s

def wait : Builtin := fun _ arguments s =>
  let work (found : Options) (s : State) : State :=
    if hasOption 'n' found then waitNext found s
    else if found.2.isEmpty then
      ((s.jobs.filter fun job => !job.waited).foldl finish s).withStatus 0
    else
      found.2.foldl (fun s word =>
        if !s.goes then s
        else
          match jobOf? s word with
          | some job =>
            let done := finish s job
            if job.waited then done.withStatus job.status else done.heed job.signal false
          | none =>
            let isNumber := (Octets.decimal? word).isSome
            match s.dialect with
            | .small =>
              if isNumber then s.withStatus 127
              else if word.head? = some '%' then noSuchJob word s
              else smallMistake (illegalNumber word) s
            | .large =>
              if isNumber then
                let text := "pid ".toList ++ word ++ " is not a child of this shell".toList
                s.commandFailing text 127
              else if word.head? = some '%' then (noSuchJob word s).withStatus 127
              else s.commandFailing ('\x60' :: word ++ "': not a pid or valid job spec".toList) 1) s
  withOptions (if s.isLarge then "nf" else "") (if s.isLarge then "p" else "") work arguments s

/-- Lets a job go on, which needs a shell that looks after terminals. -/
def resume : Builtin := fun _ arguments s =>
  match s.dialect with
  | .large => s.commandFailing "no job control".toList 1
  | .small =>
    match arguments with
    | word :: _ =>
      match jobOf? s word with
      | some _ => smallMistake ("job ".toList ++ word ++ " not created under job control".toList) s
      | none => noSuchJob word s
    | [] => smallMistake "No current job".toList s

def disown : Builtin := fun _ =>
  withOptions "har" "" fun found s =>
    let without (s : State) (job : Job) : State :=
      { s with
        printed := job.printed.reverse ++ s.printed, lingers := max s.lingers job.over
        jobs := s.jobs.filter fun other => other.number != job.number }
    if hasOption 'a' found then (s.jobs.foldl without s).withStatus 0
    else
      match found.2, (listedJobs s).getLast? with
      | [], some job => (without s job).withStatus 0
      | [], none => s.commandFailing "current: no such job".toList 1
      | words, _ =>
        words.foldl (fun s word =>
          match jobOf? s word with
          | some job => without s job
          | none => noSuchJob word s) (s.withStatus 0)

/-! ## Signals -/

/-- Sends a signal to the shell itself: what a script says about it is done later. -/
def signalSelf (signal : Signal) (s : State) : State :=
  match s.traps.lookup signal.number, signal.isForced with
  | some [], false => s.withStatus 0
  | some _, false => { s with pending := s.pending ++ [signal.number], status := 0 }
  | _, _ =>
    if signal.isFatal then
      { s with flow := .killed, signal := some signal, forOwner := true, status := signal.status }
    else if signal.isStop then s.waitUntil Duration.forever
    else s.withStatus 0

/-- Sends a signal to the first shell, perhaps from one in its place. -/
def signalOwner (signal : Signal) (s : State) : State :=
  if s.depth = 0 then signalSelf signal s
  else
    match s.ownerTraps.lookup signal.number, signal.isForced with
    | some [], false => s.withStatus 0
    | some _, false =>
      { s with pendingForOwner := s.pendingForOwner ++ [signal.number], status := 0 }
    | _, _ => signalSelf signal { s with traps := [] }

def signalJob (signal : Signal) (s : State) (job : Job) : State :=
  let hit : Job :=
    if job.over ≤ s.clock then job
    else if signal.isFatal then
      { job with
        ends := s.clock, status := signal.status, signal := some signal, stopped := none
        printed := job.printed.filter fun m => decide (m.time ≤ (job.stopped.getD s.clock)) }
    else
      match job.stopped with
      | none => if signal.isStop then { job with stopped := some s.clock } else job
      | some since =>
        if signal.isResumption then
          let pause := s.clock - since
          { job with
            ends := job.ends + pause, stopped := none
            printed := job.printed.map fun m =>
              if since < m.time then { m with time := m.time + pause } else m }
        else job
  { s with
    jobs := s.jobs.map fun other => if other.number = job.number then hit else other
    status := 0 }

def signalOne (signal : Signal) (s : State) (word : Octets) : State :=
  if !s.goes then s
  else if Octets.decimal? word = some ownNumber ∨ word = ['0'] then signalOwner signal s
  else if Octets.decimal? word = some s.number then
    { signalSelf signal s with forOwner := false }
  else
    match jobOf? s word with
    | some job =>
      if job.over ≤ s.clock && job.waited then gone word s else signalJob signal s job
    | none =>
      let digits := if word.head? = some '-' then word.tail else word
      if word.head? = some '%' then noSuchJob word s
      else if (Octets.decimal? digits).isSome then gone word s
      else
        match s.dialect with
        | .small => smallMistake (illegalNumber word) s
        | .large =>
          s.commandFailing (word ++ ": arguments must be process or job IDs".toList) 1
where
  gone (word : Octets) (s : State) : State :=
    match s.dialect with
    | .small => s.commandFailing "No such process\n".toList 1
    | .large => s.commandFailing ('(' :: word ++ ") - No such process".toList) 1

def signalUsage : Octets :=
  "Usage: kill [-s sigspec | -signum | -sigspec] [pid | job]... or\nkill -l [exitstatus]".toList

def signalLines : Octets :=
  "0\n".toList ++ (List.range Signal.last).flatMap fun n =>
    ((Signal.listName? (n + 1)).filter (fun name => name != "STKFLT") |>.getD
      (toString (n + 1))).toList ++ ['\n']

def killSmall : Builtin := fun _ arguments s =>
  let mistake : State := smallMistake signalUsage s
  let send (signal : Signal) (words : List Octets) : State :=
    if words.isEmpty then mistake else words.foldl (signalOne signal) (s.withStatus 0)
  let listed (words : List Octets) : State :=
    match words with
    | [] => prints signalLines s
    | word :: _ =>
      match smallNumber? word with
      | none => smallMistake (illegalNumber word) s
      | some n =>
        let n := if 128 < n then n - 128 else n
        match (if n = 0 then none else Signal.listName? n) with
        | some name => prints (name.toList ++ ['\n']) s
        | none => smallMistake ("invalid signal number or exit status: ".toList ++ word) s
  match arguments with
  | [] => mistake
  | ('-' :: name) :: rest =>
    match Signal.ofListName? name with
    | some signal => send signal rest
    | none =>
      withOptions "l" "s" (fun found _ =>
        match hasOption 'l' found, valueOf? 's' found with
        | true, none => listed found.2
        | true, some _ => mistake
        | false, some name =>
          match Signal.ofListName? name with
          | some signal => send signal found.2
          | none => smallMistake ("invalid signal number or name: ".toList ++ name) s
        | false, none => send Signal.terminate found.2) arguments s
  | words => send Signal.terminate words

def signalTable : Octets :=
  let numbers := (List.range (Signal.last + 1)).filter fun n => 0 < n ∧ n ≠ 32 ∧ n ≠ 33
  (numbers.zipIdx.flatMap fun (n, k) =>
    let name := "SIG" ++ (Signal.listName? n).getD ""
    let entry := Octets.padded 2 (Octets.ofNat n) ++ ") ".toList ++ name.toList
    entry ++ if (k + 1) % 5 = 0 then ['\n'] else ['\t']) ++ ['\n']

/-- The signal that a word means to the large shell. -/
def signalOf? (word : Octets) : Option Signal :=
  match Signal.ofText? word with
  | some signal => some signal
  | none =>
    let capital := word.map Char.toUpper
    Signal.ofListName? (if "SIG".toList.isPrefixOf capital then capital.drop 3 else capital)

/-- Tells names of signals by numbers and numbers by names. -/
def translateSignals (words : List Octets) (s : State) : State :=
  words.foldl (fun s word =>
    match Octets.decimal? word with
    | some n =>
      let n := if 128 < n then n - 128 else n
      match Signal.listName? n with
      | some name => s.say 1 (name.toList ++ ['\n'])
      | none => s.commandFailing (word ++ ": invalid signal specification".toList) 1
    | none =>
      match signalOf? word with
      | some signal => s.say 1 (Octets.ofNat signal.number ++ ['\n'])
      | none => s.commandFailing (word ++ ": invalid signal specification".toList) 1) (s.withStatus 0)

def killLarge : Builtin := fun _ arguments s =>
  let send (name : Octets) (words : List Octets) : State :=
    match signalOf? name with
    | none => s.commandFailing (name ++ ": invalid signal specification".toList) 1
    | some signal =>
      let words := if words.head? = some ['-', '-'] then words.tail else words
      if words.isEmpty then refuses s else words.foldl (signalOne signal) (s.withStatus 0)
  match arguments with
  | [] => refuses s
  | ['-', 'l'] :: words | ['-', 'L'] :: words =>
    if words.isEmpty then prints signalTable s else translateSignals words s
  | [['-', 's']] => refuses (s.commandFailing "-s: option requires an argument".toList 2)
  | [['-', 'n']] => refuses (s.commandFailing "-n: option requires an argument".toList 2)
  | ['-', 's'] :: name :: words | ['-', 'n'] :: name :: words => send name words
  | ['-', '-'] :: words => send "TERM".toList words
  | ('-' :: name) :: words => send name words
  | words => send "TERM".toList words

def kill : Builtin := byDialect killSmall killLarge

/-! ## Traps -/

/-- A shell that does something on a signal, or the usual thing. -/
def setTrap (number : Nat) (action : Option Octets) (s : State) : State :=
  let others := s.traps.filter fun entry => entry.1 != number
  match action with
  | some text => { s with traps := (number, text) :: others }
  | none => { s with traps := others }

def trapsInOrder (s : State) : List (Nat × Octets) :=
  s.traps.mergeSort fun a b => decide (a.1 ≤ b.1)

def trapSmall : Builtin := fun _ =>
  withOptions "" "" fun (_, arguments) s =>
    let rec setAll (action : Option Octets) : List Octets → State → State
      | [], s => s
      | word :: rest, s =>
        match Signal.ofListName? word with
        | some signal => setAll action rest (setTrap signal.number action s)
        | none => (s.say 2 ("trap: ".toList ++ word ++ ": bad trap\n".toList)).withStatus 1
    match arguments with
    | [] => prints ((trapsInOrder s).flatMap fun (n, action) =>
        "trap -- ".toList ++ Quoting.small action ++ ' ' :: ((Signal.listName? n).getD "").toList ++
          ['\n']) s
    | first :: words =>
      if words.isEmpty || (Octets.decimal? first).isSome then
        setAll none (first :: words) (s.withStatus 0)
      else setAll (if first = ['-'] then none else some first) words (s.withStatus 0)

/-- The number of what a word means in a trap of the large shell. -/
def trapNumber? (word : Octets) : Option Nat :=
  match String.ofList (word.map Char.toUpper) with
  | "DEBUG" => some debugTrap
  | "ERR" => some errorTrap
  | "RETURN" => some returnTrap
  | "SIGDEBUG" | "SIGERR" | "SIGRETURN" | "SIGEXIT" => none
  | _ => (signalOf? word).map Signal.number

/-- How the large shell names what a trap is for. -/
def trapName (n : Nat) : Octets :=
  if n = debugTrap then "DEBUG".toList
  else if n = errorTrap then "ERR".toList
  else if n = returnTrap then "RETURN".toList
  else if n = exitTrap then "EXIT".toList
  else ("SIG" ++ (Signal.listName? n).getD "").toList

def shownTraps (traps : List (Nat × Octets)) : Octets :=
  traps.flatMap fun (n, action) =>
    "trap -- ".toList ++ Quoting.single action ++ ' ' :: trapName n ++ ['\n']

def trapLarge : Builtin := fun _ arguments s =>
  let isReset := match arguments with
    | ['-'] :: _ => true
    | _ => false
  let work (found : Options) (s : State) : State :=
    let s := s.withStatus 0
    let change (action : Option Octets) (words : List Octets) : State :=
      words.foldl (fun s word =>
        match trapNumber? word with
        | some n => setTrap n action s
        | none => s.commandFailing (word ++ ": invalid signal specification".toList) 1) s
    if hasOption 'l' found then prints signalTable s
    else if hasOption 'p' found || found.2.isEmpty then
      let wanted := found.2.filterMap trapNumber?
      let own := s.traps.any fun entry => !entry.2.isEmpty
      let all := trapsInOrder (if own || s.depth = 0 then s else { s with traps := s.ownerTraps })
      let shown := if found.2.isEmpty then all else all.filter fun entry => wanted.contains entry.1
      match found.2.find? fun word => (trapNumber? word).isNone with
      | some word =>
        (s.say 1 (shownTraps shown)).commandFailing (word ++ ": invalid signal specification".toList) 1
      | none => prints (shownTraps shown) s
    else
      match found.2 with
      | [word] => if (trapNumber? word).isSome then change none [word] else refuses s
      | first :: words =>
        if first = ['-'] then change none words
        else if (Octets.decimal? first).isSome then change none (first :: words)
        else change (some first) words
      | [] => s
  if isReset then work ([], arguments) s else withOptions "lp" "" work arguments s

def trap : Builtin := byDialect trapSmall trapLarge

end CommandChains.Machine.Shell.Builtin
