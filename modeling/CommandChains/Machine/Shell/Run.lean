import CommandChains.Machine.Shell.Script

/-!
# Loops and choices

Loops go on until a condition says otherwise or a command leaves them. A loop that has gone
on for very many rounds is taken to go on for ever.
-/

namespace CommandChains.Machine.Shell

/-- What comes of the flow behind the body of a loop: whether the loop goes on. -/
def settle (s : State) : Bool × State :=
  match s.flow with
  | .going => (true, s)
  | .breaking n => (false, { s with flow := if n ≤ 1 then .going else .breaking (n - 1) })
  | .continuing n =>
    if n ≤ 1 then (true, { s with flow := .going })
    else (false, { s with flow := .continuing (n - 1) })
  | _ => (false, s)

def roundLimit : Nat := 20000

/-- A body again and again while a condition has the wanted outcome. -/
def repeatWhile (condition body : State → State) (wanted : Bool) : Nat → Nat → State → State
  | 0, _, s => s.waitUntil Duration.forever
  | rounds + 1, last, s =>
    let (goesOn, tested) := settle (condition s)
    if !goesOn then tested
    else if (tested.status == 0) != wanted then tested.withStatus last
    else
      let (goesOn, done) := settle (body tested)
      if goesOn then repeatWhile condition body wanted rounds done.status done else done

/-- Sets the variable of a loop, unless it cannot be changed. -/
def setLoopVariable (name word : Octets) (s : State) : State :=
  if s.isFixed name then
    match s.dialect with
    | .small => s.givingUp (name ++ ": is read only".toList) 2
    | .large => { s.failing (name ++ ": readonly variable".toList) 1 with flow := .breaking 1 }
  else s.set name word

/-- A body once for every word, which is the value of a variable. -/
def repeatEach (begin_ : State → State) (name : Octets) (body : State → State) :
    List Octets → State → State
  | [], s => s
  | word :: rest, s =>
    let set := setLoopVariable name word (begin_ s)
    let (goesOn, done) := settle (if set.goes then body set else set)
    if goesOn then repeatEach begin_ name body rest done else done

/-- Does something that is not the last thing to be done. -/
def early (work : State → State) (s : State) : State :=
  { work { s with isLast := false } with isLast := s.isLast }

/-- Runs the body of a loop in a shell that knows of it. -/
def inLoop (work : State → State) (s : State) : State :=
  early (fun s => { work { s with loops := s.loops + 1 } with loops := s.loops }) s

/-! ## Loops that count -/

/-- Works out a sum that stands in a script. Its value and the shell after it are given, or
nothing if it has no value. -/
def workOut (substitute : Substitute) (text : Octets) (s : State) : Option Int × State :=
  let one := Expanding.piece substitute (text.length + 1)
  match (Expanding.textWithin one text).run s with
  | (.error e, s) => (none, s.aborted e)
  | (.ok replaced, s) =>
    let s := s.told substitute ("(( ".toList ++ replaced ++ " ))".toList)
    match (Expanding.sum replaced).run s with
    | (.ok n, s) => (some n, s)
    | (.error e, s) => (none, s.failing ("((: ".toList ++ e.message) 1)

def sumCommand (substitute : Substitute) (text : Octets) (s : State) : State :=
  match workOut substitute text s with
  | (some n, s) => s.withStatus (if n = 0 then 1 else 0)
  | (none, s) => s

/-- A body again and again while a sum is not nought. -/
def repeatCounted (substitute : Substitute) (condition step : Octets) (body : State → State) :
    Nat → State → State
  | 0, s => s.waitUntil Duration.forever
  | rounds + 1, s =>
    let (value, tested) :=
      if condition.all Octets.isSpace then (some 1, s) else workOut substitute condition s
    match value with
    | none => tested
    | some 0 => tested
    | some _ =>
      let (goesOn, done) := settle (body tested)
      if !goesOn then done
      else
        let (stepped, after) :=
          if step.all Octets.isSpace then (some 0, done) else workOut substitute step done
        if stepped.isSome then repeatCounted substitute condition step body rounds after else after

/-- A loop with a sum before it, one before and one after every round. -/
def countedLoop (substitute : Substitute) (start condition step : Octets) (body : State → State)
    (s : State) : State :=
  let (value, begun) :=
    if start.all Octets.isSpace then (some 0, s) else workOut substitute start s
  if value.isNone then begun
  else repeatCounted substitute condition step body roundLimit (begun.withStatus 0)

/-! ## Choices by somebody -/

/-- Blanks from one column to another one, with tabs where they fit. -/
def blanksTo : Nat → Nat → Nat → Octets
  | 0, _, _ => []
  | rounds + 1, start, stop =>
    if stop ≤ start then []
    else if start / 8 < stop / 8 then '\t' :: blanksTo rounds (start + 8 - start % 8) stop
    else ' ' :: blanksTo rounds (start + 1) stop

/-- The columns of the screen that choices are made on. -/
def screenWidth : Nat := 80

def menu (words : List Octets) : Octets :=
  if words.isEmpty then ['\n']
  else
    let digits (n : Nat) : Nat := (Octets.ofNat n).length
    let count := words.length
    let wide := (words.map List.length).foldl max 0 + digits count + 4
    let columns := max 1 (screenWidth / wide)
    let rows := (count + columns - 1) / columns
    let columns := (count + rows - 1) / rows
    let (rows, columns) := if rows = 1 then (columns, 1) else (rows, columns)
    (List.range rows).flatMap fun row =>
      let places := (List.range columns).filter fun k => row + k * rows < count
      let cells := places.flatMap fun k =>
        let n := row + k * rows
        let room := if k = 0 then digits rows else digits count
        let cell := Octets.padded room (Octets.ofNat (n + 1)) ++ ") ".toList ++ words.getD n []
        let isLast := !decide (n + rows < count)
        cell ++ if isLast then [] else blanksTo wide (k * wide + cell.length) ((k + 1) * wide)
      cells ++ ['\n']

/-- Lets somebody choose words again and again, where `readReply` reads what is chosen and
`shows` says whether the words are to be shown first. -/
def repeatChoice (readReply : State → State) (name : Octets) (words : List Octets)
    (body : State → State) : Nat → Bool → State → State
  | 0, _, s => s.waitUntil Duration.forever
  | rounds + 1, shows, s =>
    let s := if shows then s.say 2 (menu words) else s
    let s := s.say 2 ((s.text? "PS3").getD "#? ".toList)
    let read := readReply (s.withStatus 0)
    let reply := (read.text? "REPLY").getD []
    if read.status != 0 then (read.say 1 ['\n']).withStatus 1
    else if reply.isEmpty then repeatChoice readReply name words body rounds true read
    else
      let chosen := match Octets.decimal? reply with
        | some (n + 1) => words.getD n []
        | _ => []
      let (goesOn, done) := settle (body (read.set name chosen))
      if goesOn then
        repeatChoice readReply name words body rounds (((done.text? "REPLY").getD []).isEmpty) done
      else done

/-! ## Choices by patterns -/

def fitting (substitute : Substitute) (text : Octets) : List Word → Expanding Bool
  | [] => pure false
  | w :: rest => do
    let pattern ← Expanding.wholePattern substitute w
    let style ← Expanding.style
    if fits style pattern text then pure true else fitting substitute text rest

/-- Runs the first of some arms that fits a text, and those that it leads on to. `falls`
says whether the first one is run in any case, and `otherwise` what is done if there is
none. -/
def runArms (run : Runner) (substitute : Substitute) (text : Octets) :
    Bool → (State → State) → Action → State → State
  | falls, otherwise, .arm patterns body ending rest, s =>
    let chosen (s : State) : State :=
      let done := match body with
        | .nothing => s.withStatus 0
        | body => run body s
      if !done.goes then done
      else
        match ending with
        | .leaves => done
        | .fallsThrough => runArms run substitute text true id rest done
        | .looksOn => runArms run substitute text false id rest done
    if falls then chosen s
    else
      (fitting substitute text patterns).andThen (fun found s =>
        if found then chosen s else runArms run substitute text false otherwise rest s) s
  | _, otherwise, _, s => otherwise s

/-!
## Parts of scripts in places of their own

Some parts of a script are run by a shell in the place of the one that runs the script:
what they do to variables is lost. Some of them run at the same time as others.
-/

/-- Runs a part of a script that changes nothing in the shell. -/
def inPlace (run : Runner) (body : Action) (s : State) : State :=
  let inner := leave run (run body { s.sub with number := s.nextNumber })
  let back := (s.after inner).keepPrinting inner
  back.heed (if inner.forOwner then none else inner.signal) true

/-- Whether a command prints to the streams of the shell. -/
def printsHere (body : Action) : Bool :=
  let leads (r : Redirection) : Bool :=
    r.stream == 1 && r.kind != .reading && r.kind != .text && r.kind != .sharing
  match body with
  | .simple _ _ _ redirections | .redirected _ redirections => !redirections.any leads
  | _ => true

/-- The first number that no job that still counts goes by. -/
def freePlace (s : State) : Nat :=
  let used := (s.jobs.filter fun job => !(job.waited && job.over ≤ s.clock)).map Job.place
  ((List.range (used.length + 1)).map (· + 1)).find? (fun n => !used.contains n) |>.getD 1

/-- Runs a command beside the shell. It reads no input. -/
def beside (run : Runner) (body : Action) (s : State) : State :=
  let number := s.nextNumber
  let own := { s.sub with number, nextNumber := number + 1 }
  let inner := leave run (run body (own.open_ 0 (.text [] 0)))
  let left := inner.jobs.flatMap Job.printed
  let printed := (inner.printedSince s ++ left).mergeSort fun a b => decide (a.time ≤ b.time)
  let place := freePlace s
  let job : Job :=
    { number, place, text := Action.shown 0 body, starts := s.clock, ends := inner.clock
      status := inner.status, signal := inner.signal, printed, holds := printsHere body }
  { s with
    jobs := (s.jobs.filter fun job => job.place != place) ++ [job]
    nextNumber := max inner.nextNumber (number + 1), lastNumber := some number, status := 0
    files := s.files.seenAfter inner.files, nextChannel := inner.nextChannel
    channels := inner.channels, companions := inner.companions
    lingers := max s.lingers inner.allEnds }

def lastTime (printed : List Printed) : Nat := printed.foldl (fun n m => max n m.time) 0

/-- Runs two commands at once, where the output of the first one is the input of the
second one. A first command that never ends is ended when nobody reads any more what it
prints. -/
def pipe (run : Runner) (first second : Action) (s : State) : State :=
  let channel := s.nextChannel
  let left := leave run (run first ({ s.sub with number := s.nextNumber }.open_ 1 .printed))
  let all := (left.printedSince s ++ left.jobs.flatMap Job.printed).mergeSort
    fun a b => decide (a.time ≤ b.time)
  let said := all.filter fun m => m.channel = channel
  let text := said.flatMap Printed.text
  let others := all.filter fun m => m.channel != channel
  let reader (ends : Nat) : State :=
    let start : State :=
      { s.sub with
        channels := left.channels, nextChannel := left.nextChannel, companions := left.companions
        files := s.files.seenAfter left.files, printed := others.reverse ++ s.printed
        nextNumber := left.nextNumber + 1, number := left.nextNumber, seed := left.seed }
    leave run (run second (start.open_ 0 (.text text ends)))
  let endless := decide (Duration.forever ≤ left.clock)
  let early := reader (lastTime said)
  let unread := !(early.channels.lookup left.nextChannel).any fun c =>
    match c with
    | .text rest _ => rest.isEmpty
    | _ => true
  let broken := endless && !text.isEmpty && unread
  let right := if broken then early else reader (max s.clock left.allEnds)
  let clock := if broken then right.clock else max left.clock right.clock
  let printed := right.printed.filter fun m => !broken || decide (m.time ≤ clock)
  let forOwner := left.forOwner || right.forOwner
  let pendingForOwner := left.pendingForOwner ++ right.pendingForOwner
  let back := (s.after { right with
    clock, printed, forOwner, pendingForOwner
    signal := if left.forOwner then left.signal else right.signal }).keepPrinting right
  let done := back.waitUntil clock
  let told := if broken || left.forOwner then done else done.heed left.signal false
  let told := if right.forOwner then told else told.heed right.signal false
  let more := match second with
    | .piped _ _ => right.pipeStatus
    | _ => [right.status]
  let fails := s.settings.contains "pipefail" && right.status == 0
  { told with
    pipeStatus := left.status :: more, status := if fails then left.status else right.status }

/-! ## Companions -/

/-- What a command says to all that it is told. -/
def replyOf (run : Runner) (body : Action) (s : State) (told : Octets) : Octets :=
  let work (s : State) : State := run body (s.open_ 0 (.text told s.clock))
  (captured run work s).1

/-- Runs a command beside the shell that can be talked to: what it says is heard on one
stream, and what it is told is printed on another one. -/
def together (run : Runner) (name : Octets) (body : Action) (s : State) : State :=
  let n := s.nextNumber
  let companion : Companion := { reply := replyOf run body s }
  let s := { s with nextNumber := n + 1, companions := (n, companion) :: s.companions }
  let heard := Expanding.freeStream s
  let s := s.open_ heard (.heard n)
  let told := (((List.range 50).map fun k => 60 - k).find? fun k =>
    (s.streams.lookup k).isNone).getD 60
  let s := s.open_ told (.told n)
  let s := s.setValue name (.row [(0, Octets.ofNat heard), (1, Octets.ofNat told)])
  let s := s.setValue (name ++ "_PID".toList) (.text (Octets.ofNat n))
  { s with lastNumber := some n, status := 0 }

/-- Runs the scripts that read what was written to the paths that stand for them. -/
def drainSinks (run : Runner) (before : List (Nat × Octets)) (s : State) : State :=
  let due := s.sinks.filter fun entry => !before.any fun old => old.1 == entry.1
  let work (s : State) (entry : Nat × Octets) : State :=
    let told := ((s.companions.lookup entry.1).map Companion.told).getD []
    let script (s : State) : State :=
      runText run entry.2 { (s.open_ 0 (.text told s.clock)) with origin := none }
    let inner := leave run (script s.sub)
    { ((s.after inner).keepPrinting inner) with status := s.status }
  due.foldl work { s with sinks := before }

/-!
## How commands and scripts are run

What a shell does with a command, and with one command after the other.
-/

/-!
## Simple commands

A simple command is run by its words: the first one names a function, a command of the
shell itself or a program. What it sets belongs to the command alone, unless there is no
command.
-/

/-! ## Programs -/

def State.canPrint (s : State) (stream : Nat) : Bool :=
  match s.channel? stream with
  | some .printed | some (.told _) | some (.update _ _) => true
  | some (.file outlet) => outlet != .full
  | _ => false

def State.perform (name : Octets) (p : Performance) (s : State) : State :=
  let start := s.clock
  let prints := p.marks.any fun m => m.stream = .output ∧ !m.text.isEmpty
  let fails := prints && !s.canPrint 1
  let reason := match s.channel? 1 with
    | some (.file .full) => "No space left on device"
    | _ => "Bad file descriptor"
  let complaint : Mark :=
    ⟨p.duration, .errors, name ++ ": write error: ".toList ++ reason.toList ++ ['\n']⟩
  let marks := if fails then (p.marks.filter fun m => m.stream != .output) ++ [complaint] else p.marks
  let s := match p.files with
    | some files => { s with files := s.files.seenAfter files }
    | none => s
  let s := { s.add (Mark.later start marks) with clock := start }
  let s := (if (s.channel? 0).isSome then s.leave 0 p.left else s)
  let s : State := { s with
    status := if fails then 1 else p.status, lingers := max s.lingers (start + p.lingers) }
  (s.waitUntil (start + p.duration)).heed p.signal true

/-- What a program is given to do by a shell. -/
def State.taskFor (s : State) (name : Octets) (arguments : List Octets) : Task :=
  let (input, ends) := s.input
  let path := (Builtin.pathOf? s name).getD name
  let replaces := s.isLast && (s.isArgument || s.depth != 0) && s.traps.isEmpty
  let level := ((s.text? "SHLVL").bind Octets.decimal?).getD 1
  let inner : State := if replaces then s.set "SHLVL".toList (Octets.ofNat (level - 1)) else s
  let told : Environment :=
    if s.isLarge then
      (inner.bindings.environment s.dialect).erase ['_'] ++ [(['_'], path)]
    else s.bindings.environment s.dialect
  let streams := s.streams.filterMap fun entry =>
    if entry.1 < 3 then none else (s.read? entry.1).map fun found => (entry.1, found.1)
  { name, arguments, environment := told, input, inputEnds := ends - s.clock
    streams, files := s.files, niceness := s.niceness }

/-- Starts a program and waits for its end. A file that is no program but can be run is a
script for a shell of the same kind. -/
def startProgram (start : Start) (command : List Octets) (s : State) : Except SystemError State :=
  match command with
  | [] => .ok s
  | name :: arguments =>
    let task := s.taskFor name arguments
    match start task with
    | .ok p => .ok (s.perform name p)
    | .error e =>
      if e = FileTree.noProgram then
        let path := (Builtin.pathOf? s name).getD name
        let shell := if s.isLarge then "/bin/bash" else "/bin/sh"
        (start { task with name := shell.toList, arguments := path :: arguments }).map
          fun p => s.perform name p
      else .error e

def cannotStart (name : Octets) (e : SystemError) (s : State) : State :=
  let isPath := name.contains '/'
  match s.dialect with
  | .small =>
    let refuse (reason : Octets) (status : Nat) : State :=
      s.commandFailing (name ++ ": ".toList ++ reason) status
    if name.isEmpty then refuse "Permission denied".toList 127
    else if e = FileTree.notFound ∨ e = FileTree.notADirectory then refuse "not found".toList 127
    else refuse (reasonOf e) 126
  | .large =>
    let refuse (reason : Octets) (status : Nat) : State :=
      s.failing (name ++ ": ".toList ++ reason) status
    let isDirectory := isPath && (s.files.node name).toOption.any Node.isDirectory
    if isDirectory then refuse "Is a directory".toList 126
    else if e = FileTree.notFound then
      refuse (if isPath then reasonOf e else "command not found".toList) 127
    else if e = FileTree.notADirectory then refuse (reasonOf e) 126
    else refuse (reasonOf e) 126

def runProgram (start : Start) (name : Octets) (arguments : List Octets) (s : State) : State :=
  let s := match name.contains '/', Builtin.pathOf? s name with
    | false, some path => Builtin.remember name path 1 s
    | _, _ => s
  match startProgram start (name :: arguments) s with
  | .ok s => s
  | .error e => cannotStart name e s

/-! ## Functions -/

def call (run : Runner) (name : Octets) (body : Action) (arguments : List Octets) (s : State) :
    State :=
  let frame : Frame := { name, line := s.line }
  let inherited := s.traps.filter fun entry =>
    (entry.1 != debugTrap && entry.1 != returnTrap || s.has 'T') &&
      (entry.1 != errorTrap || s.has 'E')
  let start : State :=
    { s with arguments, frames := frame :: s.frames, loops := 0, traps := inherited }
  let start : State := if s.isLarge then start else { start with optionPlace := 1, optionOffset := 0 }
  let done := run body start
  let left := done.frames.headD frame
  let done := { done with flow := if done.flow = .returning then .going else done.flow }
  let done := heedMoment run returnTrap done
  let back := done.restore left.outside
  let kept := s.traps.filter fun entry =>
    !inherited.contains entry && !back.traps.any fun new => new.1 == entry.1
  let back : State := { back with
    arguments := s.arguments, frames := s.frames, loops := s.loops, line := s.line
    traps := kept ++ back.traps.filter fun entry => entry.1 != returnTrap || s.has 'T' }
  if s.isLarge then back
  else { back with optionPlace := s.optionPlace, optionOffset := s.optionOffset }

/-! ## Commands by their words -/

/-- Runs a command of the shell itself. One that nothing depends on leaves the script going
when it fails. -/
def runOwn (context : Context) (builtin : Builtin) (name : Octets) (arguments : List Octets)
    (s : State) : State :=
  let isSpecial := Builtin.special.contains (String.ofList name)
  let done := builtin context arguments { s with command := some name }
  let done := { done with command := s.command }
  if s.isLarge || isSpecial || done.flow != .discarding then done else { done with flow := .going }

/-- Runs a command by its words, where names that the script defines may count. -/
def invoke (start : Start) (run : Runner) (definitions : Bool) :
    Nat → List Octets → State → State
  | _, [], s => s.withStatus 0
  | 0, _, s => s
  | depth + 1, name :: arguments, s =>
    let context : Context :=
      { substitute := substitute run, runText := runText run, program := startProgram start
        invoke := invoke start run false depth }
    let function := if definitions then s.functions.lookup name else none
    let isSpecial := Builtin.special.contains (String.ofList name) && !s.isLarge
    match function, Builtin.named? s name with
    | some body, builtin =>
      match isSpecial, builtin with
      | true, some builtin => runOwn context builtin name arguments s
      | _, _ => call run name body arguments s
    | none, some builtin => runOwn context builtin name arguments s
    | none, none => runProgram start name arguments s

/-- The most commands in one another that only name a command. -/
def invocationLimit : Nat := 100

def declaring : List String := ["export", "readonly", "local", "declare", "typeset"]

/-- Whether a word looks like a setting before anything has been put in its place. -/
def isSettingWord (dialect : Dialect) (w : Word) : Bool :=
  match w.pieces with
  | p :: _ =>
    p.kind == .text && !p.quoted && (Reader.settingFront? dialect p.text).isSome
  | [] => false

def declares : List Word → Bool
  | [] => false
  | w :: rest =>
    match w.plain? with
    | some name =>
      let text := String.ofList name
      declaring.contains text || ((text == "command" || text == "builtin") && declares rest)
    | none => false

/-- The words of a command after everything has been put in its place. -/
def commandWords (substitute : Substitute) (words : List Word) : Expanding (List Octets) := do
  let dialect := (← get).dialect
  let settings := declares words
  let one (w : Word) : Expanding (List Octets) := do
    if settings && isSettingWord dialect w then pure [← Expanding.wholeText substitute w true]
    else Expanding.wordsOf substitute w
  pure (← words.mapM one).flatten

/-- Makes settings, one after the other, where those that cannot be made are left out. Gives
the names of those that have been made. -/
def makeSettings (substitute : Substitute) :
    List Setting → State → List Octets × State
  | [], s => ([], s)
  | t :: rest, s =>
    match (Expanding.setting substitute t).run s with
    | (.ok shown, s) =>
      let (names, s) := makeSettings substitute rest (s.told substitute shown)
      (t.name :: names, s)
    | (.error e, s) =>
      let kept := s.status
      makeSettings substitute rest ({ s.aborted e with flow := .going }.withStatus kept)

/-- Lets commands be told about variables with some names. -/
def exporting (names : List Octets) (s : State) : State :=
  names.foldl (fun s name => s.alterVariable name fun v => { v with exported := true }) s

/-- Tells about a command on the stream of errors as it was before. -/
def toldBefore (substitute : Substitute) (before : State) (text : Octets) (s : State) : State :=
  { { s with streams := before.streams }.told substitute text with streams := s.streams }

def settingsOnly (substitute : Substitute) (settings : List Setting)
    (redirections : List Redirection) (s : State) : State :=
  s.withStreams substitute redirections fun changed =>
    let finish (s : State) : State := s.withStatus (s.pieceStatus.getD 0)
    match s.dialect with
    | .small =>
      (Expanding.settings substitute settings).andThen (fun shown done =>
        if shown.isEmpty then finish done
        else finish (toldBefore substitute s (Octets.joined [' '] shown) done)) changed
    | .large =>
      let one (t : Setting) (s : State) : State :=
        (Expanding.setting substitute t).andThen (fun shown s => s.told substitute shown) s
      finish' (settings.foldl (fun s t => if s.goes then one t s else s) changed)
where
  /-- The status of the last script in a word, unless something has gone wrong. -/
  finish' (s : State) : State := if s.goes then s.withStatus (s.pieceStatus.getD 0) else s

/-- Runs a command of the small shell by its words. -/
def commandSmall (start : Start) (run : Runner) (settings : List Setting)
    (name : Octets) (arguments : List Octets) (redirections : List Redirection) (s : State) :
    State :=
  let substitute := substitute run
  let isSpecial := Builtin.special.contains (String.ofList name)
  let refuse (e : Abort) (s : State) : State :=
    let s := s.aborted e
    if isSpecial && s.goes then { s with flow := .discarding } else s
  if name = "exec".toList ∧ arguments = [] then
    match (Expanding.redirectAll substitute redirections).run s with
    | (.ok (), s) => s.withStatus 0
    | (.error e, s) => refuse e s
  else
    s.withStreams substitute redirections (fun changed =>
      (Expanding.settings substitute settings).andThen (fun shown done =>
        let told := toldBefore substitute s
          (Octets.joined [' '] (shown ++ name :: arguments)) done
        let work := invoke start run true invocationLimit (name :: arguments)
        if isSpecial then work told
        else
          let names := settings.map (·.name)
          let back := work (exporting names told)
          back.restore (names.map fun n => (n, s.bindings.lookup n))) changed) refuse

/-- Runs a command of the large shell by its words. -/
def commandLarge (start : Start) (run : Runner) (settings : List Setting)
    (name : Octets) (arguments : List Octets) (redirections : List Redirection) (s : State) :
    State :=
  let substitute := substitute run
  let (names, set) := makeSettings substitute settings s
  let told := set.told substitute
    (Octets.joined [' '] ((name :: arguments).map Quoting.sparing))
  if name = "exec".toList ∧ arguments = [] then
    match (Expanding.redirectAll substitute redirections).run told with
    | (.ok (), s) => s.withStatus 0
    | (.error e, s) => s.aborted e
  else
    told.withStreams substitute redirections fun changed =>
      let back := invoke start run true invocationLimit (name :: arguments) (exporting names changed)
      back.restore (names.map fun n => (n, s.bindings.lookup n))

def simple (start : Start) (run : Runner) (settings : List Setting) (words : List Word)
    (redirections : List Redirection) (s : State) : State :=
  let substitute := substitute run
  (commandWords substitute words).andThen (fun words s =>
    match words, s.dialect with
    | [], _ => settingsOnly substitute settings redirections s
    | name :: arguments, .small =>
      commandSmall start run settings name arguments redirections s
    | name :: arguments, .large =>
      let done := commandLarge start run settings name arguments redirections s
      { done with lastWord := (name :: arguments).getLast?.getD [] })
    { s with pieceStatus := none }

/-!
## How scripts are run

A shell runs one command after the other. Parts of a script that run in a place of their
own change nothing in the shell but the time, the input, the files and what has been
printed.
-/

/-- What is done behind a command: signals are heeded, and after a failure that nobody looks
at the script may be left. -/
def behind (run : Runner) (s : State) : State :=
  let s := heedPending run s
  if s.goes && !s.tested && s.status != 0 then
    let s := heedMoment run errorTrap s
    if s.goes && s.has 'e' then { s with flow := .exiting } else s
  else s

/-- What is done behind a command that is no row of commands. -/
def behindOne (run : Runner) (s : State) : State :=
  behind run { s with pipeStatus := [s.status] }

def looking (work : State → State) (s : State) : State :=
  early (fun s => { work { s with tested := true } with tested := s.tested }) s

/-- What is told about how long a command took. -/
def shownTime (portable : Bool) (nanoseconds : Nat) : Octets :=
  let milliseconds := nanoseconds / 1000000
  let seconds := milliseconds / 1000
  let fraction := Octets.padded 3 (Octets.ofNat (milliseconds % 1000)) '0'
  if portable then
    "real ".toList ++ Octets.ofNat seconds ++ '.' :: fraction.take 2 ++
      "\nuser 0.00\nsys 0.00\n".toList
  else
    "\nreal\t".toList ++ Octets.ofNat (seconds / 60) ++ 'm' :: Octets.ofNat (seconds % 60) ++
      '.' :: fraction ++ "s\nuser\t0m0.000s\nsys\t0m0.000s\n".toList

/-- Tells about the beginning of a round of a loop over words. -/
def tellRound (substitute : Substitute) (kind : String) (name : Octets)
    (words : Option (List Word)) (s : State) : State :=
  if s.isLarge then
    let list := match words with
      | some words => shownWords words
      | none => "\"$@\"".toList
    s.told substitute (kind.toList ++ name ++ " in ".toList ++ list)
  else s

/-- Runs a command, where commands are at most so deep in one another. -/
def run (start : Start) : Nat → Runner
  | 0, _, s => s.waitUntil Duration.forever
  | depth + 1, action, s =>
    let go := run start depth
    let substitute := substitute go
    let words (list : Option (List Word)) : Expanding (List Octets) :=
      match list with
      | none => do pure (← get).arguments
      | some list => Expanding.allWords substitute list
    if !s.goes || s.has 'n' then s
    else
      match action with
      | .nothing => s
      | .simple line settings words redirections =>
        let before := heedMoment go debugTrap { s with line }
        if !before.goes then before
        else
          let done := simple start go settings words redirections before
          behindOne go (drainSinks go s.sinks done)
      | .redirected body redirections =>
        let done := s.withStreams substitute redirections (early (go body))
        drainSinks go s.sinks { done with isLast := s.isLast }
      | .grouped body => go body s
      | .subshell body => behindOne go (inPlace go body s)
      | .both first second => go second (early (go first) s)
      | .meanwhile body => beside go body s
      | .ifGood first second =>
        let t := looking (go first) s
        if t.goes && t.status == 0 then go second t else t
      | .ifBad first second =>
        let t := looking (go first) s
        if t.goes && t.status != 0 then go second t else t
      | .negated body =>
        let t := looking (go body) s
        if t.goes then t.withStatus (if t.status = 0 then 1 else 0) else t
      | .piped first second => behind go (pipe go first second s)
      | .timed portable body =>
        let done := early (go body) s
        done.say 2 (shownTime portable (done.clock - s.clock))
      | .choose condition good bad =>
        let t := looking (go condition) s
        if !t.goes then t
        else if t.status = 0 then go good t
        else go bad (t.withStatus 0)
      | .repeated wanted condition body =>
        inLoop (repeatWhile (looking (go condition)) (go body) wanted roundLimit 0) s
      | .each line name list body =>
        (words list).andThen (fun texts s =>
          let begin_ := tellRound substitute "for " name list
          inLoop (repeatEach begin_ name (go body) texts) (s.withStatus 0)) { s with line }
      | .selected line name list body =>
        (words list).andThen (fun texts s =>
          let s := tellRound substitute "select " name list s
          let context : Context :=
            { substitute, runText := fun _ s => s, program := fun _ s => .ok s
              invoke := fun _ s => s }
          if texts.isEmpty then s.withStatus 0
          else
            inLoop (repeatChoice (Builtin.readLarge context []) name texts (go body)
              roundLimit true) s) { s with line }
      | .counted line start condition step body =>
        inLoop (countedLoop substitute start condition step (go body)) { s with line }
      | .matched line w arms =>
        (Expanding.wholeText substitute w).andThen (fun text s =>
          let s := if s.isLarge then
              s.told substitute ("case ".toList ++ w.source ++ " in".toList)
            else s
          runArms go substitute text false (State.withStatus · 0) arms s) { s with line }
      | .arm _ body _ _ => go body s
      | .define name body =>
        { s with
          functions := (name, body) :: s.functions.filter fun entry => entry.1 != name
          status := 0 }
      | .check line condition =>
        let before := heedMoment go debugTrap { s with line }
        behindOne go (checkWords substitute condition before)
      | .sum line text =>
        let before := heedMoment go debugTrap { s with line }
        behindOne go (sumCommand substitute text before)
      | .together name body => together go name body s

def depthLimit : Nat := 2000

end CommandChains.Machine.Shell
