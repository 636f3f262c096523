import CommandChains.Machine.Records.State
import CommandChains.Machine.Tool.Clock
import CommandChains.Machine.Records.Token

/-!
# Variables, arrays and fields

How a running program finds and changes what it knows. The number of fields is kept with the
fields, and the record is put together from them only when it is asked for.
-/

namespace CommandChains.Machine.Records

structure Setting where
  program : Program
  task : Task
  start : Start

inductive Stop where
  | next
  | nextFile
  | exit
  | leave (v : Value)
  | break_
  | continue_

abbrev Act := ExceptT Stop (StateM State)

namespace Act

variable {α : Type}

def fail (c : Setting) (message : Octets) : Act α := do
  modify fun s =>
    { s with status := 2, failed := true, sequel := s.sequel.prints .errors (c.task.complaint message) }
  throw .exit

def slot (name : String) : Act Slot := do
  let s ← get
  pure <| match s.locals.lookup name with
    | some slot => slot
    | none => (s.globals[name]?).getD (.value .unset)

def setSlot (name : String) (slot : Slot) : Act Unit :=
  modify fun s =>
    if s.locals.any fun entry => entry.1 == name then
      { s with locals := s.locals.map fun entry => if entry.1 == name then (name, slot) else entry }
    else { s with globals := s.globals.insert name slot }

/-- The value that a name stands for, without what is kept with the fields. -/
def plainly (name : String) : Act Value := do
  match ← slot name with
  | .value v => pure v
  | .array _ => pure .unset

def conversion : Act Octets := do
  match ← plainly "CONVFMT" with
  | .text s | .given s => pure s
  | _ => pure "%.6g".toList

def textOf (v : Value) : Act Octets := do
  match v with
  | .number x => do pure (textOfNumber (← conversion) x)
  | .text s | .given s => pure s
  | .unset => pure []

def named (name : String) : Act Octets := do textOf (← plainly name)

/-- The program cannot go on because of what it works with. -/
def failAtRecord (c : Setting) (message : Octets) : Act α := do
  let file ← named "FILENAME"
  let inFile ← named "FNR"
  let inAll ← named "NR"
  fail c ("run time error: ".toList ++ message ++ "\n\tFILENAME=\"".toList ++ file ++
    "\" FNR=".toList ++ inFile ++ " NR=".toList ++ inAll)

def expressionOf (c : Setting) (source : Octets) : Act Expression :=
  match Regex.ofText source with
  | .ok e => pure e
  | .error m => failAtRecord c (Regex.complaint source m)

/-! ## Arrays -/

/-- The place of the array that a name stands for. -/
def arrayOf (name : String) : Act Nat := do
  match ← slot name with
  | .array place => pure place
  | .value _ =>
    let place := (← get).arrayCount
    modify fun s => { s with arrayCount := place + 1 }
    setSlot name (.array place)
    pure place

def tableAt (place : Nat) : Act (Table Value) := do
  pure (((← get).arrays[place]?).getD {})

def alterTable (place : Nat) (change : Table Value → Table Value) : Act Unit :=
  modify fun s =>
    if s.arrays.contains place then { s with arrays := s.arrays.modify place change }
    else { s with arrays := s.arrays.insert place (change {}) }

/-- The element of an array, which is there from now on. -/
def element (place : Nat) (key : String × Option Int) : Act Value := do
  match (← tableAt place).get? key.1 with
  | some v =>
    alterTable place fun t => t.touch key.1 key.2
    pure v
  | none =>
    alterTable place fun t => t.set key.1 key.2 .unset
    pure .unset

def setElement (place : Nat) (key : String × Option Int) (v : Value) : Act Unit :=
  alterTable place fun t => t.set key.1 key.2 v

/-! ## Records -/

/-- What separates fields. A newline does as well where records end with empty lines. -/
def fieldSeparator (c : Setting) (text : Octets) : Act Separator := do
  let ends ← named "RS"
  match Separator.ofFields text with
  | .error m => failAtRecord c (Regex.complaint text m)
  | .ok sep =>
    if !ends.isEmpty then pure sep
    else
      match sep with
      | .character c => pure (.expression (.character [c, '\n']))
      | .expression e => pure (.expression (.either e (.character ['\n'])))
      | sep => pure sep

/-- Takes the record apart, if that has not been done. -/
def splitRecord (c : Setting) : Act Unit := do
  let s ← get
  if s.isSplit then pure ()
  else
    let sep ← fieldSeparator c (← named "FS")
    let fields := ((sep.split s.record).map Value.given).toArray
    modify fun s => { s with fields, isSplit := true }

def record : Act Octets := do
  let s ← get
  if s.isJoined then pure s.record
  else
    let between ← named "OFS"
    let texts ← s.fields.toList.mapM textOf
    let record := Octets.joined between texts
    modify fun s => { s with record, isJoined := true }
    pure record

def setRecord (record : Octets) : Act Unit :=
  modify fun s => { s with record, isSplit := false, isJoined := true }

def fieldLimit : Nat := 1000000

def fieldPlace (c : Setting) (v : Value) : Act Nat := do
  let n := truncated v.amount
  if n < 0 then failAtRecord c ("negative field index $".toList ++ Octets.ofInt n)
  else pure (min n.toNat fieldLimit)

def field (c : Setting) (place : Nat) : Act Value := do
  if place = 0 then pure (.given (← record))
  else
    splitRecord c
    pure (((← get).fields[place - 1]?).getD (.given []))

def setFieldCount (c : Setting) (count : Nat) : Act Unit := do
  splitRecord c
  modify fun s =>
    { s with
      fields := s.fields.extract 0 count ++ Array.replicate (count - s.fields.size) (.text [])
      isJoined := false }

def setField (c : Setting) (place : Nat) (v : Value) : Act Unit := do
  if place = 0 then setRecord (← textOf v)
  else
    splitRecord c
    if (← get).fields.size < place then setFieldCount c place
    modify fun s => { s with fields := s.fields.set! (place - 1) v, isJoined := false }

/-! ## Variables -/

def valueOfVariable (c : Setting) (name : String) : Act Value := do
  if name == "NF" && !(← get).locals.any fun entry => entry.1 == name then
    splitRecord c
    pure (.ofNat (← get).fields.size)
  else plainly name

def setVariable (c : Setting) (name : String) (v : Value) : Act Unit := do
  if name == "NF" && !(← get).locals.any fun entry => entry.1 == name then
    setFieldCount c (← fieldPlace c v)
  else
    if name == "FS" then splitRecord c
    setSlot name (.value v)

def countUp (name : String) : Act Unit := do
  let v ← plainly name
  setSlot name (.value (.number (v.amount + 1)))

end Act

/-!
## Files and commands of programs about records

Where records come from and where printed texts go. What is printed is kept until a command is
started, something is closed or the program ends; what is printed for a command is given to it
when it is closed.
-/

namespace Act

/-! ## Commands -/

def alterSequel (change : Delegate.Sequel → Delegate.Sequel) : Act Unit :=
  modify fun s => { s with sequel := change s.sequel }

/-- Starts a command in a shell, and waits for its end. It reads the input of the program, or
a text that is given to it. -/
def runCommand (c : Setting) (shell : String) (command : Octets) (given : Option Octets)
    (heard : Bool) : Act Performance := do
  let s := (← get).sequel
  let ends := match given with
    | some _ => 0
    | none => c.task.inputEnds - s.time
  let child : Task :=
    { c.task with input := given.getD s.input, inputEnds := ends, files := s.files }
  let p := child.handOver c.start [shell.toList, "-c".toList, command] Delegate.namedFirst
  let shown := if heard then { p with marks := p.marks.filter fun m => m.stream = .errors } else p
  let after := s.after s.time shown
  alterSequel fun _ => if given.isSome then { after with input := s.input } else after
  pure p

/-- The status of a command as a program is told it. -/
def statusOf (p : Performance) : Nat :=
  match p.signal with
  | some signal => 256 + signal.number
  | none => p.status

def flush : Act Unit := modify State.flush

/-- Lets a command work on what has been printed for it. -/
def finish (c : Setting) (link : Link) : Act Nat := do
  match link.usage with
  | .destination target kept =>
    modify fun s => s.put target kept.reverse.flatten
    pure 0
  | .consumer kept =>
    let p ← runCommand c "/bin/sh" link.name (some kept.reverse.flatten) false
    pure (statusOf p)
  | .source _ => pure 0
  | .producer _ status => pure status

/-- Closes everything with a name, and tells the status of the last one. -/
def close (c : Setting) (name : Octets) : Act Int := do
  if name == "/dev/stdout".toList || name == ['-'] then
    flush
    pure 0
  else
    let links := (← get).links.filter fun link => link.name == name
    modify fun s => { s with links := s.links.filter fun link => link.name != name }
    if links.isEmpty then pure (-1)
    else
      flush
      let statuses ← links.mapM (finish c)
      pure ((statuses.getLast?.getD 0 : Nat) : Int)

/-! ## Printing -/

def isConsumer : Usage → Bool
  | .consumer _ => true
  | _ => false

/-- Whether a usage is a file that is printed to. -/
def isDestination : Usage → Bool
  | .destination _ _ => true
  | _ => false

def isSource : Usage → Bool
  | .source _ => true
  | _ => false

def isProducer : Usage → Bool
  | .producer _ _ => true
  | _ => false

def printPlainly (text : Octets) : Act Unit :=
  modify fun s => { s with kept := text :: s.kept }

def printFor (name text : Octets) : Act Unit := do
  match (← get).find? name isConsumer with
  | some (link, s) =>
    match link.usage with
    | .consumer kept => set (s.withFront { link with usage := .consumer (text :: kept) })
    | _ => pure ()
  | none =>
    flush
    modify fun s => { s with links := { name, usage := .consumer [text] } :: s.links }

/-- Prints a text to a file, which is opened if it has not been. -/
def printTo (c : Setting) (adds : Bool) (name text : Octets) : Act Unit := do
  if name == ['-'] || name == "/dev/stdout".toList then printPlainly text
  else if name == "/dev/stderr".toList then alterSequel fun q => q.prints .errors text
  else
    match (← get).find? name isDestination with
    | some (link, s) =>
      match link.usage with
      | .destination target kept =>
        set (s.withFront { link with usage := .destination target (text :: kept) })
      | _ => pure ()
    | none =>
      match openPath (← get).sequel.files { empties := !adds } name with
      | .error e =>
        fail c ("cannot open \"".toList ++ name ++ "\" for output (".toList ++ reasonOf e ++ [')'])
      | .ok (target, files) =>
        alterSequel fun q => q.withFiles files
        modify fun s => { s with links := { name, usage := .destination target [text] } :: s.links }

/-! ## Reading -/

def openFeed (c : Setting) (name : Octets) : Act (Except SystemError Feed) := do
  let t := { c.task with files := (← get).sequel.files }
  if t.isInput name then pure (.ok { text := [], live := true })
  else
    pure <| match t.contents name with
    | .ok text => .ok { text }
    | .error e => .error e

/-- The next record of something that is read, and what is left. -/
def takeRecord (c : Setting) (f : Feed) : Act (Option Octets × Feed) := do
  let ends ← named "RS"
  match Separator.ofRecords ends with
  | .error m => failAtRecord c (Regex.complaint ends m)
  | .ok sep =>
    let input := (← get).sequel.input
    let taken := f.record sep portionLimit input
    if taken.looked then
      alterSequel fun q => { q with input := taken.input, time := max q.time c.task.inputEnds }
    pure (taken.record, taken.feed)

/-- The next record of a file, or nothing if there is none, or none if it cannot be read. -/
def takeFromFile (c : Setting) (name : Octets) : Act (Option (Option Octets)) := do
  let take (link : Link) (f : Feed) : Act (Option (Option Octets)) := do
    let (record, f) ← takeRecord c f
    modify fun s => s.withFront { link with usage := .source f }
    pure (some record)
  match (← get).find? name isSource with
  | some (link, s) =>
    set s
    match link.usage with
    | .source f => take link f
    | _ => pure none
  | none =>
    match ← openFeed c name with
    | .error e =>
      if e = FileTree.isADirectory then fail c "read error (Is a directory)".toList
      else pure none
    | .ok f =>
      let link : Link := { name, usage := .source f }
      modify fun s => { s with links := link :: s.links }
      take link f

def takeFromCommand (c : Setting) (name : Octets) : Act (Option Octets) := do
  let take (link : Link) (f : Feed) (status : Nat) : Act (Option Octets) := do
    let (record, f) ← takeRecord c f
    modify fun s => s.withFront { link with usage := .producer f status }
    pure record
  match (← get).find? name isProducer with
  | some (link, s) =>
    set s
    match link.usage with
    | .producer f status => take link f status
    | _ => pure none
  | none =>
    flush
    let p ← runCommand c "/bin/sh" name none true
    let f : Feed := { text := Mark.textOn .output p.marks }
    let link : Link := { name, usage := .producer f (statusOf p) }
    modify fun s => { s with links := link :: s.links }
    take link f (statusOf p)

def setting? (argument : Octets) : Option (String × Octets) :=
  let name := argument.takeWhile fun c => c.isAlphanum || c == '_'
  match name, argument.drop name.length with
  | c :: _, '=' :: value =>
    if c.isDigit then none else some (String.ofList name, Lexeme.unescaped (value.length + 1) value)
  | _, _ => none

/-- Opens the next file that the arguments name, or the input if they name none. The arguments
that set variables do so. -/
def openNext (c : Setting) : Nat → Act Bool
  | 0 => pure false
  | rounds + 1 => do
    let s ← get
    let count := (truncated (← plainly "ARGC").amount).toNat
    let enter (feed : Feed) : Act Bool := do
      modify fun s => { s with main := some feed, hasFiles := true }
      setSlot "FNR" (.value (.number 0))
      pure true
    if count ≤ s.argument then
      if s.hasFiles then pure false
      else
        setSlot "FILENAME" (.value (.text ['-']))
        enter { text := [], live := true }
    else
      modify fun s => { s with argument := s.argument + 1 }
      let table ← tableAt (← arrayOf "ARGV")
      let argument ← match table.get? (toString s.argument) with
        | some v => textOf v
        | none => pure []
      if argument.isEmpty then openNext c rounds
      else
        match setting? argument with
        | some (name, value) =>
          setVariable c name (.given value)
          openNext c rounds
        | none =>
          setSlot "FILENAME" (.value (.given argument))
          match ← openFeed c argument with
          | .ok feed => enter feed
          | .error e =>
            if e = FileTree.isADirectory then fail c "read error (Is a directory)".toList
            else fail c ("cannot open \"".toList ++ argument ++ "\" (".toList ++ reasonOf e ++ [')'])

def takeFromMain (c : Setting) : Nat → Act (Option Octets)
  | 0 => pure none
  | rounds + 1 => do
    match (← get).main with
    | some feed =>
      let (record, feed) ← takeRecord c feed
      match record with
      | some _ =>
        modify fun s => { s with main := some feed }
        countUp "NR"
        countUp "FNR"
        pure record
      | none =>
        modify fun s => { s with main := none }
        takeFromMain c rounds
    | none =>
      let count := (truncated (← plainly "ARGC").amount).toNat
      if ← openNext c (count + 2) then takeFromMain c rounds else pure none

/-- How many files the arguments name at most, with the input. -/
def mainRounds : Act Nat := do
  pure (2 * (truncated (← plainly "ARGC").amount).toNat + 4)

end Act

end CommandChains.Machine.Records
