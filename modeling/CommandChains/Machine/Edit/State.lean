import CommandChains.Machine.Delegate.Surroundings
import CommandChains.Machine.Edit.Script

/-!
# Where the line editor stands

What the line editor has read and has not printed yet, where lines come from and where they go.
Lines come from files one after the other; a file can also be edited, which means that what is
printed takes its place.
-/

namespace CommandChains.Machine.Edit

structure Feed where
  name : Octets
  text : Octets := []
  live : Bool := false
  broken : Option SystemError := none

structure Edited where
  path : Octets
  mode : Nat
  printed : List Octets := []

structure Editing where
  /-- What the names of the old files are made with, if they are kept. -/
  keeping : Octets := []
  follows : Bool := false

structure Setting where
  task : Task
  start : Start
  commands : Array Command
  quiet : Bool
  strict : Bool
  telling : Bool
  eager : Bool
  separate : Bool
  editing : Option Editing
  mark : Char
  /-- The columns of lines that are shown with everything visible. -/
  width : Nat
  /-- The place that is named with mistakes of the script. -/
  place : Octets

inductive Queued where
  | text (shown : Octets)
  | file (path : Octets)

structure State where
  sequel : Delegate.Sequel
  /-- What has been printed and is still kept, the latest first. -/
  printed : List Octets := []
  feed : Option Feed := none
  names : List Octets
  edited : Option Edited := none
  line : Octets := []
  number : Nat := 0
  ends : Bool := true
  kept : Octets := []
  /-- Whether the end of what is kept is printed too. -/
  keptEnds : Bool := true
  /-- Whether the end of the line printed last is owed. -/
  owing : Bool := false
  queue : List Queued := []
  /-- Whether something has been replaced since a line was taken. -/
  replaced : Bool := false
  /-- Ranges of lines that have begun, by the places of their commands, with their last
  lines as far as they are known. -/
  ranges : List (Nat × Option Nat) := []
  recent : Option Pattern := none
  /-- Where the files lead that commands write to, and whether the end of a line is owed. -/
  outlets : List (Octets × Destination × Bool) := []
  /-- What is left of files that are read line by line. -/
  readings : List (Octets × Octets) := []
  ran : List Nat := []
  /-- How deep the next command that is told is in blocks. -/
  depth : Int := 0
  failed : Bool := false
  status : Nat := 0

/-- What the line editor does. It can stop in the middle of it. -/
abbrev Act := ExceptT Unit (StateM State)

namespace Act

variable {α : Type}

/-! ## Complaints -/

def complain (c : Setting) (message : Octets) : Act Unit :=
  modify fun s => { s with sequel := s.sequel.prints .errors (c.task.complaint message) }

def stop (status : Nat) : Act α := do
  modify fun s => { s with status }
  throw ()

def fail (c : Setting) (message : Octets) (status : Nat) : Act α := do
  complain c message
  stop status

/-! ## Printing -/

/-- Everything that has been printed gets to the output. -/
def flush : Act Unit :=
  modify fun s =>
    { s with
      sequel := s.sequel.prints .output s.printed.reverse.flatten, printed := [] }

/-- Prints a text on the output, even if a file is edited. -/
def tell (c : Setting) (text : Octets) : Act Unit := do
  modify fun s => { s with printed := text :: s.printed }
  if c.eager then flush

def put (c : Setting) (text : Octets) : Act Unit := do
  match (← get).edited with
  | some e => modify fun s => { s with edited := some { e with printed := text :: e.printed } }
  | none => tell c text

def settle (c : Setting) : Act Unit := do
  if (← get).owing then
    put c [c.mark]
    modify fun s => { s with owing := false }

/-- Prints a text that has an end of its own. -/
def say (c : Setting) (text : Octets) : Act Unit := do
  settle c
  put c text

/-- Prints the text of a command, which ends as lines do. -/
def sayText (c : Setting) (text : Octets) : Act Unit := do
  if !text.isEmpty then say c (text.dropLast ++ [c.mark])

/-- Prints a line. The last line of all may have no end. -/
def sayLine (c : Setting) (line : Octets) : Act Unit := do
  let ends := (← get).ends
  say c (if ends then line ++ [c.mark] else line)
  modify fun s => { s with owing := !ends }

def writeTo (c : Setting) (target : Destination) (text : Octets) : Act Unit := do
  match target with
  | .output => tell c text
  | .errors => modify fun s => { s with sequel := s.sequel.prints .errors text }
  | .file outlet =>
    modify fun s =>
      { s with sequel := s.sequel.withFiles (s.sequel.files.append outlet text) }

/-- Writes a line to a file, with its end if it has one. -/
def writeLine (c : Setting) (path line : Octets) (ends : Bool) : Act Unit := do
  match (← get).outlets.lookup path with
  | none => pure ()
  | some (target, owing) => do
    writeTo c target ((if owing then [c.mark] else []) ++ line ++ if ends then [c.mark] else [])
    modify fun s =>
      { s with
        outlets := s.outlets.map fun (name, target, owing) =>
          if name == path then (name, target, !ends) else (name, target, owing) }

/-! ## Files that are edited -/

/-- The path of the file that is kept when another one takes its place. -/
def keptPath (keeping path : Octets) : Octets :=
  let name := (Octets.splitAt '/' path).getLastD []
  let directory := path.take (path.length - name.length)
  let new := if keeping.contains '*' then keeping.flatMap fun c => if c = '*' then name else [c]
    else name ++ keeping
  if new.contains '/' then new else directory ++ new

def beginEditing (c : Setting) (how : Editing) (path : Octets) : Act Unit := do
  let files := (← get).sequel.files
  let place := if how.follows then files.place path else files.placeOfLink path
  let lost : Act Unit :=
    fail c ("couldn't edit ".toList ++ path ++ ": not a regular file".toList) 4
  match files.node path, place with
  | .ok node, .ok place =>
    match node with
    | .directory _ _ | .device _ => lost
    | _ =>
      let path := if how.follows then FileTree.pathOf place.steps else path
      modify fun s =>
        { s with edited := some { path, mode := files.modeOf node }, owing := false }
  | _, _ => lost

/-- Puts what has been printed in the place of the file that is edited. -/
def endEditing (c : Setting) : Act Unit := do
  match (← get).edited, c.editing with
  | some e, some how => do
    let files := (← get).sequel.files
    let apart :=
      if how.keeping.isEmpty then files.remove e.path
      else files.rename e.path (keptPath how.keeping e.path)
    let written := do
      let files ← apart
      files.write e.path e.printed.reverse.flatten { mode := e.mode }
    modify fun s => { s with edited := none }
    match written with
    | .ok files => modify fun s => { s with sequel := s.sequel.withFiles files }
    | .error error =>
      fail c ("cannot rename ".toList ++ e.path ++ ": ".toList ++ reasonOf error) 4
  | _, _ => pure ()

/-! ## Reading -/

/-- The most that is taken from the input at once. -/
def portion : Nat := 4096

def openFeed (c : Setting) (name : Octets) : Act Unit := do
  let files := (← get).sequel.files
  let task := { c.task with files }
  if name == ['-'] && c.editing.isNone then
    modify fun s => { s with feed := some { name, live := true } }
  else
    let enter (feed : Feed) : Act Unit := do
      match c.editing with
      | some how => beginEditing c how name
      | none => pure ()
      modify fun s => { s with feed := some feed }
    if name != ['-'] && task.isInput name then enter { name, live := true }
    else
      match (if name == ['-'] then files.contents name else task.contents name) with
      | .ok text => enter { name, text }
      | .error e =>
        if e = FileTree.isADirectory then enter { name, broken := some e }
        else
          complain c ("can't read ".toList ++ name ++ ": ".toList ++ reasonOf e)
          modify fun s => { s with failed := true }

/-- Is done with a file. Where files are apart, lines and ranges begin anew. -/
def closeFeed (c : Setting) : Act Unit := do
  endEditing c
  modify fun s =>
    if c.separate then { s with feed := none, number := 0, ranges := [], readings := [] }
    else { s with feed := none }

/-- Takes from the input until a text is long enough, in at most so many portions. -/
def filled (enough : Octets → Bool) (size : Nat) : Nat → Octets → Octets → Octets × Octets
  | 0, text, input => (text, input)
  | rounds + 1, text, input =>
    if enough text || input.isEmpty then (text, input)
    else filled enough size rounds (text ++ input.take size) (input.drop size)

/-- The feed with as much of the input as is asked for. -/
def fill (c : Setting) (f : Feed) (enough : Octets → Bool) : Act Feed := do
  if f.live && !enough f.text then
    let input := (← get).sequel.input
    let (text, left) := filled enough (if c.eager then 1 else portion) input.length f.text input
    modify fun s =>
      { s with
        sequel := { s.sequel with input := left, time := max s.sequel.time c.task.inputEnds } }
    let f := { f with text }
    modify fun s => { s with feed := some f }
    pure f
  else pure f

/-- Whether nothing is left in all files. They are opened for that. Each round opens one. -/
def nothingLeft (c : Setting) : Nat → Act Bool
  | 0 => pure true
  | rounds + 1 => do
    match (← get).names with
    | [] => pure true
    | name :: names => do
      modify fun s => { s with names }
      openFeed c name
      match (← get).feed with
      | none => nothingLeft c rounds
      | some f => do
        let f ← fill c f fun text => !text.isEmpty
        if f.text.isEmpty then
          closeFeed c
          nothingLeft c rounds
        else pure false

def atLast (c : Setting) : Act Bool := do
  let empty ← match (← get).feed with
    | none => pure true
    | some f => do
      let f ← fill c f fun text => !text.isEmpty
      pure f.text.isEmpty
  if !empty then pure false
  else if c.separate || (← get).names.isEmpty then pure true
  else
    closeFeed c
    nothingLeft c (← get).names.length

/-- Takes the next line of all files, with whether it has an end. Each round opens a file. -/
def takeLine (c : Setting) : Nat → Act (Option (Octets × Bool))
  | 0 => pure none
  | rounds + 1 => do
    match (← get).feed with
    | none =>
      match (← get).names with
      | [] => pure none
      | name :: names => do
        modify fun s => { s with names }
        openFeed c name
        takeLine c rounds
    | some f => do
      match f.broken with
      | some e =>
        fail c ("read error on ".toList ++ f.name ++ ": ".toList ++ reasonOf e) 4
      | none => do
        let f ← fill c f fun text => text.contains c.mark
        if f.text.isEmpty then
          closeFeed c
          takeLine c rounds
        else
          let line := f.text.takeWhile (· != c.mark)
          let rest := f.text.drop line.length
          modify fun s => { s with feed := some { f with text := rest.drop 1 } }
          pure (some (line, !rest.isEmpty))

/-- What can be read from a file that a command names. -/
def contentsOf (c : Setting) (path : Octets) : Act Octets := do
  let s ← get
  let task := { c.task with files := s.sequel.files }
  if path != ['-'] && task.isInput path then
    set { s with sequel := { s.sequel with input := [] } }
    pure s.sequel.input
  else
    match (if path == ['-'] then task.files.contents path else task.contents path) with
    | .ok text => pure text
    | .error e =>
      if e = FileTree.isADirectory then
        fail c ("read error on ".toList ++ path ++ ": ".toList ++ reasonOf e) 4
      else pure []

def dequeue (c : Setting) : Act Unit := do
  let queue := (← get).queue
  modify fun s => { s with queue := [] }
  for item in queue do
    settle c
    match item with
    | .text shown => put c shown
    | .file path => do put c (← contentsOf c path)

/-- Goes on to the next line. Says whether there is one. -/
def advance (c : Setting) (keeping : Bool) : Act Bool := do
  dequeue c
  modify fun s => { s with replaced := false }
  match ← takeLine c (2 * (← get).names.length + 2) with
  | none => pure false
  | some (line, ends) => do
    modify fun s =>
      { s with
        line := if keeping then s.line ++ c.mark :: line else line
        ends, number := s.number + 1 }
    pure true

/-- Takes the next line of a file that is read line by line, with its end. -/
def takeFrom (c : Setting) (path : Octets) : Act (Option Octets) := do
  let text ← match (← get).readings.lookup path with
    | some text => pure text
    | none => contentsOf c path
  let line := text.takeWhile (· != c.mark)
  let taken := text.take (line.length + 1)
  modify fun s =>
    { s with
      readings := (path, text.drop (line.length + 1)) ::
        s.readings.filter fun reading => reading.1 != path }
  pure (if text.isEmpty then none else some taken)

/-! ## Commands of others -/

/-- Runs a command in a shell, and gives what it prints. -/
def heard (c : Setting) (command : Octets) : Act Octets := do
  let s := (← get).sequel
  let child : Task :=
    { c.task with
      input := s.input, inputEnds := c.task.inputEnds - s.time, files := s.files }
  let p := child.handOver c.start ["sh".toList, "-c".toList, command] Delegate.namedFirst
  let shown := { p with marks := p.marks.filter fun m => m.stream = .errors }
  modify fun state => { state with sequel := s.after s.time shown }
  pure (Mark.textOn .output p.marks)

end Act

end CommandChains.Machine.Edit
