import CommandChains.Machine.Scripting.State

/-!
# Files and commands of scripts

Where scripts read and print. What is printed is kept until there is enough of it, a command is
started, or the script ends. A command is run at once, and what it prints can be read.
-/

namespace CommandChains.Machine.Scripting.Act

/-! ## Errors -/

def setError (e : SystemError) : Act Unit :=
  modify fun s => { s with error := match e with
    | .number code => code
    | .text _ => s.error }

/-- The error that was met last, as a number and a text. -/
def errorValue : Act Value := do
  let n := (← get).error
  pure (.dual n (if n = 0 then [] else (SystemError.describe n).toList))

/-! ## Printing -/

/-- How much is kept at most of what is printed. -/
def keptLimit : Nat := 8192

/-- Puts what is kept of a file where it belongs. -/
def flush (name : String) : Act Unit := do
  match (← get).channels[name]? with
  | none => pure ()
  | some c =>
    if c.printed.isEmpty || c.command.isSome then pure ()
    else
      let text := c.printed.reverse.flatten
      alterChannel name fun c => { c with printed := [], size := 0 }
      match c.writes, c.scalar with
      | _, some place => do
        let before := (← scalarAt place).plainText
        setScalar place (.text (before ++ text))
      | some .output, _ => alterSequel fun q => q.prints .output text
      | some .errors, _ => alterSequel fun q => q.prints .errors text
      | some (.file outlet), _ => alterSequel fun q => q.withFiles (q.files.append outlet text)
      | none, none => pure ()

def flushAll : Act Unit := do
  let names := (← get).channels.toList.map (·.1)
  names.forM flush

def inBytes (text : Octets) : Octets :=
  text.flatMap fun c => Octets.ofText (String.singleton c)

/-- Prints a text on a file. Tells whether that is possible. -/
def printOn (name : String) (what : String) (text : Octets) : Act Bool := do
  match (← get).channels[name]? with
  | none => do
    let short := String.ofList ((name.toList.reverse.takeWhile (· != ':')).reverse)
    doubt (what ++ "() on unopened filehandle " ++ short)
    setError (.number 9)
    pure false
  | some c =>
    if !c.isOpen then do
      let short := String.ofList ((name.toList.reverse.takeWhile (· != ':')).reverse)
      doubt (what ++ "() on closed filehandle " ++ short)
      setError (.number 9)
      pure false
    else if c.writes.isNone && c.command.isNone && c.scalar.isNone then do
      let short := String.ofList ((name.toList.reverse.takeWhile (· != ':')).reverse)
      doubt ("Filehandle " ++ short ++ " opened only for input")
      setError (.number 9)
      pure false
    else do
      let isWide : Bool := text.any fun c => 255 < c.toNat
      let text ← if c.wide then pure (inBytes text)
        else if isWide then do
          tell ("Wide character in ".toList ++ what.toList)
          pure (inBytes text)
        else pure text
      alterChannel name fun c =>
        { c with printed := text :: c.printed, size := c.size + text.length
                 taken := c.taken + text.length }
      if c.eager || keptLimit < c.size + text.length || c.writes == some .errors ||
          c.scalar.isSome then
        flush name
      pure true

/-! ## Commands -/

def shellSigns : String := "$&*()\x7b\x7d[]'\";\\|?<>~\x60\n"

/-- Runs a command, and waits for its end. It reads the input of the script, or a text. If it
is heard, its output is not printed. -/
def runWords (words : List Octets) (given : Option Octets) (heard : Bool) :
    Act (Except SystemError Performance) := do
  flushAll
  let s ← get
  match words with
  | [] => pure (.error FileTree.notFound)
  | name :: arguments =>
    let q := s.sequel
    let ends := match given with
      | some _ => 0
      | none => s.task.inputEnds - q.time
    let environment ← do
      match s.shared["%main::ENV"]? with
      | none => pure s.task.environment
      | some place => do
        let t ← tableAt place
        t.keys.toList.mapM fun key => do
          match t.get? key with
          | some place => do pure (key, (← scalarAt place).plainText)
          | none => pure (key, [])
    let child : Task :=
      { s.task with
        name, arguments, environment, input := given.getD q.input, inputEnds := ends
        files := q.files }
    match s.start child with
    | .error e => do
      setError e
      pure (.error e)
    | .ok p =>
      let shown := if heard then
          { p with marks := p.marks.filter fun m => m.stream = .errors }
        else p
      let after := q.after q.time shown
      alterSequel fun _ => if given.isSome then { after with input := q.input } else after
      pure (.ok p)

def wordsOf (command : Octets) : List Octets :=
  if command.any shellSigns.toList.contains then ["sh".toList, "-c".toList, command]
  else Octets.words command

/-- The status of a command as a script is told it. -/
def statusOf (p : Performance) : Nat :=
  match p.signal with
  | some signal => signal.number
  | none => p.status * 256

/-! ## Opening and closing -/

structure Opened where
  channel : Channel
  files : Option Files := none

def openToRead (path : Octets) : Act (Except SystemError Channel) := do
  let s ← get
  let t := { s.task with files := s.sequel.files }
  if path == ['-'] || Task.namedStream? path == some 0 then
    pure (.ok { reads := true, live := true, path })
  else
    match t.contents path with
    | .ok text => pure (.ok { reads := true, text, path })
    | .error e =>
      if e = FileTree.isADirectory then pure (.ok { reads := true, path })
      else pure (.error e)

def openToWrite (how : Files.Opening) (path : Octets) : Act (Except SystemError Channel) := do
  match openPath (← get).sequel.files how path with
  | .error e => pure (.error e)
  | .ok (target, files) =>
    alterSequel fun q => q.withFiles files
    pure (.ok { writes := some target, path })

/-- Takes a file out of use. Tells whether that went well, and sets the status of a command. -/
def close (name : String) : Act Bool := do
  flush name
  match (← get).channels[name]? with
  | none => do
    setError (.number 9)
    pure false
  | some c =>
    if !c.isOpen then do
      setError (.number 9)
      pure false
    else do
      let good ← match c.command with
        | some command => do
          match ← runWords (wordsOf command) (some c.printed.reverse.flatten) false with
          | .ok p => do
            setCommon "?" (.ofNat (statusOf p))
            pure (statusOf p == 0)
          | .error _ => do
            setCommon "?" (.ofInt (-1))
            pure false
        | none =>
          match c.status with
          | some status => do
            setCommon "?" (.ofNat status)
            pure (status == 0)
          | none => pure true
      alterChannel name fun c =>
        { c with isOpen := false, text := [], live := false, lines := 0, printed := [], size := 0
                 command := none, status := none }
      pure good

/-- The kind of a file that is opened, as a sign says, and what is behind the sign. -/
def modeIn (text : Octets) : String × Octets :=
  let text := text.dropWhile Octets.isSpace
  let signs := ["+<", "+>>", "+>", ">>", ">", "<", "|"]
  match signs.find? fun s => s.toList.isPrefixOf text with
  | some s => (s, (text.drop s.length))
  | none => ("", text)

def trimmed (text : Octets) : Octets :=
  ((text.dropWhile Octets.isSpace).reverse.dropWhile Octets.isSpace).reverse

/-- Opens something under a name. Tells whether that went well. -/
def openAs (name : String) (mode : String) (target : Octets) (words : List Octets)
    (scalar : Option Nat) (wide : Bool) : Act Bool := do
  if ((← get).channels[name]?).any (·.isOpen) then
    let _ ← close name
  let put (c : Channel) : Act Bool := do
    let number := match (← get).channels[name]? with
      | some old => old.number
      | none => 0
    let number ← if number != 0 || ["main::STDIN"].contains name then pure number
      else do
        let n := (← get).channelCount
        modify fun s => { s with channelCount := n + 1 }
        pure n
    modify fun s =>
      let wide := wide || (if c.reads then s.decodes else s.encodes)
      { s with channels := s.channels.insert name { c with wide, number } }
    pure true
  let result (r : Except SystemError Channel) : Act Bool := do
    match r with
    | .ok c => put c
    | .error e => do
      setError e
      pure false
  match scalar, mode with
  | some place, "<" => do put { reads := true, text := (← scalarAt place).plainText }
  | some place, ">" => do
    setScalar place (.text [])
    put { scalar := some place }
  | some place, _ => do
    if !(← scalarAt place).isDefined then setScalar place (.text [])
    put { scalar := some place }
  | none, "<" | none, "" => do result (← openToRead target)
  | none, ">" =>
    if target == ['-'] then put { writes := some .output }
    else do result (← openToWrite {} target)
  | none, ">>" => do result (← openToWrite { empties := false } target)
  | none, "+<" => do
    match ← openToRead target with
    | .ok c => do
      match ← openToWrite { empties := false, makes := false } target with
      | .ok w => put { c with writes := w.writes }
      | .error e => result (.error e)
    | .error e => result (.error e)
  | none, "+>" => do result (← openToWrite {} target)
  | none, "+>>" => do result (← openToWrite { empties := false } target)
  | none, "|" | none, "|-" => do
    flushAll
    put { command := some (if words.isEmpty then target else
      Octets.joined [' '] ((target :: words).map Octets.shellQuoted)) }
  | none, "-|" => do
    match ← runWords (if words.isEmpty then wordsOf target else target :: words) none true with
    | .ok p =>
      put { reads := true, text := Mark.textOn .output p.marks, status := some (statusOf p) }
    | .error _ => pure false
  | none, ">&" | none, ">>&" | none, ">&=" => do
    let source := String.ofList target
    let full := if source == "1" then "main::STDOUT" else if source == "2" then "main::STDERR"
      else source
    flush full
    match (← get).channels[full]? with
    | some c =>
      if c.isOpen then put { c with printed := [], size := 0 }
      else result (.error (.number 9))
    | none => result (.error (.number 9))
  | none, "<&" | none, "<&=" => do
    let source := String.ofList target
    let full := if source == "0" then "main::STDIN" else source
    match (← get).channels[full]? with
    | some c => put c
    | none => result (.error (.number 9))
  | none, mode => die ("Unknown open() mode '".toList ++ mode.toList ++ ['\x27'])

/-! ## Reading -/

def portion : Nat := 8192

/-- Lets more of the input come in. Tells whether there was more. -/
def fill (name : String) : Act Bool := do
  match (← get).channels[name]? with
  | none => pure false
  | some c =>
    if !c.live then pure false
    else do
      let s ← get
      alterSequel fun q => { q with time := max q.time s.task.inputEnds }
      let input := (← get).sequel.input
      if input.isEmpty then pure false
      else do
        alterSequel fun q => { q with input := input.drop portion }
        alterChannel name fun c => { c with text := c.text ++ input.take portion }
        pure true

/-- Where a text ends that ends with another one, and what is behind it. -/
def throughEnding (ending : Octets) : Octets → Octets → Option (Octets × Octets)
  | _, [] => none
  | sofar, c :: rest =>
    if ending.isPrefixOf (c :: rest) then
      some (sofar.reverse ++ ending, (c :: rest).drop ending.length)
    else throughEnding ending (c :: sofar) rest

/-- The first line of a text with what ends it, and what is behind it. -/
def lineIn (ending : Octets) (text : Octets) : Option (Octets × Octets) :=
  match ending with
  | [c] =>
    let front := text.takeWhile (· != c)
    match text.drop front.length with
    | _ :: rest => some (front ++ [c], rest)
    | [] => none
  | ending => throughEnding ending [] text

inductive LineEnd where
  | never
  | emptyLines
  | every (count : Nat)
  | text (s : Octets)

def lineEnd : Act LineEnd := do
  match ← common "/" with
  | .unset => pure .never
  | .link .scalar place => do
    let n := (← scalarAt place).amount.truncated
    pure (if 0 < n then .every n.toNat else .never)
  | v =>
    let s ← textOf v
    pure (if s.isEmpty then .emptyLines else .text s)

/-- Lets the whole input come in, at most in so many portions. -/
def fillAll (name : String) : Nat → Act Unit
  | 0 => pure ()
  | rounds + 1 => do if ← fill name then fillAll name rounds

def portionLimit : Nat := 100000000

/-- The next line of a file, where more comes in as long as there is no end of a line. -/
def takeLine (name : String) (how : LineEnd) : Nat → Act (Option Octets)
  | 0 => pure none
  | rounds + 1 => do
    match (← get).channels[name]? with
    | none => pure none
    | some c =>
      let give (line rest : Octets) : Act (Option Octets) := do
        alterChannel name fun c =>
          { c with text := rest, lines := c.lines + 1, taken := c.taken + line.length }
        pure (some line)
      let whole (text : Octets) : Act (Option Octets) :=
        if text.isEmpty then do
          alterChannel name fun c => { c with ended := true }
          pure none
        else give text []
      match how with
      | .never => do
        if ← fill name then takeLine name how rounds else whole c.text
      | .every count =>
        if count ≤ c.text.length then give (c.text.take count) (c.text.drop count)
        else do
          if ← fill name then takeLine name how rounds else whole c.text
      | .emptyLines => do
        fillAll name portionLimit
        let text := (((← get).channels[name]?).getD c).text.dropWhile (· == '\n')
        match lineIn ['\n', '\n'] text with
        | some (line, rest) => give line (rest.dropWhile (· == '\n'))
        | none => whole text
      | .text ending =>
        match lineIn ending c.text with
        | some (line, rest) => give line rest
        | none => do
          if ← fill name then takeLine name how rounds else whole c.text

/-- Whether there is nothing more to be read of a file. -/
def isAtEnd (name : String) : Act Bool := do
  match (← get).channels[name]? with
  | none => pure true
  | some c =>
    if !c.isOpen || !c.reads then pure true
    else if !c.text.isEmpty then pure false
    else do pure !(← fill name)

def takeCharacters (name : String) (count : Nat) : Nat → Act Octets
  | 0 => pure []
  | rounds + 1 => do
    match (← get).channels[name]? with
    | none => pure []
    | some c =>
      let enough : Bool := count ≤ c.text.length
      let more ← if enough then pure false else fill name
      if more then takeCharacters name count rounds
      else do
        let taken := c.text.take count
        alterChannel name fun c =>
          { c with text := c.text.drop count, taken := c.taken + taken.length }
        pure taken

/-! ## The files that the arguments name -/

def nextArgument : Act (Option Octets) := do
  let place ← sharedPlace .array "main::ARGV"
  let places ← arrayAt place
  match places[0]? with
  | none => pure none
  | some first => do
    setArray place (places.extract 1 places.size)
    pure (some (← textOf (← scalarAt first)))

/-- Begins to change a file in place: what is printed takes its place. -/
def beginEditing (path : Octets) : Act Unit := do
  match (← get).editing with
  | none => pure ()
  | some keeping => do
    let files := (← get).sequel.files
    let kept : Octets :=
      if keeping.contains '*' then
        let base := (path.reverse.takeWhile (· != '/')).reverse
        let directory := path.take (path.length - base.length)
        let name := keeping.flatMap fun c => if c = '*' then base else [c]
        if keeping.contains '/' then name else directory ++ name
      else path ++ keeping
    if !keeping.isEmpty then
      match files.contents path with
      | .ok text =>
        match files.write kept text with
        | .ok files => alterSequel fun q => q.withFiles files
        | .error _ => pure ()
      | .error _ => pure ()
    match ← openToWrite {} path with
    | .ok c => do
      modify fun s =>
        { s with channels := s.channels.insert "main::ARGVOUT" c, selected := "main::ARGVOUT" }
    | .error _ => pure ()

def endEditing : Act Unit := do
  if (← get).editing.isSome then
    if ((← get).channels["main::ARGVOUT"]?).any (·.isOpen) then
      let _ ← close "main::ARGVOUT"
      modify fun s => { s with selected := "main::STDOUT" }

/-- Opens the next file that the arguments name, or the input if they name none, at most so many.
Tells whether there is one. -/
def nextFile : Nat → Act Bool
  | 0 => pure false
  | rounds + 1 => do
    let s ← get
    let place ← sharedPlace .array "main::ARGV"
    let count := (← arrayAt place).size
    let lines := ((s.channels["main::ARGV"]?).map (·.lines)).getD 0
    if count = 0 then
      if s.begunFiles then pure false
      else do
        modify fun s =>
          let wide := (s.channels["main::STDIN"]?).any (·.wide)
          let c : Channel := { reads := true, live := true, path := ['-'], wide }
          { s with begunFiles := true, channels := s.channels.insert "main::ARGV" c }
        setCommon "ARGV" (.text ['-'])
        pure true
    else do
      modify fun s => { s with begunFiles := true }
      match ← nextArgument with
      | none => pure false
      | some path => do
        setCommon "ARGV" (.text path)
        let isCommand : Bool := path.getLast? = some '|'
        let opened ← if isCommand then do
            match ← runWords (wordsOf (path.dropLast)) none true with
            | .ok p => pure (.ok { reads := true, text := Mark.textOn .output p.marks })
            | .error e => pure (.error e)
          else do
            let (mode, target) := modeIn path
            openToRead (trimmed (if mode == "<" then target else path))
        match opened with
        | .ok c => do
          modify fun s =>
            { s with channels := s.channels.insert "main::ARGV" { c with lines, wide := s.decodes } }
          if !c.live then beginEditing path
          pure true
        | .error e => do
          setError e
          tell ("Can't open ".toList ++ path ++ ": ".toList ++ reasonOf e)
          nextFile rounds

def takeArgumentLine (how : LineEnd) : Nat → Act (Option Octets)
  | 0 => pure none
  | rounds + 1 => do
    let isOpen : Bool := ((← get).channels["main::ARGV"]?).any fun c => c.isOpen && c.reads
    let there ← if isOpen then pure true
      else do
        let place ← sharedPlace .array "main::ARGV"
        nextFile ((← arrayAt place).size + 2)
    if !there then do
      modify fun s => { s with begunFiles := false }
      pure none
    else
      match ← takeLine "main::ARGV" how portionLimit with
      | some line =>
        if ((← get).channels["main::ARGV"]?).any (·.wide) then
          pure (some (Octets.toText line).toList)
        else pure (some line)
      | none => do
        endEditing
        alterChannel "main::ARGV" fun c => { c with isOpen := false }
        takeArgumentLine how rounds

def readLine (name : String) : Act (Option Octets) := do
  let how ← lineEnd
  modify fun s => { s with readLast := name }
  if name == "main::ARGV" then
    let place ← sharedPlace .array "main::ARGV"
    takeArgumentLine how ((← arrayAt place).size + 3)
  else
    let short := String.ofList ((name.toList.reverse.takeWhile (· != ':')).reverse)
    match (← get).channels[name]? with
    | none => do
      doubt ("readline() on unopened filehandle " ++ short)
      setError (.number 9)
      pure none
    | some c =>
      if !c.isOpen then do
        doubt ("readline() on closed filehandle " ++ short)
        setError (.number 9)
        pure none
      else if !c.reads then do
        doubt ("Filehandle " ++ short ++ " opened only for output")
        pure none
      else
        match ← takeLine name how portionLimit with
        | some line =>
          if c.wide then pure (some (Octets.toText line).toList) else pure (some line)
        | none => pure none

/-! ## Time -/

def longest : Nat := Duration.forever

/-- Lets time pass, until it is over or a signal comes that has been ordered. Tells whether a
signal came. -/
def pass (nanoseconds : Nat) : Act Bool := do
  let s ← get
  let ends := s.sequel.time + nanoseconds
  match s.alarm with
  | some time =>
    if time ≤ ends then do
      alterSequel fun q => { q with time := max q.time time }
      modify fun s => { s with alarm := none }
      pure true
    else do
      alterSequel fun q => { q with time := ends }
      pure false
  | none =>
    if longest ≤ ends then throw .endless
    else do
      alterSequel fun q => { q with time := ends }
      pure false

end CommandChains.Machine.Scripting.Act
