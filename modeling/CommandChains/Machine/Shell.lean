import CommandChains.Machine.Shell.Run

/-!
# The shell

A program that runs a script, which is an argument, a file, or else the input. Scripts
that are the input are read piece by piece, and what the shell has not read is left to
the commands of the script.
-/

namespace CommandChains.Machine.Shell

/-! ## Orders -/

structure Orders where
  isArgument : Bool := false
  isInput : Bool := false
  /-- Options that are set or taken back, by their letters. -/
  letters : List (Bool × Char) := []
  /-- Options that are set or taken back, by their names. -/
  names : List (Bool × Octets) := []
  /-- Settings of the large shell that are set or taken back. -/
  settings : List (Bool × Octets) := []
  words : List Octets := []
  wrong : Option Octets := none

namespace Orders

/-- Orders with the letters of one more argument in front. -/
def withLetters (sign : Char) (given : Octets) (o : Orders) : Orders :=
  let own := given.filter fun c => !"csoOlD".contains c
  { o with
    isArgument := o.isArgument || (given.contains 'c' && sign == '-')
    isInput := o.isInput || given.contains 's'
    letters := own.map (fun c => (sign == '-', c)) ++ o.letters }

/-- The long options of the large shell that mean nothing here, and how many arguments they
take. -/
def longOptions : List (String × Nat) :=
  [("debug", 0), ("debugger", 0), ("login", 0), ("noediting", 0), ("noprofile", 0), ("norc", 0),
    ("pretty-print", 0), ("restricted", 0), ("init-file", 1), ("rcfile", 1)]

/-- Takes the arguments of a shell apart, in so many steps at most. -/
def readWithin (dialect : Dialect) : Nat → List Octets → Orders
  | 0, words => { words }
  | _, [] => {}
  | _, ['-', '-'] :: rest => { words := rest }
  | _, ['-'] :: rest => { words := rest }
  | steps + 1, ('-' :: '-' :: name) :: rest =>
    let text := String.ofList name
    match dialect with
    | .small => { wrong := some "--".toList }
    | .large =>
      if text = "posix" then
        { readWithin dialect steps rest with names := [(true, "posix".toList)] }
      else if text = "verbose" then (readWithin dialect steps rest).withLetters '-' ['v']
      else
        match longOptions.lookup text with
        | some taken => readWithin dialect steps (rest.drop taken)
        | none => { wrong := some ('-' :: '-' :: name) }
  | steps + 1, (sign :: letters) :: rest =>
    if sign != '-' && sign != '+' then { words := (sign :: letters) :: rest }
    else
      let on := sign == '-'
      let known := match dialect with
        | .small => "cseEfIimnxvVCabupoq".toList
        | .large => "abefhkmnptuvxBCEHPTcsilrDoO".toList
      match letters.find? fun c => !known.contains c || (c == 'q') with
      | some c => { wrong := some [sign, c] }
      | none =>
        let (name, rest) : Option Octets × List Octets :=
          if letters.contains 'o' then (rest.head?, rest.tail) else (none, rest)
        let (setting, rest) : Option Octets × List Octets :=
          if letters.contains 'O' then (rest.head?, rest.tail) else (none, rest)
        let o := (readWithin dialect steps rest).withLetters sign letters
        { o with
          names := (name.map fun n => (on, n)).toList ++ o.names
          settings := (setting.map fun n => (on, n)).toList ++ o.settings }
  | _, words => { words }

def read (dialect : Dialect) (words : List Octets) : Orders :=
  readWithin dialect (words.length + 1) words

end Orders

def usageText : String :=
  "Usage:\tbash [GNU long option] [option] ...\n" ++
  "\tbash [GNU long option] [option] script-file ...\nGNU long options:\n\t--debug\n" ++
  "\t--debugger\n\t--dump-po-strings\n\t--dump-strings\n\t--help\n\t--init-file\n\t--login\n" ++
  "\t--noediting\n\t--noprofile\n\t--norc\n\t--posix\n\t--pretty-print\n\t--rcfile\n" ++
  "\t--restricted\n\t--verbose\n\t--version\nShell options:\n" ++
  "\t-ilrsD or -c command or -O shopt_option\t\t(invocation only)\n" ++
  "\t-abefhkmnptuvxBCEHPT or -o option\n"

/-! ## Beginnings -/

def usualSeparators : Octets := [' ', '\t', '\n']

/-- The directories that a shell searches for programs if it is not told. -/
def usualPath : Octets :=
  "/usr/local/sbin:/usr/local/bin:/usr/sbin:/usr/bin:/sbin:/bin".toList

/-- Variables with one more, unless there is one of the name. -/
def withDefault (vs : Variables) (name : String) (v : Variable) : Variables :=
  vs.alter name.toList fun old =>
    match old with
    | some v => some v
    | none => some v

/-- Variables with one set in any case. Commands are told about it if they were before. -/
def withValue (vs : Variables) (name : String) (text : Octets) : Variables :=
  vs.alter name.toList fun old => some { (old.getD {}) with value := some (.text text) }

def plainText (text : String) : Variable := { value := some (.text text.toList) }

def firstVariables (dialect : Dialect) (here : Octets) (told : Environment) : Variables :=
  let vs : Variables := (told.filter fun entry => isName entry.1).map fun (name, value) =>
    (name, { value := some (.text value), exported := true })
  let place (vs : Variables) : Variables :=
    vs.alter "PWD".toList fun _ => some { value := some (.text here), exported := true }
  let vs := withValue vs "IFS" usualSeparators
  match dialect with
  | .small =>
    let vs := withValue vs "OPTIND" ['1']
    let vs := withValue vs "PPID" "999".toList
    let vs := withDefault vs "PS1" (plainText "# ")
    let vs := withDefault vs "PS2" (plainText "> ")
    let vs := withDefault vs "PS4" (plainText "+ ")
    place (withDefault vs "PATH" { value := some (.text usualPath) })
  | .large =>
    let level := (((vs.lookup "SHLVL".toList).bind Variable.value).bind Value.whole?).bind
      Octets.decimal?
    let fixed (text : String) : Variable :=
      { value := some (.text text.toList), fixed := true, numeric := true }
    let version := ["5", "2", "15", "1", "release", "x86_64-pc-linux-gnu"].zipIdx.map
      fun (t, n) => (n, t.toList)
    let vs := [("BASH", "/usr/bin/bash"), ("BASH_VERSION", "5.2.15(1)-release"),
      ("HOSTTYPE", "x86_64"), ("MACHTYPE", "x86_64-pc-linux-gnu"), ("OSTYPE", "linux-gnu"),
      ("OPTERR", "1"), ("OPTIND", "1"), ("PS4", "+ "), ("TERM", "dumb"),
      ("SHELL", "/bin/bash"), ("HOSTNAME", "localhost")].foldl
      (fun vs entry => withDefault vs entry.1 (plainText entry.2)) vs
    let vs := [("EUID", "0"), ("PPID", "999"), ("UID", "0")].foldl
      (fun vs entry => withDefault vs entry.1 (fixed entry.2)) vs
    let vs := withDefault vs "BASH_VERSINFO" { value := some (.row version), fixed := true }
    let vs := withDefault vs "PATH" { value := some (.text usualPath) }
    let vs := place vs
    let vs := withDefault vs "OLDPWD" { exported := true }
    vs.alter "SHLVL".toList fun _ =>
      some { value := some (.text (Octets.ofNat (level.getD 0 + 1))), exported := true }

/-- The path by which a shell knows the place where it begins. -/
def firstPlace (t : Task) : Octets :=
  let physical := t.files.herePath
  match t.environment.lookup "PWD".toList with
  | some path =>
    let same := match path.head?, t.files.place path, t.files.workplace with
      | some '/', .ok place, .ok here => place.steps == here.steps
      | _, _, _ => false
    if same then path else physical
  | none => physical

def State.ofTask (dialect : Dialect) (t : Task) (o : Orders) : State :=
  let here := firstPlace t
  let start : State :=
    { dialect, name := t.name, files := t.files, niceness := t.niceness, here
      channels := [(0, .text t.input t.inputEnds), (1, .printed), (2, .printed)]
      bindings := firstVariables dialect here t.environment
      options := match dialect with
        | .small => []
        | .large => ['h', 'B']
      settings := match dialect with
        | .small => []
        | .large => Builtin.usualSettings
      arguments := o.words, isArgument := o.isArgument }
  let start := t.streams.foldl (fun (s : State) (entry : Nat × Octets) =>
    s.open_ entry.1 (.text entry.2 0)) start
  let start := o.letters.foldl (fun s entry => Builtin.setLetter entry.1 entry.2 s) start
  o.settings.foldl (fun s entry => Builtin.setSetting entry.1 (String.ofList entry.2) s) start

def State.performance (s : State) : Performance :=
  let marks := s.allPrinted.filterMap fun m =>
    if m.channel = 1 then some (Mark.mk m.time .output m.text)
    else if m.channel = 2 then some (Mark.mk m.time .errors m.text)
    else none
  let left := match s.channels.lookup 0 with
    | some (.text left _) => left
    | _ => []
  { duration := s.clock, marks, left, status := s.status, signal := s.signal
    lingers := s.allEnds, files := some s.files }

/-! ## Scripts -/

def portion : Nat := 8192

/-- Shows what has been read of a script, if that is wanted. -/
def shownAsRead (text : Octets) (s : State) : State :=
  if s.has 'v' then s.say 2 text else s

/-- Runs a script that is the input, where `c` holds what has been read already. The small
shell reads portions, the large one no more than it needs. -/
def runInput (go : Runner) : Nat → Cursor → State → State
  | 0, _, s => s
  | rounds + 1, c, s =>
    if !s.goes then s
    else
      let input := s.input.1
      match s.dialect with
      | .large =>
        let lines := { c with rest := input }.informed s
        match readLine lines with
        | .ok none => shownAsRead input (s.leave 0 [])
        | .ok (some (action, after)) =>
          let read := upTo input after.rest
          let s := shownAsRead read (s.leave 0 after.rest)
          let reached := c.line + read.dropLast.count '\n'
          runInput go rounds after (go action (warnUnended after { s with reached })).settled
        | .error e => refuseScript lines e (s.leave 0 [])
      | .small =>
        let c := c.informed s
        let more : Cursor := { c with rest := c.rest ++ input.take portion }
        let fed := s.leave 0 (input.drop portion)
        match readLine c with
        | .ok (some (action, after)) =>
          if after.rest.isEmpty && !input.isEmpty then runInput go rounds more fed
          else
            let s := shownAsRead (upTo c.rest after.rest) s
            runInput go rounds after (go action s)
        | .ok none =>
          if input.isEmpty then shownAsRead c.rest s else runInput go rounds more fed
        | .error e =>
          if input.isEmpty then refuseScript c e s else runInput go rounds more fed

/-- Sets options by their names, and gives the first name that has no meaning. -/
def nameOptions (o : Orders) (s : State) : Option Octets × State :=
  o.names.foldl (fun (found : Option Octets × State) entry =>
    match Builtin.setByName? entry.1 (String.ofList entry.2) found.2 with
    | some s => (found.1, s)
    | none => (found.1.orElse fun _ => some entry.2, found.2)) (none, s)

def refuseOrders (message : Octets) (s : State) : State :=
  match s.dialect with
  | .small => { s with line := 0 }.givingUp message 2
  | .large =>
    { (s.say 2 (s.name ++ ": ".toList ++ message ++ ['\n'])).withStatus 2 with flow := .exiting }

def runFile (go : Runner) (path : Octets) (words : List Octets) (s : State) : State :=
  match s.files.contents path with
  | .ok text =>
    let start : State :=
      { s with name := path, arguments := words, isFile := true, isLast := false }
    runText go text start
  | .error e =>
    match s.dialect with
    | .small =>
      let missing := e = FileTree.notFound ∨ e = FileTree.notADirectory
      let reason := if missing then "No such file".toList else reasonOf e
      { s with line := 0 }.givingUp ("cannot open ".toList ++ path ++ ": ".toList ++ reason) 2
    | .large =>
      let name := if e = FileTree.isADirectory then path else s.name
      let status := if e = FileTree.notFound then 127 else 126
      let text := name ++ ": ".toList ++ path ++ ": ".toList ++ reasonOf e ++ ['\n']
      { (s.say 2 text).withStatus status with flow := .exiting }

def behavior (dialect : Dialect) : Behavior := fun start t =>
  let o := Orders.read dialect t.arguments
  let go := run start depthLimit
  let (unknown, s) := nameOptions o (State.ofTask dialect t o)
  let ended (s : State) : Performance := (leave go s).performance
  match o.wrong, unknown, o.isArgument, o.words with
  | some option, _, _, _ =>
    match dialect with
    | .small => ended (refuseOrders ("Illegal option ".toList ++ option) s)
    | .large =>
      ended ((refuseOrders (option ++ ": invalid option".toList) s).say 2 usageText.toList)
  | none, some name, _, _ =>
    match dialect with
    | .small => ended (refuseOrders ("Illegal option -o ".toList ++ name) s)
    | .large =>
      let text := "line 0: ".toList ++ t.name ++ ": ".toList ++ name
      ended (refuseOrders (text ++ ": invalid option name".toList) s)
  | none, none, true, [] =>
    match dialect with
    | .small => ended (refuseOrders "-c requires an argument".toList s)
    | .large => ended (refuseOrders "-c: option requires an argument".toList s)
  | none, none, true, text :: words =>
    ended (runText go text { s with name := words.headD t.name, arguments := words.tail })
  | none, none, false, words =>
    if words.isEmpty || o.isInput then
      let start := { Builtin.setLetter true 's' s with isLast := false }
      let cursor := Cursor.ofText dialect []
      ended (runInput go (2 * t.input.length + 2) cursor (start.waitUntil t.inputEnds))
    else ended (runFile go (words.headD []) words.tail s)

end CommandChains.Machine.Shell
