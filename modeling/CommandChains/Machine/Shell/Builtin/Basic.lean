import CommandChains.Machine.Shell.Expansion
import CommandChains.Machine.Shell.Grammar

/-!
# Streams of commands

Before a command is run its streams are changed: they read or write files, or lead where
another stream leads. After it the streams that were changed are as they were.
-/

namespace CommandChains.Machine.Shell

/-- What is said about a file that cannot be used. -/
def fileComplaint (dialect : Dialect) (verb missing : String) (path : Octets) (e : SystemError) :
    Octets :=
  match dialect with
  | .large => path ++ ": ".toList ++ reasonOf e
  | .small =>
    let reason :=
      if e = FileTree.notFound ∨ e = FileTree.notADirectory then missing.toList else reasonOf e
    ("cannot " ++ verb ++ " ").toList ++ path ++ ": ".toList ++ reason

namespace Expanding

/-- Gives up a change of streams. The script goes on without the command. -/
def failStream {α : Type} (message : Octets) : Expanding α := do
  throw { message, status := if (← get).isLarge then 1 else 2, flow := .going }

/-- The text of a target. The large shell wants exactly one word. -/
def targetOf (substitute : Substitute) (w : Word) : Expanding Octets := do
  match (← get).dialect with
  | .small => wholeText substitute w
  | .large =>
    match ← wordsOf substitute w with
    | [text] => pure text
    | _ => failStream (w.source ++ ": ambiguous redirect".toList)

def share (stream other : Nat) (name : Octets) : Expanding Unit := do
  match (← get).share stream other with
  | some s => set s
  | none => failStream (name ++ ": Bad file descriptor".toList)

def openToRead (stream : Nat) (path : Octets) : Expanding Unit := do
  let s ← get
  match Task.namedStream? path with
  | some n => share stream n path
  | none =>
    match s.files.contents path with
    | .ok text => set (s.open_ stream (.text text 0))
    | .error e =>
      if e = FileTree.isADirectory then set (s.open_ stream (.text [] 0))
      else failStream (fileComplaint s.dialect "open" "No such file" path e)

def openToWrite (stream : Nat) (how : Files.Opening) (path : Octets) : Expanding Unit := do
  let s ← get
  match Task.namedStream? path with
  | some n => share stream n path
  | none =>
    let isFile := match s.files.node path with
      | .ok node => !node.isDevice && !node.isDirectory
      | .error _ => false
    if how.mustBeNew && isFile then
      match s.dialect with
      | .small => failStream (fileComplaint .small "create" "" path FileTree.fileExists)
      | .large => failStream (path ++ ": cannot overwrite existing file".toList)
    else
      match s.files.openToWrite { how with mustBeNew := false } path with
      | .ok (outlet, files) => set ({ s with files }.open_ stream (.file outlet))
      | .error e =>
        failStream (fileComplaint s.dialect "create" "Directory nonexistent" path e)

/-- Lets a stream read a file and go to it. -/
def openToUpdate (stream : Nat) (path : Octets) : Expanding Unit := do
  let s ← get
  match Task.namedStream? path with
  | some n => share stream n path
  | none =>
    match s.files.openToWrite { empties := false } path with
    | .ok (outlet, files) =>
      let text := (files.contents path).toOption.getD []
      set ({ s with files }.open_ stream (.update text outlet))
    | .error e => failStream (fileComplaint s.dialect "create" "Directory nonexistent" path e)

def redirectStream (substitute : Substitute) (stream : Nat) (r : Redirection) :
    Expanding Unit := do
  let bothToo : Expanding Unit := if r.both then share 2 1 ['1'] else pure ()
  match r.kind with
  | .text =>
    let text := textOf (← replaced substitute r.target.pieces)
    modify fun s => s.open_ stream (.text text 0)
  | .reading => openToRead stream (← targetOf substitute r.target)
  | .updating => openToUpdate stream (← targetOf substitute r.target)
  | .writing => do
    let keeps := (← get).has 'C'
    openToWrite stream { mustBeNew := keeps } (← targetOf substitute r.target)
    bothToo
  | .overwriting => openToWrite stream {} (← targetOf substitute r.target)
  | .appending => do
    openToWrite stream { empties := false } (← targetOf substitute r.target)
    bothToo
  | .sharing => do
    let target ← targetOf substitute r.target
    let (number, moves) := match (← get).isLarge, target.getLast? with
      | true, some '-' => (target.dropLast, true)
      | _, _ => (target, false)
    if target = ['-'] then modify fun s => s.close stream
    else
      match Octets.decimal? number, (← get).dialect with
      | some n, .large => do
        share stream n number
        if moves then modify fun s => s.close n
      | some n, .small => if n ≤ 9 then share stream n target else fail "Bad fd number".toList
      | none, .small => fail "Bad fd number".toList
      | none, .large => failStream (r.target.source ++ ": ambiguous redirect".toList)

def redirect (substitute : Substitute) (r : Redirection) : Expanding Unit := do
  match r.holder with
  | none => redirectStream substitute r.stream r
  | some name => do
    let s ← get
    if r.kind == .sharing && r.target.plain? == some ['-'] then
      let n := ((s.value? name).bind Value.whole?).bind Octets.decimal?
      modify fun s => s.close (n.getD 1000)
    else
      let n := (((List.range 50).map (· + 10)).find? fun n => (s.streams.lookup n).isNone).getD 10
      redirectStream substitute n r
      assign (fun _ => pure []) name none false (Octets.ofNat n)

def redirectAll (substitute : Substitute) (list : List Redirection) : Expanding Unit :=
  list.forM (redirect substitute)

end Expanding

namespace State

/-- A shell where some streams lead where they led before. -/
def restoreStreams (s before : State) (list : List Redirection) : State :=
  let changed := (list.filter fun r => r.holder.isNone).flatMap fun r =>
    if r.both then [1, 2] else [r.stream]
  { s with streams :=
      (before.streams.filter fun entry => changed.contains entry.1) ++
        s.streams.filter fun entry => !changed.contains entry.1 }

/-- Does something with changed streams. After that the streams are as they were. What is
done if they cannot be changed may depend on why. -/
def withStreams (substitute : Substitute) (list : List Redirection) (work : State → State)
    (s : State) (refuse : Abort → State → State := fun e s => s.aborted e) : State :=
  if list.isEmpty then work s
  else
    match (Expanding.redirectAll substitute list).run s with
    | (.error e, changed) => refuse e (changed.restoreStreams s list)
    | (.ok (), changed) => (work changed).restoreStreams s list

end State

/-!
## What is told about commands

A shell can be asked to tell about every command before it is run. What it tells begins
with the value of a variable.
-/

/-- What stands in front of what is told about a command. -/
def State.traceFront (substitute : Substitute) (s : State) : Octets :=
  let text := (s.text? "PS4").getD (if s.isLarge then "+ ".toList else [])
  let quiet : State := { s with options := s.options.filter fun c => c != 'x' && c != 'e' }
  let one := Expanding.piece substitute (text.length + 1)
  let front := match ((Expanding.textWithin one text).run quiet).1 with
    | .ok front => front
    | .error _ => text
  if s.isLarge then List.replicate s.traceDepth (front.headD '+') ++ front else front

/-- Tells about a command, if everything is to be told. -/
def State.told (substitute : Substitute) (text : Octets) (s : State) : State :=
  if s.has 'x' then
    let stream := if s.isLarge then ((s.text? "BASH_XTRACEFD").bind Octets.decimal?).getD 2 else 2
    s.say stream (s.traceFront substitute ++ text ++ ['\n'])
  else s

/-!
## Commands of the shell itself

Commands that the shell carries out by itself, most of them because they are about the
shell: its variables, its arguments, how the script goes on, and what runs beside it.
They complain in the name of the shell and in their own.
-/

structure Context where
  substitute : Substitute
  runText : Octets → State → State
  /-- Runs a program in the place of the shell, if it can be started. -/
  program : List Octets → State → Except SystemError State
  /-- Runs a command by its words, where names that scripts define do not count. -/
  invoke : List Octets → State → State

/-- A command of the shell itself, which is given its arguments. -/
abbrev Builtin := Context → List Octets → State → State

namespace Builtin

def byDialect (small large : Builtin) : Builtin := fun c arguments s =>
  match s.dialect with
  | .small => small c arguments s
  | .large => large c arguments s

/-- Prints a text on the output, or complains that it cannot. -/
def prints (text : Octets) (s : State) (status : Nat := 0) : State :=
  match s.write? 1 text with
  | some s => s.withStatus status
  | none =>
    let name := s.command.getD []
    match s.dialect with
    | .small => s.commandFailing (name ++ ": I/O error".toList) 1
    | .large =>
      let reason := match s.channel? 1 with
        | some (.file .full) => "No space left on device"
        | _ => "Bad file descriptor"
      s.commandFailing ("write error: " ++ reason).toList 1

def leaves (status : Nat) : Builtin := fun _ _ s => s.withStatus status

def illegalNumber (text : Octets) : Octets := "Illegal number: ".toList ++ text

/-- The number that a text writes, if it is one that the small shell takes. -/
def smallNumber? (text : Octets) : Option Nat :=
  (Octets.decimal? text).filter fun n => decide (n ≤ 2147483647)

inductive OptionError where
  | unknown (letter : Char)
  | withoutValue (letter : Char)
  deriving DecidableEq

/-- Options by their letters, with their values, and the other arguments. -/
abbrev Options := List (Char × Octets) × List Octets

/-- Reads the letters of an argument. The last one may ask for a value. -/
def readLetters (plain valued : String) :
    Octets → Except OptionError (List (Char × Octets) × Option Char)
  | [] => .ok ([], none)
  | c :: rest =>
    if plain.contains c then
      (readLetters plain valued rest).map fun (found, owing) => ((c, []) :: found, owing)
    else if valued.contains c then
      if rest.isEmpty then .ok ([], some c) else .ok ([(c, rest)], none)
    else .error (.unknown c)

def readOptions (plain valued : String) : List Octets → Except OptionError Options
  | [] => .ok ([], [])
  | ['-', '-'] :: rest => .ok ([], rest)
  | ('-' :: c :: letters) :: rest =>
    match readLetters plain valued (c :: letters), rest with
    | .error e, _ => .error e
    | .ok (found, none), rest =>
      (readOptions plain valued rest).map fun (more, rest) => (found ++ more, rest)
    | .ok (_, some owing), [] => .error (.withoutValue owing)
    | .ok (found, some owing), value :: rest =>
      (readOptions plain valued rest).map fun (more, rest) =>
        (found ++ (owing, value) :: more, rest)
  | arguments => .ok ([], arguments)

/-- Leaves what is run of the large shell: the whole script if it is an argument. -/
def leaveScript (s : State) (status : Nat) : State :=
  { s with status, flow := if s.isArgument then .exiting else .discarding }

def wantsNumber (text : Octets) (status : Nat) (s : State) : State :=
  s.commandFailing (text ++ ": numeric argument required".toList) status

/-- Complains about too many arguments in the large shell. -/
def tooMany (s : State) : State :=
  leaveScript (s.commandFailing "too many arguments".toList 1) 1

/-- How commands of the large shell are used, by their names. -/
def usages : List (String × String) :=
  [("alias", "alias [-p] [name[=value] ... ]"), (".", ". filename [arguments]"),
    ("source", "source filename [arguments]"), ("cd", "cd [-L|[-P [-e]] [-@]] [dir]"),
    ("pwd", "pwd [-LP]"), ("trap", "trap [-lp] [[arg] signal_spec ...]"),
    ("type", "type [-afptP] name [name ...]"), ("unalias", "unalias [-a] name [name ...]"),
    ("ulimit", "ulimit [-SHabcdefiklmnpqrstuvxPRT] [limit]"),
    ("wait", "wait [-fn] [-p var] [id ...]"),
    ("kill", "kill [-s sigspec | -n signum | -sigspec] pid | jobspec ... or kill -l [sigspec]"),
    ("getopts", "getopts optstring name [arg ...]"),
    ("read", "read [-ers] [-a array] [-d delim] [-i text] [-n nchars] [-N nchars] [-p prompt] " ++
      "[-t timeout] [-u fd] [name ...]"),
    ("mapfile", "mapfile [-d delim] [-n count] [-O origin] [-s count] [-t] [-u fd] " ++
      "[-C callback] [-c quantum] [array]"),
    ("readarray", "readarray [-d delim] [-n count] [-O origin] [-s count] [-t] [-u fd] " ++
      "[-C callback] [-c quantum] [array]"),
    ("printf", "printf [-v var] format [arguments]"), ("unset", "unset [-f] [-v] [-n] [name ...]"),
    ("export", "export [-fn] [name[=value] ...] or export -p"),
    ("readonly", "readonly [-aAf] [name[=value] ...] or readonly -p"),
    ("declare", "declare [-aAfFgiIlnrtux] [name[=value] ...] or declare -p [-aAfFilnrtux] " ++
      "[name ...]"),
    ("typeset", "typeset [-aAfFgiIlnrtux] name[=value] ... or typeset -p [-aAfFilnrtux] " ++
      "[name ...]"),
    ("local", "local [option] name[=value] ..."), ("shopt", "shopt [-pqsu] [-o] [optname ...]"),
    ("hash", "hash [-lr] [-p pathname] [-dt] [name ...]"),
    ("command", "command [-pVv] command [arg ...]"),
    ("exec", "exec [-cl] [-a name] [command [argument ...]] [redirection ...]"),
    ("set", "set [-abefhkmnptuvxBCEHPT] [-o option-name] [--] [-] [arg ...]"),
    ("umask", "umask [-p] [-S] [mode]"), ("jobs", "jobs [-lnprs] [jobspec ...] or jobs -x " ++
      "command [args]"), ("enable", "enable [-a] [-dnps] [-f filename] [name ...]"),
    ("eval", "eval [arg ...]"), ("disown", "disown [-h] [-ar] [jobspec ... | pid ...]"),
    ("dirs", "dirs [-clpv] [+N] [-N]"), ("pushd", "pushd [-n] [+N | -N | dir]"),
    ("popd", "popd [-n] [+N | -N]"), ("help", "help [-dms] [pattern ...]")]

/-- How the present command of the large shell is used. -/
def usage (s : State) : Octets :=
  let name := s.command.getD []
  match usages.lookup (String.ofList name) with
  | some text => name ++ ": usage: ".toList ++ text.toList ++ ['\n']
  | none => []

def refuses (s : State) : State := (s.say 2 (usage s)).withStatus 2

def smallMistake (message : Octets) (s : State) : State := s.givingUp message 2

def refuseOptions (e : OptionError) (s : State) : State :=
  match s.dialect, e with
  | .small, .unknown letter => smallMistake ("Illegal option -".toList ++ [letter]) s
  | .small, .withoutValue letter =>
    smallMistake ("No arg for -".toList ++ letter :: " option".toList) s
  | .large, .unknown letter =>
    refuses (s.commandFailing ('-' :: letter :: ": invalid option".toList) 2)
  | .large, .withoutValue letter =>
    refuses (s.commandFailing ('-' :: letter :: ": option requires an argument".toList) 2)

/-- Takes the options in front of arguments apart and goes on with them. -/
def withOptions (plain valued : String) (work : Options → State → State) (arguments : List Octets)
    (s : State) : State :=
  match readOptions plain valued arguments with
  | .ok found => work found s
  | .error e => refuseOptions e s

def hasOption (letter : Char) (found : Options) : Bool := found.1.any fun o => o.1 == letter

def valueOf? (letter : Char) (found : Options) : Option Octets :=
  (found.1.reverse.find? fun o => o.1 == letter).map (·.2)

/-- Complains in the large shell about a word that is no name. -/
def badIdentifier (word : Octets) (s : State) : State :=
  s.commandFailing ("\x60".toList ++ word ++ "\x27: not a valid identifier".toList) 1

/-- What is said about a variable that cannot be changed, without the name of a command in
the large shell. -/
def failsFixed (name : Octets) (s : State) : State :=
  match s.dialect with
  | .small => smallMistake (name ++ ": is read only".toList) s
  | .large => s.failing (name ++ ": readonly variable".toList) 1

/-- Sets a variable, or an element of one, unless it cannot be changed. -/
def assigns (c : Context) (name : Octets) (key : Option Octets) (appends : Bool)
    (text : Octets) (s : State) : State :=
  let one := Expanding.piece c.substitute (text.length + 10)
  match (Expanding.assign one name key appends text).run s with
  | (.ok (), s) => s
  | (.error e, s) =>
    match s.dialect with
    | .small => smallMistake e.message s
    | .large =>
      if s.isFixed name then failsFixed name s
      else { s.commandFailing e.message e.status with flow := e.flow }

end Builtin

end CommandChains.Machine.Shell
