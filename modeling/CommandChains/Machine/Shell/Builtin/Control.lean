import CommandChains.Machine.Shell.Builtin.Printing

/-!
# Commands about the course of a script

The commands of the shell that leave loops, functions and the script, run other texts as
a part of it, and set its options and arguments.
-/

namespace CommandChains.Machine.Shell.Builtin

/-! ## Leaving -/

def statusOf (n : Int) : Nat := (n % 256).toNat

def exitSmall : Builtin := fun _ arguments s =>
  match arguments with
  | [] => { s with flow := .exiting, status := s.trapStatus.getD s.status }
  | text :: _ =>
    match smallNumber? text with
    | some n => { s with flow := .exiting, status := n % 256 }
    | none => smallMistake (illegalNumber text) s

def exitLarge : Builtin := fun _ arguments s =>
  let arguments := if arguments.head? = some ['-', '-'] then arguments.tail else arguments
  match arguments with
  | [] => { s with flow := .exiting, status := s.trapStatus.getD s.status }
  | text :: rest =>
    match Octets.integer? text with
    | some n => if rest.isEmpty then { s with flow := .exiting, status := statusOf n } else tooMany s
    | none => { wantsNumber text 2 s with flow := .exiting }

def exit : Builtin := byDialect exitSmall exitLarge

def returnSmall : Builtin := fun _ arguments s =>
  match arguments with
  | [] => { s with flow := .returning }
  | text :: _ =>
    match smallNumber? text with
    | some n => { s with flow := .returning, status := n }
    | none => smallMistake (illegalNumber text) s

/-- Leaves a function or a file that is read as a part of the script. -/
def returnLarge : Builtin := fun _ arguments s =>
  let arguments := if arguments.head? = some ['-', '-'] then arguments.tail else arguments
  let leaves (status : Nat) (s : State) : State :=
    if s.frames.isEmpty then
      s.commandFailing "can only \x60return' from a function or sourced script".toList 2
    else { s with flow := .returning, status }
  match arguments with
  | [] => leaves s.status s
  | text :: rest =>
    match Octets.integer? text with
    | some n => if rest.isEmpty then leaves (statusOf n) s else tooMany s
    | none => leaves 2 (wantsNumber text 2 s)

def return_ : Builtin := byDialect returnSmall returnLarge

def leaveLoopsSmall (flow : Nat → Flow) : Builtin := fun _ arguments s =>
  let levels := match arguments with
    | [] => some 1
    | text :: _ => (smallNumber? text).filter (0 < ·)
  match levels with
  | none => smallMistake (illegalNumber (arguments.headD [])) s
  | some n =>
    if s.loops = 0 then s.withStatus 0
    else { s with flow := flow (min n s.loops), status := 0 }

def leaveLoopsLarge (flow : Nat → Flow) : Builtin := fun _ arguments s =>
  let arguments := if arguments.head? = some ['-', '-'] then arguments.tail else arguments
  if s.loops = 0 then
    s.commandFailing "only meaningful in a \x60for', \x60while', or \x60until' loop".toList 0
  else
    match arguments with
    | [] => { s with flow := flow 1, status := 0 }
    | text :: rest =>
      match Octets.integer? text with
      | none => leaveScript (wantsNumber text 128 s) 128
      | some n =>
        if !rest.isEmpty then tooMany s
        else if n ≤ 0 then
          { s.commandFailing (text ++ ": loop count out of range".toList) 1 with
            flow := .breaking s.loops }
        else { s with flow := flow (min n.toNat s.loops), status := 0 }

def leaveLoops (flow : Nat → Flow) : Builtin :=
  byDialect (leaveLoopsSmall flow) (leaveLoopsLarge flow)

/-! ## Texts and files -/

def evaluate : Builtin := fun c arguments s =>
  match s.dialect with
  | .small => c.runText (Octets.joined [' '] arguments) (s.withStatus 0)
  | .large =>
    withOptions "" "" (fun (_, words) s =>
      let text := Octets.joined [' '] words
      if text.isEmpty then s.withStatus 0
      else
        let done := c.runText text
          { s with
            command := none, origin := some "eval".toList, line := s.reached
            traceDepth := s.traceDepth + 1 }
        { done with
          origin := s.origin, line := s.line, reached := s.reached, traceDepth := s.traceDepth })
      arguments s

/-- Where a file is that is to be read as a part of the script. -/
def sourcePath (s : State) (name : Octets) : Option Octets :=
  if name.contains '/' then some name
  else
    let places := Octets.splitAt ':' ((s.text? "PATH").getD [])
    let paths := places.map fun place => if place.isEmpty then name else place ++ '/' :: name
    match paths.find? fun path => (s.files.contents path).toOption.isSome with
    | some path => some path
    | none => if s.isLarge then some name else none

def sourceSmall : Builtin := fun c arguments s =>
  let arguments := if arguments.head? = some ['-', '-'] then arguments.tail else arguments
  match arguments with
  | [] => s.withStatus 0
  | name :: _ =>
    match sourcePath s name with
    | none => smallMistake (name ++ ": not found".toList) s
    | some path =>
      match s.files.contents path with
      | .error e =>
        smallMistake (fileComplaint .small "open" "No such file" path e) s
      | .ok text =>
        let frames := ({ name := path, line := s.line, isFile := true } : Frame) :: s.frames
        let done := c.runText text
          { s with command := some path, status := 0, frames, loops := 0 }
        let flow := if done.flow = .returning then .going else done.flow
        { done with command := s.command, frames := s.frames, loops := s.loops, flow }

def sourceLarge : Builtin := fun c =>
  withOptions "" "" fun (_, arguments) s =>
    match arguments with
    | [] => refuses (s.commandFailing "filename argument required".toList 2)
    | name :: rest =>
      let path := (sourcePath s name).getD name
      match s.files.contents path with
      | .error e => s.failing (name ++ ": ".toList ++ reasonOf e) 1
      | .ok text =>
        let frames := ({ name := path, line := s.line, isFile := true } : Frame) :: s.frames
        let words := if rest.isEmpty then s.arguments else rest
        let done := c.runText text
          { s with
            command := none, status := 0, frames, loops := 0, arguments := words, line := 1
            origin := none, reached := 1, traceDepth := s.traceDepth + 1 }
        let flow := if done.flow = .returning then .going else done.flow
        { done with
          frames := s.frames, loops := s.loops, flow, line := s.line, origin := s.origin
          traceDepth := s.traceDepth
          arguments := if rest.isEmpty then done.arguments else s.arguments, reached := s.reached }

def source : Builtin := byDialect sourceSmall sourceLarge

/-- A shell that a program has taken the place of: what was to be done at the end is not
done. -/
def replaced (s : State) : State :=
  { s with
    traps := s.traps.filter fun entry => entry.1 != exitTrap
    flow := if s.flow = .killed then .killed else .exiting }

def replaceShellSmall : Builtin := fun c arguments s =>
  match arguments with
  | [] => s.withStatus 0
  | name :: _ =>
    match c.program arguments { s with isLast := true } with
    | .ok done => replaced done
    | .error e =>
      let missing := e = FileTree.notFound && !name.isEmpty
      let reason := if missing then "not found".toList
        else if name.isEmpty then "Permission denied".toList
        else reasonOf e
      let status := if missing then 127 else 126
      { s.commandFailing (name ++ ": ".toList ++ reason) status with flow := .exiting }

/-- Runs a program in the place of the shell, perhaps by another name and without variables. -/
def replaceShellLarge : Builtin := fun c =>
  withOptions "cl" "a" fun found s =>
    match found.2 with
    | [] => s.withStatus 0
    | name :: rest =>
      let told : State :=
        if hasOption 'c' found then
          { s with bindings := s.bindings.map fun (n, v) => (n, { v with exported := false }) }
        else s
      let stops (s : State) : State :=
        if s.settings.contains "execfail" then s else { s with flow := .exiting }
      match c.program (name :: rest) { told with isLast := true } with
      | .ok done => replaced done
      | .error e =>
        if name.contains '/' then
          let isDirectory := (s.files.node name).toOption.any Node.isDirectory
          let e := if isDirectory then FileTree.isADirectory else e
          let s := s.failing (name ++ ": ".toList ++ reasonOf e) 127
          if e = FileTree.notFound then stops s
          else stops (s.commandFailing (name ++ ": cannot execute: ".toList ++ reasonOf e) 126)
        else stops (s.commandFailing (name ++ ": not found".toList) 127)

def replaceShell : Builtin := byDialect replaceShellSmall replaceShellLarge

/-! ## Options -/

/-- The options of the small shell and their letters, in the order in which they are
listed. -/
def smallOptions : List (String × Option Char) :=
  [("errexit", some 'e'), ("noglob", some 'f'), ("ignoreeof", some 'I'), ("interactive", some 'i'),
    ("monitor", some 'm'), ("noexec", some 'n'), ("stdin", some 's'), ("xtrace", some 'x'),
    ("verbose", some 'v'), ("vi", some 'V'), ("emacs", some 'E'), ("noclobber", some 'C'),
    ("allexport", some 'a'), ("notify", some 'b'), ("nounset", some 'u'),
    ("privileged", some 'p'), ("nolog", none), ("debug", none)]

def largeOptions : List (String × Option Char) :=
  [("allexport", some 'a'), ("braceexpand", some 'B'), ("emacs", none), ("errexit", some 'e'),
    ("errtrace", some 'E'), ("functrace", some 'T'), ("hashall", some 'h'),
    ("histexpand", some 'H'), ("history", none), ("ignoreeof", none),
    ("interactive-comments", none), ("keyword", some 'k'), ("monitor", some 'm'),
    ("noclobber", some 'C'), ("noexec", some 'n'), ("noglob", some 'f'), ("nolog", none),
    ("notify", some 'b'), ("nounset", some 'u'), ("onecmd", some 't'), ("physical", some 'P'),
    ("pipefail", none), ("posix", none), ("privileged", some 'p'), ("verbose", some 'v'),
    ("vi", none), ("xtrace", some 'x')]

def optionsOf (dialect : Dialect) : List (String × Option Char) :=
  match dialect with
  | .small => smallOptions
  | .large => largeOptions

/-- Sets an option by its letter, or takes it back. -/
def setLetter (on : Bool) (letter : Char) (s : State) : State :=
  let others := s.options.filter (· != letter)
  { s with options := if on then letter :: others else others }

/-- Sets a name among the settings, or takes it back. -/
def setSetting (on : Bool) (name : String) (s : State) : State :=
  let others := s.settings.filter (· != name)
  { s with settings := if on then name :: others else others }

def setByName? (on : Bool) (name : String) (s : State) : Option State :=
  ((optionsOf s.dialect).lookup name).map fun letter =>
    match letter with
    | some letter => setLetter on letter s
    | none => setSetting on name s

def isSet (s : State) (option : String × Option Char) : Bool :=
  match option.2 with
  | some letter => s.has letter
  | none => s.settings.contains option.1

def optionTable (s : State) (reusable : Bool) : Octets :=
  let width := if s.isLarge then 15 else 16
  let front := if s.isLarge ∨ reusable then "" else "Current option settings\n"
  front.toList ++ (optionsOf s.dialect).flatMap fun option =>
    let name := option.1.toList
    if reusable then
      "set ".toList ++ (if isSet s option then '-' else '+') :: "o ".toList ++ name ++ ['\n']
    else
      Octets.filled width name ++ (if s.isLarge then ['\t'] else []) ++
        (if isSet s option then "on\n" else "off\n").toList

/-- The names of the options that are set, with a colon between every two. -/
def optionList (s : State) : Octets :=
  Octets.joined [':'] (((optionsOf s.dialect).filter (isSet s)).map fun option => option.1.toList)

def listedVariable (dialect : Dialect) (name : Octets) : Value → Octets
  | .text text =>
    let shown := match dialect with
      | .small => Quoting.small text
      | .large => if text.isEmpty then [] else Quoting.sparing text
    name ++ '=' :: shown ++ ['\n']
  | value => name ++ '=' :: Expanding.declaredElements value ++ ['\n']

def listedVariables (s : State) : Octets :=
  s.bindings.inOrder.flatMap fun (name, v) =>
    match v.value with
    | some value => listedVariable s.dialect name value
    | none => []

def setByLetter (on : Bool) (sign letter : Char) (s : State) : State :=
  let known := (optionsOf s.dialect).any fun option => option.2 == some letter
  if known then setLetter on letter s
  else
    match s.dialect with
    | .small => smallMistake ("Illegal option -".toList ++ [letter]) s
    | .large =>
      let s := s.commandFailing (sign :: letter :: ": invalid option".toList) 2
      { refuses s with flow := .returning }

def setNamed (on : Bool) (sign : Char) (name : Octets) (s : State) : State :=
  match setByName? on (String.ofList name) s with
  | some s => s
  | none =>
    match s.dialect with
    | .small => smallMistake ("Illegal option ".toList ++ sign :: "o ".toList ++ name) s
    | .large =>
      { s.commandFailing (name ++ ": invalid option name".toList) 2 with flow := .returning }

/-- Sets options in so many steps at most, and gives what is behind them: other arguments,
if there are any or if there must be some. -/
def setOptions : Nat → List Octets → State → State × Option (List Octets)
  | 0, _, s => (s, none)
  | steps + 1, arguments, s =>
    if !s.goes then (s, none)
    else
      match arguments with
      | [] => (s, none)
      | ['-', '-'] :: rest => (s, some rest)
      | ['-'] :: rest =>
        let s := setLetter false 'x' (setLetter false 'v' s)
        (s, if rest.isEmpty then none else some rest)
      | ['+'] :: rest => if s.isLarge then (s, some rest) else setOptions steps rest s
      | (sign :: letters) :: rest =>
        if sign != '-' && sign != '+' then (s, some arguments)
        else
          let on := sign == '-'
          let plain := letters.filter (· != 'o')
          let s := plain.foldl (fun s letter => if s.goes then setByLetter on sign letter s else s) s
          if !s.goes then (s, none)
          else if letters.contains 'o' then
            match rest with
            | [] => ((prints (optionTable s (!on)) s), none)
            | name :: rest =>
              if s.isLarge && (name.head? == some '-' || name.head? == some '+') then
                setOptions steps (name :: rest) (prints (optionTable s (!on)) s)
              else setOptions steps rest (setNamed on sign name s)
          else setOptions steps rest s
      | [] :: _ => (s, some arguments)

def set : Builtin := fun _ arguments s =>
  if arguments.isEmpty then prints (listedVariables s) s
  else
    let (done, rest) := setOptions (arguments.length + 1) arguments (s.withStatus 0)
    let done := match rest with
      | some words => { done with arguments := words, optionPlace := 1, optionOffset := 0 }
      | none => done
    if s.isLarge && done.flow == .returning then { done with flow := .going } else done

def shift : Builtin := fun _ arguments s =>
  let drops (n : Nat) (s : State) : State :=
    { s with arguments := s.arguments.drop n, status := 0, optionPlace := 1, optionOffset := 0 }
  match s.dialect with
  | .small =>
    let wanted := match arguments with
      | [] => some 1
      | text :: _ => smallNumber? text
    match wanted with
    | none => smallMistake (illegalNumber (arguments.headD [])) s
    | some n =>
      if n ≤ s.arguments.length then drops n s
      else smallMistake "can't shift that many".toList s
  | .large =>
    let arguments := if arguments.head? = some ['-', '-'] then arguments.tail else arguments
    let wanted := match arguments with
      | [] => some 1
      | text :: _ => Octets.integer? text
    match wanted with
    | none => wantsNumber (arguments.headD []) 1 s
    | some n =>
      let beyond := s.commandFailing (arguments.headD [] ++ ": shift count out of range".toList) 1
      if 1 < arguments.length then tooMany s
      else if n < 0 then beyond
      else if n.toNat ≤ s.arguments.length then drops n.toNat s
      else if s.settings.contains "shift_verbose" then beyond
      else s.withStatus 1

/-- How much time the shell and its commands have taken. Nobody computes for long. -/
def times : Builtin := fun _ _ s =>
  prints (match s.dialect with
    | .small => "0m0.000000s 0m0.000000s\n0m0.000000s 0m0.000000s\n".toList
    | .large => "0m0.000s 0m0.000s\n0m0.000s 0m0.000s\n".toList) s

/-! ## Options of scripts -/

/-- What has been found among the arguments of a script. -/
structure OptionFound where
  /-- What is told about the option, and nothing at the end. -/
  letter : Option Char
  /-- The argument of the option, if something is known about it. -/
  argument : Option Octets := none
  complaint : Octets := []
  /-- The next argument that is looked at, and how much of it has been looked at. -/
  place : Nat
  offset : Nat := 0

/-- What the letters of a script say about one: nothing, or whether it asks for an
argument. -/
def optionKind? (letters : Octets) (letter : Char) : Option Bool :=
  match letters with
  | [] => none
  | c :: rest =>
    if c = letter ∧ c ≠ ':' then some (rest.head? == some ':') else optionKind? rest letter

/-- Looks for the next option as the small shell does: which argument is next is known when
one begins. -/
def nextOptionSmall (letters : Octets) (arguments : List Octets) (place offset : Nat) :
    OptionFound :=
  let current := arguments.getD (place - 2) []
  let inside := if place ≤ 1 || offset = 0 || current.length < offset then [] else current.drop offset
  let quiet := letters.head? = some ':'
  let atEnd (place : Nat) : OptionFound := { letter := none, place }
  let read (text : Octets) (place : Nat) : OptionFound :=
    match text with
    | [] => atEnd place
    | letter :: rest =>
      let offset := (arguments.getD (place - 2) []).length - rest.length
      match optionKind? letters letter with
      | none =>
        if quiet then { letter := some '?', argument := some [letter], place, offset }
        else
          let complaint := "Illegal option -".toList ++ letter :: ['\n']
          { letter := some '?', complaint, place, offset }
      | some false => { letter := some letter, argument := some [], place, offset }
      | some true =>
        if !rest.isEmpty then { letter := some letter, argument := some rest, place }
        else
          match arguments[place - 1]? with
          | some value => { letter := some letter, argument := some value, place := place + 1 }
          | none =>
            if quiet then { letter := some ':', argument := some [letter], place }
            else
              let complaint := "No arg for -".toList ++ letter :: " option\n".toList
              { letter := some '?', complaint, place }
  if !inside.isEmpty then read inside place
  else
    match arguments[place - 1]? with
    | some ['-', '-'] => atEnd (place + 1)
    | some ('-' :: letter :: rest) => read (letter :: rest) (place + 1)
    | _ => atEnd place

/-- Looks for the next option as the large shell does: which argument is next is known when
one ends. -/
def nextOptionLarge (name letters : Octets) (arguments : List Octets) (place offset : Nat) :
    OptionFound :=
  let quiet := letters.head? = some ':'
  let remark (text : String) (letter : Char) : Octets :=
    if quiet then [] else name ++ ": ".toList ++ text.toList ++ " -- ".toList ++ letter :: ['\n']
  match arguments[place - 1]? with
  | some ['-', '-'] => { letter := none, place := place + 1 }
  | some ('-' :: first :: more) =>
    let text := ('-' :: first :: more).drop (max 1 offset)
    match text with
    | [] => { letter := none, place }
    | letter :: rest =>
      let (after, behind) : Nat × Nat :=
        if rest.isEmpty then (place + 1, 0) else (place, max 1 offset + 1)
      match optionKind? letters letter with
      | none =>
        { letter := some '?', argument := if quiet then some [letter] else none
          complaint := remark "illegal option" letter, place := after, offset := behind }
      | some false => { letter := some letter, place := after, offset := behind }
      | some true =>
        if !rest.isEmpty then { letter := some letter, argument := some rest, place := place + 1 }
        else
          match arguments[place]? with
          | some value => { letter := some letter, argument := some value, place := place + 2 }
          | none =>
            { letter := some (if quiet then ':' else '?')
              argument := if quiet then some [letter] else none
              complaint := remark "option requires an argument" letter, place := after }
  | _ => { letter := none, place := min place (arguments.length + 1) }

/-- Looks for the next option among the arguments of the script, or among its own. -/
def nextOption : Builtin := fun _ arguments s =>
  let work (letters name : Octets) (own : List Octets) (s : State) : State :=
    let arguments := if own.isEmpty then s.arguments else own
    let found := match s.dialect with
      | .small => nextOptionSmall letters arguments s.optionPlace s.optionOffset
      | .large => nextOptionLarge s.name letters arguments s.optionPlace s.optionOffset
    let told := s.text? "OPTERR" != some ['0'] || !s.isLarge
    let s := if told then s.say 2 found.complaint else s
    let s := match found.argument with
      | some text => s.set "OPTARG".toList text
      | none => if found.letter.isSome || s.isLarge then s.unset "OPTARG".toList else s
    let s := s.set "OPTIND".toList (Octets.ofNat found.place)
    let s := { s with optionPlace := found.place, optionOffset := found.offset }
    if !isName name then
      match s.dialect with
      | .small => smallMistake (name ++ ": bad variable name".toList) s
      | .large => badIdentifier name s
    else if s.isFixed name then { failsFixed name s with status := if s.isLarge then 1 else 2 }
    else (s.set name [found.letter.getD '?']).withStatus (if found.letter.isSome then 0 else 1)
  match s.dialect, arguments with
  | .small, letters :: name :: own => work letters name own s
  | .small, _ => smallMistake "Usage: getopts optstring var [arg...]".toList s
  | .large, arguments =>
    withOptions "" "" (fun (_, words) s =>
      match words with
      | letters :: name :: own => work letters name own s
      | _ => refuses s) arguments s

/-! ## Sums -/

/-- Works out sums, and succeeds if the last one is not nought. -/
def sums : Builtin := fun _ arguments s =>
  let arguments := if arguments.head? = some ['-', '-'] then arguments.tail else arguments
  if arguments.isEmpty then s.commandFailing "expression expected".toList 1
  else
    arguments.foldl (fun s text =>
      if !s.goes then s
      else
        match (Expanding.sum text).run s with
        | (.ok n, s) => s.withStatus (if n = 0 then 1 else 0)
        | (.error e, s) => { s.commandFailing e.message 1 with flow := .returning }) s |> fun s =>
          if s.flow = .returning then { s with flow := .going } else s

end CommandChains.Machine.Shell.Builtin
