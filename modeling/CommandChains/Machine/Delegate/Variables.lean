import CommandChains.Machine.Delegate.Surroundings

/-!
# A program that changes variables

A program that starts a command with other variables, at another place or with other signals
that do nothing, or prints the variables. Arguments can stand together in one text that the
program takes apart as a small script.
-/

namespace CommandChains.Machine.Variables

/-! ## Arguments in one text -/

inductive Trouble where
  | endInQuotes
  | lastBackslash
  | noEscape (c : Char)
  | noVariable (rest : Octets)
  | openQuote

def Trouble.message : Trouble → Octets
  | endInQuotes => "'\\c' must not appear in double-quoted -S string".toList
  | lastBackslash => "invalid backslash at end of string in -S".toList
  | noEscape c => "invalid sequence '\\".toList ++ c :: "' in -S".toList
  | noVariable rest =>
    "only $\x7bVARNAME\x7d expansion is supported, error at: ".toList ++ rest
  | openQuote => "no terminating quote in -S string".toList

structure Reading where
  /-- The arguments before the one that is read, the latest first. -/
  done : List Octets := []
  /-- What has been read of an argument, the last character first. -/
  now : Option Octets := none
  single : Bool := false
  double : Bool := false

namespace Reading

def begun (r : Reading) : Reading := { r with now := some (r.now.getD []) }

def with_ (r : Reading) (text : Octets) : Reading :=
  { r with now := some (text.reverse ++ r.now.getD []) }

def ended (r : Reading) : Reading :=
  match r.now with
  | none => r
  | some text => { r with done := text.reverse :: r.done, now := none }

def result (r : Reading) : Except Trouble (List Octets) :=
  if r.single || r.double then .error .openQuote else .ok r.ended.done.reverse

end Reading

/-- The name of a variable between braces, and what is behind it. -/
def named? (text : Octets) : Option (Octets × Octets) :=
  match text with
  | '\x7b' :: inner =>
    let name := inner.takeWhile fun c => c.isAlphanum || c == '_'
    match name, inner.drop name.length with
    | c :: _, '\x7d' :: rest => if c.isDigit then none else some (name, rest)
    | _, _ => none
  | _ => none

/-- Takes a text apart. Every round takes at least one character, so as many rounds as there
are characters are enough. -/
def split (told : Environment) : Nat → Octets → Reading → Except Trouble (List Octets)
  | _, [], r => r.result
  | 0, _, r => r.result
  | rounds + 1, c :: rest, r =>
    let plain (c : Char) (rest : Octets) := split told rounds rest (r.with_ [c])
    let quotes := r.single || r.double
    match c with
    | '\x27' =>
      if r.double then plain c rest
      else split told rounds rest { r.begun with single := !r.single }
    | '"' =>
      if r.single then plain c rest
      else split told rounds rest { r.begun with double := !r.double }
    | '#' => if r.now.isNone && !quotes then r.result else plain c rest
    | '$' =>
      if r.single then plain c rest
      else
        match named? rest with
        | none => .error (.noVariable (c :: rest))
        | some (name, rest) =>
          match told.lookup name with
          | none => split told rounds rest r
          | some value => split told rounds rest (r.with_ value)
    | '\\' =>
      let special := rest.head? == some '\\' || rest.head? == some '\x27'
      if r.single && !special then plain c rest
      else
        match rest with
        | [] => .error .lastBackslash
        | d :: rest =>
          if "\"#$'\\".contains d then plain d rest
          else
            match d with
            | '_' => if r.double then plain ' ' rest else split told rounds rest r.ended
            | 'c' => if r.double then .error .endInQuotes else r.result
            | 'f' => plain '\x0c' rest
            | 'n' => plain '\n' rest
            | 'r' => plain '\r' rest
            | 't' => plain '\t' rest
            | 'v' => plain '\x0b' rest
            | d => .error (.noEscape d)
    | c =>
      if Octets.isSpace c && !quotes then split told rounds rest r.ended else plain c rest

/-- What is told about a text that has been taken apart. -/
def splitting (text : Octets) (words : List Octets) : Octets :=
  let line (front : String) (word : Octets) : Octets :=
    front.toList ++ Octets.shellQuoted word ++ ['\n']
  line "split -S:  " text ++
    match words with
    | [] => []
    | first :: rest => line " into:    " first ++ rest.flatMap (line "     &    ")

/-- Arguments where the texts that hold several are taken apart, and what is told about
that. Every round takes at least one character or one argument. -/
def spread (told : Environment) : Nat → Bool → List Octets →
    Except Trouble (List Octets × Octets)
  | 0, _, arguments => .ok (arguments, [])
  | _, _, [] => .ok ([], [])
  | rounds + 1, talks, argument :: rest =>
    let apart (talks : Bool) (text : Octets) (front : List Octets) (rest : List Octets) :
        Except Trouble (List Octets × Octets) :=
      match split told text.length text {} with
      | .error e => .error e
      | .ok words =>
        (spread told rounds talks (words ++ rest)).map fun (arguments, said) =>
          (front ++ arguments, (if talks then splitting text words else []) ++ said)
    let keep (count : Nat) (talks : Bool) : Except Trouble (List Octets × Octets) :=
      let kept := (argument :: rest).take count
      (spread told rounds talks ((argument :: rest).drop count)).map fun (arguments, said) =>
        (kept ++ arguments, said)
    match argument with
    | '-' :: '-' :: [] => .ok (argument :: rest, [])
    | '-' :: '-' :: word =>
      let name := word.takeWhile (· != '=')
      let given := word.drop name.length
      let isFor (long : String) : Bool := name.isPrefixOf long.toList && !name.isEmpty
      if isFor "split-string" then
        match given, rest with
        | _ :: text, rest => apart talks text [] rest
        | [], text :: rest => apart talks text [] rest
        | [], [] => .ok ([argument], [])
      else if given.isEmpty && (isFor "unset" || isFor "chdir") then keep 2 talks
      else keep 1 (talks || name == "debug".toList)
    | '-' :: c :: letters =>
      let letters := c :: letters
      let before := letters.takeWhile fun c => !"uCS".contains c
      let talks := talks || before.contains 'v'
      match letters.drop before.length with
      | 'S' :: text =>
        let front := if before.isEmpty then [] else ['-' :: before]
        match text, rest with
        | [], [] => .ok ([argument], [])
        | [], text :: rest => apart talks text front rest
        | text, rest => apart talks text front rest
      | [_] => keep 2 talks
      | _ => keep 1 talks
    | _ => .ok (argument :: rest, [])

/-! ## The program -/

def known : Known :=
  { plain := "i0vL", valued := "uCS", optional := "DIB", hidden := "LDIB", untilOperand := true
    words := [("ignore-environment", 'i'), ("null", '0'), ("unset", 'u'), ("chdir", 'C'),
      ("split-string", 'S'), ("debug", 'v'), ("default-signal", 'D'), ("ignore-signal", 'I'),
      ("block-signal", 'B'), ("list-signal-handling", 'L')] }

inductive Manner where
  | blocked
  | ignored
  deriving DecidableEq

/-- What is done about signals, by their numbers, after an option. -/
def handled (option : Char × Octets) (manners : List (Nat × Manner)) : List (Nat × Manner) :=
  let meant : List Nat :=
    if option.2.isEmpty then (List.range 31).map (· + 1)
    else ((Octets.splitAt ',' option.2).filterMap Signal.ofText?).map Signal.number
  let others (m : Manner) := manners.filter fun entry => !(meant.contains entry.1 && entry.2 = m)
  match option.1 with
  | 'D' => others .ignored
  | 'I' => others .ignored ++ meant.map fun n => (n, .ignored)
  | 'B' => others .blocked ++ meant.map fun n => (n, .blocked)
  | _ => manners

def handling (manners : List (Nat × Manner)) : Octets :=
  (List.range 65).flatMap fun n =>
    let has (m : Manner) : Bool := manners.contains (n, m)
    let forced := (Signal.mk n).isForced
    if forced || !(has .blocked || has .ignored) then []
    else
      let what := (if has .blocked then ["BLOCK".toList] else []) ++
        (if has .ignored then ["IGNORE".toList] else [])
      Octets.filled 10 (Signal.mk n).name ++ " (".toList ++ Octets.padded 2 (Octets.ofNat n) ++
        "): ".toList ++ Octets.joined [','] what ++ ['\n']

/-- What is told about a command before it is started. -/
def starting (command : List Octets) : Octets :=
  "executing: ".toList ++ command.headD [] ++ ['\n'] ++
    command.zipIdx.flatMap fun (word, place) =>
      "   arg[".toList ++ Octets.ofNat place ++ "]= ".toList ++ Octets.shellQuoted word ++ ['\n']

def shebangHint (t : Task) : Octets :=
  t.complaint "use -[v]S to pass options in shebang lines".toList

def run (start : Start) (t : Task) (said : Octets) (a : Arguments) : Performance :=
  let (alone, operands) := match a.operands with
    | ['-'] :: rest => (true, rest)
    | operands => (false, operands)
  let alone := alone || a.has 'i'
  let removed := if alone then [] else a.values 'u'
  let settings := operands.takeWhile fun word => word.contains '='
  let kept := removed.foldl Environment.erase (if alone then [] else t.environment)
  let held := (settings.map Environment.setting).foldl
    (fun e entry => Environment.set e entry.1 entry.2) kept
  let command := operands.drop settings.length
  let badName := removed.find? fun name => name.isEmpty || name.contains '='
  let badSignal := (a.options.filter fun option => "DIB".contains option.1).findSome? fun option =>
    if option.2.isEmpty then none
    else (Octets.splitAt ',' option.2).find? fun name => (Signal.ofText? name).isNone
  let place := match a.value? 'C' with
    | none => Except.ok t.files
    | some path => t.files.goTo path
  let tells (text : Octets) : Octets := if a.has 'v' then text else []
  let line (front : String) (text : Octets) : Octets := front.toList ++ text ++ ['\n']
  let said := said ++
    tells ((if alone then line "cleaning environ" [] else []) ++
      removed.flatMap (line "unset:    ") ++ settings.flatMap (line "setenv:   "))
  let ends (r : Report) : Performance := t.reports { r with errors := said ++ r.errors }
  match badSignal, badName, settings.find? fun word => word.head? == some '=' with
  | some name, _, _ => ends (t.refuses (Octets.quoted name ++ ": invalid signal".toList) 125)
  | none, some name, _ =>
    ends (t.fails ("cannot unset ".toList ++ Octets.quoted name ++ ": Invalid argument".toList) 125)
  | none, none, _ =>
    if command.isEmpty then
      if a.has 'C' then ends (t.refuses "must specify command with --chdir (-C)".toList 125)
      else
        let mark := if a.has '0' then '\x00' else '\n'
        ends (t.prints (Octets.ofRecords mark (held.map fun (name, value) =>
          name ++ '=' :: value)))
    else if a.has '0' then ends (t.refuses "cannot specify --null (-0) with command".toList 125)
    else
      let signals := if a.has 'L' then
          handling (a.options.foldl (fun manners option => handled option manners) [])
        else []
      let said := said ++ signals
      match place with
      | .error e =>
        t.reports { t.fails ("cannot change directory to ".toList ++
          Octets.shellQuoted ((a.value? 'C').getD []) ++ ": ".toList ++ reasonOf e) 125 with
          errors := said ++ t.complaint ("cannot change directory to ".toList ++
            Octets.shellQuoted ((a.value? 'C').getD []) ++ ": ".toList ++ reasonOf e) }
      | .ok files =>
        let moved := if a.has 'v' then
            ((a.value? 'C').map fun path => line "chdir:    " (Octets.shellQuoted path)).getD []
          else []
        let said := said ++ moved ++ tells (starting command)
        let name := command.headD []
        let done :=
          match start { t with
            name, arguments := command.tail, environment := held, files } with
          | .ok p => { p with files := p.files.map t.files.seenAfter }
          | .error e =>
            let several := e = FileTree.notFound && name.any Octets.isSpace
            t.reports { t.fails [] (Task.statusOf e) with
              errors := t.complaint (Delegate.namedFirst name (reasonOf e)) ++
                if several then shebangHint t else [] }
        { done with marks := Mark.ofText 0 .errors said ++ done.marks }

/-- Starts a command with other variables, or prints the variables. -/
def environment : Behavior := fun start t =>
  let enough := (t.arguments.map fun word => word.length + 1).foldl (· + ·) 1
  match spread t.environment enough false t.arguments with
  | .error trouble => t.reports (t.fails trouble.message 125)
  | .ok (arguments, said) =>
    let words := known.words ++ [("help", '\x00'), ("version", '\x00')]
    match Arguments.read { known with words } arguments with
    | .error misuse =>
      let spaced := match misuse with
        | .unknownLetter c => Octets.isSpace c
        | _ => false
      let r := t.refuses misuse.message 125
      t.reports { r with
        errors := said ++ t.complaint misuse.message ++ (if spaced then shebangHint t else []) ++
          t.hint }
    | .ok a =>
      if a.has '\x00' then t.reports (t.prints []) else run start t said a

end CommandChains.Machine.Variables
