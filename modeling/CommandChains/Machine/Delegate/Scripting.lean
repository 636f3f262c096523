import CommandChains.Machine.Scripting.Words
import CommandChains.Machine.Scripting.Run

/-!
# Scripts and their options

What a script is told by the arguments in front of it: what it is, whether it is run for each line
of the input, how lines end, and which modules it uses.
-/

namespace CommandChains.Machine.Scripting

structure Asked where
  parts : Option (List Octets) := none
  modern : Bool := false
  loops : Bool := false
  prints : Bool := false
  splits : Bool := false
  splitter : Option Octets := none
  chomps : Bool := false
  outputEnd : Option Octets := none
  /-- What ends a line that is read; nothing if only the end of a file does. -/
  inputEnd : Option Octets := some ['\n']
  checks : Bool := false
  watchful : Bool := false
  editing : Option Octets := none
  modules : List Octets := []
  library : List Octets := []
  /-- What holds characters in several bytes: the sum of 1 for the input, 2 for the output, 4 for
  errors, 8 and 16 for files that are read and written, and 32 for arguments. -/
  wide : Nat := 0
  isInside : Bool := false
  setsNames : Bool := false
  searches : Bool := false
  /-- Whether the script is to be run step by step. -/
  steps : Bool := false
  complaint : Octets := []

inductive Outcome where
  | run (a : Asked) (operands : List Octets)
  | ended (output : Octets)
  | misused (message : Octets) (status : Nat)

def version : Octets := Octets.unlines <| [
  "",
  "This is perl 5, version 36, subversion 0 (v5.36.0) built for x86_64-linux-gnu-thread-multi",
  "(with 60 registered patches, see perl -V for more detail)"].map String.toList

def help (name : Octets) : Octets :=
  "\nUsage: ".toList ++ name ++ " [switches] [--] [programfile] [arguments]\n".toList ++
  (Octets.unlines <| [
  "  -0[octal/hexadecimal] specify record separator (\\0, if no argument)",
  "  -a                    autosplit mode with -n or -p (splits $_ into @F)",
  "  -C[number/list]       enables the listed Unicode features",
  "  -c                    check syntax only (runs BEGIN and CHECK blocks)",
  "  -d[t][:MOD]           run program under debugger or module Devel::MOD",
  "  -D[number/letters]    set debugging flags (argument is a bit mask or alphabets)",
  "  -e commandline        one line of program (several -e's allowed, omit programfile)",
  "  -E commandline        like -e, but enables all optional features",
  "  -f                    don't do $sitelib/sitecustomize.pl at startup",
  "  -F/pattern/           split() pattern for -a switch (//'s are optional)",
  "  -g                    read all input in one go (slurp), rather than line-by-line (alias for -0777)",
  "  -i[extension]         edit <> files in place (makes backup if extension supplied)",
  "  -Idirectory           specify @INC/#include directory (several -I's allowed)",
  "  -l[octnum]            enable line ending processing, specifies line terminator",
  "  -[mM][-]module        execute \"use/no module...\" before executing program",
  "  -n                    assume \"while (<>) \x7b ... \x7d\" loop around program",
  "  -p                    assume loop like -n but print line also, like sed",
  "  -s                    enable rudimentary parsing for switches after programfile",
  "  -S                    look for programfile using PATH environment variable",
  "  -t                    enable tainting warnings",
  "  -T                    enable tainting checks",
  "  -u                    dump core after parsing program",
  "  -U                    allow unsafe operations",
  "  -v                    print version and patchlevel",
  "  -V[:configvar]        print configuration summary (or a single Config.pm variable)",
  "  -w                    enable many useful warnings",
  "  -W                    enable all warnings",
  "  -x[directory]         ignore text before #!perl line (optionally cd to directory)",
  "  -X                    disable all warnings",
  "  ",
  "Run 'perldoc perl' for more help with Perl.",
  ""].map String.toList)

/-! ## Options -/

/-- The character or text that digits behind an option mean. -/
def separatorOf (digits : Octets) : Option Octets :=
  match digits with
  | c :: rest =>
    if c = 'x' ∨ c = 'X' then
      some [Char.ofNat (Octets.valueOf 16 (Octets.digitsOf 16 rest.length rest))]
    else
      let n := Octets.valueOf 8 (Octets.digitsOf 8 digits.length digits)
      if n = 0 && 1 < digits.length then some [] else if 255 < n then none else some [Char.ofNat n]
  | [] => some ['\x00']

/-- What letters or a number mean about what holds characters in several bytes, and what is behind
them. Without any, this depends on whether the surroundings have such characters. -/
def widthOf (inLocale : Bool) (text : Octets) : Nat × Octets :=
  let digits := text.takeWhile Char.isDigit
  let known : List (Char × Nat) :=
    [('I', 1), ('O', 2), ('E', 4), ('S', 7), ('i', 8), ('o', 16), ('D', 24), ('A', 32), ('L', 64)]
  let letters := text.takeWhile fun c => c == 'a' || (known.lookup c).isSome
  let asked := letters.foldl (fun n c => Nat.lor n ((known.lookup c).getD 0)) 0
  let (n, length) := if !digits.isEmpty then (Octets.decimal digits, digits.length)
    else if letters.isEmpty then (95, 0)
    else (asked, letters.length)
  (if n / 64 % 2 = 1 && !inLocale then 0 else n, text.drop length)

/-- What is said if the steps of the machine itself are to be shown. -/
def noDebugging : Octets :=
  "Recompile perl with -DDEBUGGING to use -D switch (did you mean -d ?)\n".toList

/-- The statement that uses a module as an option says. -/
def usingText (plain : Bool) (word : Octets) : Octets :=
  let (verb, word) : Octets × Octets := match word with
    | '-' :: rest => ("no ".toList, rest)
    | word => ("use ".toList, word)
  let name := word.takeWhile (· != '=')
  match word.drop name.length with
  | _ :: list =>
    if name.any Octets.isSpace then verb ++ word
    else verb ++ name ++ " split(/,/,q\x7b".toList ++ list ++ "\x7d)".toList
  | [] => if plain then verb ++ word else verb ++ word ++ " ()".toList

/-- Reads the arguments. Each round takes a letter or an argument. -/
def readArguments (name : Octets) (inLocale : Bool) : Nat → Asked → List Octets → Outcome
  | 0, a, operands => .run a operands
  | rounds + 1, a, arguments =>
    let letters (a : Asked) (text : Octets) (rest : List Octets) : Outcome :=
      readArguments name inLocale rounds a (if text.isEmpty then rest else ('-' :: text) :: rest)
    match arguments with
    | ['-', '-'] :: rest => .run a rest
    | ('-' :: c :: text) :: rest =>
      let adds (code : Octets) (rest : List Octets) (modern : Bool) : Outcome :=
        readArguments name inLocale rounds
          { a with parts := some (a.parts.getD [] ++ [code]), modern := a.modern || modern } rest
      match c with
      | 'e' | 'E' =>
        match text, rest with
        | [], [] => .misused ("No code specified for -".toList ++ c :: ".".toList) 29
        | [], code :: rest => adds code rest (c = 'E')
        | code, rest => adds code rest (c = 'E')
      | 'n' => letters { a with loops := true } text rest
      | 'p' => letters { a with loops := true, prints := true } text rest
      | 'a' => letters { a with loops := true, splits := true } text rest
      | 'F' =>
        readArguments name inLocale rounds { a with loops := true, splits := true, splitter := some text } rest
      | 'l' =>
        let digits := (text.takeWhile fun d => '0' ≤ d && d ≤ '7').take 4
        let ending := if digits.isEmpty then some (a.inputEnd.getD []) else
          some [Char.ofNat (Octets.valueOf 8 (Octets.digitsOf 8 digits.length digits))]
        let ending := if digits.isEmpty && a.inputEnd == some [] then some ['\n', '\n'] else ending
        letters { a with chomps := true, outputEnd := ending } (text.drop digits.length) rest
      | '0' =>
        let digits := match text with
          | 'x' :: more => 'x' :: more.takeWhile fun d => (Octets.digit? d).any (· < 16)
          | more => (more.takeWhile fun d => '0' ≤ d && d ≤ '7').take 4
        let shown := if digits.head? = some 'x' then digits
          else if digits.isEmpty then [] else '0' :: digits
        letters { a with inputEnd := separatorOf shown } (text.drop digits.length) rest
      | 'g' => letters { a with inputEnd := none } text rest
      | 'i' =>
        let ending := text.takeWhile fun d => !Octets.isSpace d
        readArguments name inLocale rounds { a with editing := some ending } rest
      | 'I' =>
        match text, rest with
        | [], [] => .misused "No directory specified for -I.".toList 29
        | [], path :: rest =>
          readArguments name inLocale rounds { a with library := a.library ++ [path] } rest
        | path, rest => readArguments name inLocale rounds { a with library := a.library ++ [path] } rest
      | 'M' | 'm' =>
        if text.isEmpty then .misused ("Missing argument to -".toList ++ [c, '.']) 29
        else
          let all := a.modules ++ [usingText (c = 'M') text]
          readArguments name inLocale rounds { a with modules := all } rest
      | 'c' => letters { a with checks := true } text rest
      | 'w' | 'W' => letters { a with watchful := true } text rest
      | 'X' => letters { a with watchful := false } text rest
      | 's' => letters { a with setsNames := true } text rest
      | 'x' => readArguments name inLocale rounds { a with isInside := true } rest
      | 'C' =>
        let (wide, text) := widthOf inLocale text
        letters { a with wide } text rest
      | 't' | 'T' | 'f' | 'U' | 'u' => letters a text rest
      | 'S' => letters { a with searches := true } text rest
      | 'd' => readArguments name inLocale rounds { a with steps := true } rest
      | 'D' => letters { a with complaint := noDebugging } (text.dropWhile isWordly) rest
      | 'v' => .ended version
      | 'V' =>
        .ended (if text == ":version".toList then "version='5.36.0';\n".toList else version)
      | 'h' => .ended (help name)
      | '-' =>
        if text == "version".toList then .ended version
        else if text == "help".toList then .ended (help name)
        else
          .misused ("Unrecognized switch: --".toList ++ text ++
            "  (-h will show valid options).".toList) 29
      | _ =>
        .misused ("Unrecognized switch: -".toList ++ c :: text ++
          "  (-h will show valid options).".toList) 29
    | operands => .run a operands

/-! ## The script -/

/-- What is in front of a script in the options' place, on a line of its own. -/
def preamble (a : Asked) : Octets :=
  let uses := a.modules.flatMap fun m => m ++ [';']
  let modern : Octets := if a.modern then "use feature ':5.36';".toList else []
  let loop : Octets :=
    if !a.loops then []
    else
      let splitting : Octets :=
        match a.splits, a.splitter with
        | true, some (c :: rest) =>
          if (c = '/' ∨ c = '\x27' ∨ c = '"') && rest.contains c then
            "our @F=split(".toList ++ c :: rest ++ ");".toList
          else "our @F=split(q\x01".toList ++ c :: rest ++ "\x01);".toList
        | true, some [] => "our @F=split(q\x01\x01);".toList
        | true, none => "our @F=split(' ');".toList
        | false, _ => []
      "LINE: while (<>) \x7b".toList ++ (if a.chomps then "chomp;".toList else []) ++ splitting
  uses ++ modern ++ loop ++ ['\n']

def afterword (a : Asked) : Octets :=
  if a.prints then ";\x7dcontinue\x7bprint or die qq(-p destination: $!\\n);\x7d".toList
  else if a.loops then ";\x7d".toList else []

/-- A script from the line on that names the program for it. -/
def insideText (text : Octets) : Option Octets :=
  let lines := Octets.splitAt '\n' text
  let begins (line : Octets) : Bool :=
    ("#!".toList).isPrefixOf line && Octets.occursIn "perl".toList line
  (lines.findIdx? begins).map fun n => Octets.joined ['\n'] (lines.drop n)

def ownOptions (text : Octets) : List Octets :=
  let line := text.takeWhile (· != '\n')
  if ("#!".toList).isPrefixOf line then
    let rec go : Octets → List Octets
      | 'p' :: 'e' :: 'r' :: 'l' :: rest =>
        (Octets.words (rest.dropWhile fun c => !Octets.isSpace c)).filter fun w =>
          w.head? = some '-'
      | _ :: rest => go rest
      | [] => []
    go line
  else []

/-- The words that run a script whose first line names another program. -/
def otherProgram? (text : Octets) : Option (List Octets) :=
  let line := text.takeWhile (· != '\n')
  if ("#!".toList).isPrefixOf line && !Octets.occursIn "perl".toList line &&
      !Octets.occursIn "indir".toList line then
    match Octets.words (line.drop 2) with
    | [] => none
    | words => some words
  else none

/-! ## Running -/

/-- The names that are mentioned only once, as they are complained about. -/
def lonely (p : Progress) : Octets :=
  if !(p.scope.warns || p.watchful) then []
  else
    let names := p.mentions.reverse
    names.flatMap fun (name, line) =>
      if (names.filter fun other => other.1 == name).length = 1 then
        "Name \"".toList ++ name.toList ++ "\" used only once: possible typo at ".toList ++ p.file ++
          " line ".toList ++ Octets.ofNat line ++ ".\n".toList
      else []

def prepare (t : Task) (a : Asked) (name : Octets) (operands : List Octets) : Act Unit := do
  Act.setCommon "0" (.text name)
  Act.setCommon "@" (.text [])
  Act.setCommon "?" (.ofInt 0)
  Act.setCommon "\"" (.text [' '])
  Act.setCommon ";" (.text ['\x1c'])
  Act.setCommon "/" (match a.inputEnd with
    | some s => .text s
    | none => .unset)
  match a.outputEnd with
  | some s => Act.setCommon "\\" (.text s)
  | none => pure ()
  let argument (text : Octets) : Value :=
    .text (if a.wide / 32 % 2 = 1 then (Octets.toText text).toList else text)
  Act.setValues (← Act.sharedPlace .array "main::ARGV") (operands.map argument)
  Act.setValues (← Act.sharedPlace .array "main::INC")
    ((a.library ++ libraryPath.map String.toList).map Value.text)
  let environment := t.environment.flatMap fun (key, v) => [Value.text key, .text v]
  Act.setPairs (← Act.sharedPlace .hash "main::ENV") environment

def standardFiles (width : Nat) : List (String × Channel) :=
  [("main::STDIN", { reads := true, live := true, path := ['-'], wide := width % 2 = 1 }),
    ("main::STDOUT", { writes := some .output, number := 1, wide := width / 2 % 2 = 1 }),
    ("main::STDERR", { writes := some .errors, eager := true, number := 2, wide := width / 4 % 2 = 1 })]

/-- Sets the names that arguments with dashes name, and tells the other arguments. -/
def settings : List Octets → Act (List Octets)
  | ['-', '-'] :: rest => pure rest
  | ('-' :: word) :: rest => do
    if word.isEmpty then pure (['-'] :: rest)
    else
      let name := word.takeWhile (· != '=')
      let v : Value := match word.drop name.length with
        | _ :: text => .text text
        | [] => .ofInt 1
      Act.setCommon (String.ofList name) v
      settings rest
  | rest => pure rest

def perform (start : Start) (t : Task) (a : Asked) (name text : Octets) (operands : List Octets)
    (input : Octets) (begins : Nat) : Performance :=
  let whole := preamble a ++ text ++ afterword a
  let endsLine := text.getLast? == some '\n'
  let p : Progress :=
    { rest := whole, file := name, endsLine
      lastLine := lineCount whole - (if endsLine then 1 else 0), watchful := a.watchful
      scope := { warns := a.watchful }
      script := { warnings := a.complaint ++ (if a.editing.isSome && operands.isEmpty then
          "-i used with no filenames on the command line, reading from STDIN.\n".toList else []) } }
  let failing (message : Octets) (status : Nat) : Performance :=
    { duration := begins, marks := Mark.ofText begins .errors message, left := input, status }
  let gaveUp : Octets :=
    if a.checks then name ++ " had compilation errors.\n".toList
    else "Execution of ".toList ++ name ++ " aborted due to compilation errors.\n".toList
  if a.steps then
    failing (p.script.warnings ++ notLocated "perl5db.pl".toList none ++
      ".\nBEGIN failed--compilation aborted.\n".toList) 2
  else
  match Reading.whole.run p with
  | (.error mistake, p) =>
    failing (p.script.warnings ++ mistake.message ++ (if mistake.aborts then gaveUp else []))
      (if Octets.occursIn "Can't locate".toList mistake.message then 2 else 255)
  | (.ok body, p) =>
    let warnings := p.script.warnings ++ { p.script with body }.idle ++ lonely p
    if !p.errors.isEmpty then
      failing (p.script.warnings ++ p.errors.reverse.flatten ++ gaveUp) 255
    else
      let script := { p.script with body := if a.checks then [] else body, warnings }
      let script := if a.checks then { script with finals := [] } else script
      let s : State :=
        { task := t, start
          channels := .ofList (standardFiles a.wide)
          decodes := a.wide / 8 % 2 = 1
          encodes := a.wide / 16 % 2 = 1
          watchful := a.watchful, editing := a.editing, known := p.known
          sequel := { files := t.files, input, time := begins } }
      let work : Act Unit := do
        let operands ← if a.setsNames then settings operands else pure operands
        prepare t a name operands
        match script.data with
        | some data =>
          modify fun s =>
            { s with channels := s.channels.insert "main::DATA" { reads := true, text := data } }
        | none => pure ()
        Act.whole script
        if a.checks then
          Act.alterSequel fun q => q.prints .errors (name ++ " syntax OK\n".toList)
      let after := (work.run.run s).2
      { after.sequel.performance after.sequel.input after.status with signal := after.signal }

/-- Whether characters are written in several bytes in the surroundings. -/
def speaksWidely (t : Task) : Bool :=
  let set := ["LC_ALL", "LC_CTYPE", "LANG"].findSome? fun name =>
    (t.environment.lookup name.toList).filter fun v => !v.isEmpty
  set.any fun v => Octets.occursIn "utf".toList (Octets.lower v)

def behavior : Behavior := fun start t =>
  let misused (message : Octets) (status : Nat) : Performance :=
    { marks := Mark.ofText 0 .errors (message ++ ['\n']), left := t.input, status }
  let inLocale := speaksWidely t
  match readArguments t.name inLocale (8 * (t.arguments.flatten.length + t.arguments.length) + 8) {}
      t.arguments with
  | .ended output => t.reports (t.prints output)
  | .misused message status => misused message status
  | .run a operands =>
    match a.parts with
    | some parts => perform start t a ['-', 'e'] (Octets.unlines parts) operands t.input 0
    | none =>
      let name := operands.headD ['-']
      let rest := operands.drop 1
      let own : Bool := t.isInput name
      if a.searches && !name.contains '/' && !own then
        misused ("Can't find ".toList ++ name ++ " on PATH.".toList) 29
      else
      let found := if own then Except.ok t.input else t.contents name
      match found with
      | .error e =>
        let code := match e with
          | .number n => n.toNat
          | .text _ => 2
        misused ("Can't open perl script \"".toList ++ name ++ "\": ".toList ++ reasonOf e) code
      | .ok text =>
        let input := if own then [] else t.input
        let begins := if own then t.inputEnds else 0
        match if a.isInside then insideText text else some text with
        | none => misused "No Perl script found in input".toList 255
        | some text =>
          match if own then none else otherProgram? text with
          | some words =>
            t.handOver start (words ++ [name] ++ rest) Delegate.failedToRun
          | none =>
            match readArguments t.name inLocale 100 a (ownOptions text) with
            | .run a _ => perform start t a name text rest input begins
            | _ => perform start t a name text rest input begins

end CommandChains.Machine.Scripting
