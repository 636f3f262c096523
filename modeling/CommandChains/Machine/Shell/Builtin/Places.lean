import CommandChains.Machine.Shell.Builtin.Reading

/-!
# Commands about places

The commands of the shell about the directory where it stands, the directories that it
remembers, the permissions of new files and the limits that it is under.
-/

namespace CommandChains.Machine.Shell.Builtin

/-! ## Going to another directory -/

/-- A path from the root without steps that lead nowhere or back. -/
def straightened (path : Octets) : Octets :=
  let steps := (Octets.splitAt '/' path).foldl (fun (done : List Octets) step =>
    if step = [] ∨ step = ['.'] then done
    else if step = ['.', '.'] then done.tail
    else step :: done) []
  let front := if "//".toList.isPrefixOf path && path[2]? != some '/' then ['/'] else []
  if steps.isEmpty then '/' :: front
  else front ++ steps.reverse.flatMap fun step => '/' :: step

/-- A path as it is known from the place where the shell stands. -/
def fromHere (s : State) (path : Octets) : Octets :=
  straightened (if path.head? = some '/' then path else s.here ++ '/' :: path)

/-- Goes to a directory, whose path is kept as it is given or as it is without links. -/
def goTo (physical : Bool) (path : Octets) (s : State) : Except SystemError State :=
  let known := if physical then path else fromHere s path
  let found : Except SystemError Files := match s.files.goTo known with
    | .ok files => .ok files
    | .error _ => s.files.goTo path
  found.map fun files =>
    let here := if physical then files.herePath else known
    let old := (s.text? "PWD").getD s.here
    let told (s : State) (name : String) (text : Octets) : State :=
      let s := s.setValue name.toList (.text text)
      if s.isLarge then s else s.alterVariable name.toList fun v => { v with exported := true }
    told (told { s with files, here } "OLDPWD" old) "PWD" here

/-- The directories in which those are looked for that a path names, with the path. -/
def directoryChoices (s : State) (path : Octets) : List (Octets × Bool) :=
  let first := (Octets.splitAt '/' path).headD []
  let places := match s.text? "CDPATH" with
    | some list => Octets.splitAt ':' list
    | none => []
  if path.head? = some '/' || first = ['.'] || first = ['.', '.'] then [(path, false)]
  else (places.map fun place =>
    if place.isEmpty then (path, false) else (place ++ '/' :: path, true)) ++ [(path, false)]

/-- Goes to the first directory of some that is there. -/
def goToFirst (physical shows : Bool) : List (Octets × Bool) → State → Except SystemError State
  | [], _ => .error FileTree.notFound
  | (path, named) :: rest, s =>
    match goTo physical path s with
    | .ok s => .ok (if shows || named then s.say 1 (s.here ++ ['\n']) else s)
    | .error e => if rest.isEmpty then .error e else goToFirst physical shows rest s

def wantsPhysical (found : Options) : Bool :=
  ((found.1.filter fun o => o.1 == 'L' || o.1 == 'P').getLast?.map (·.1)) == some 'P'

def changeDirectorySmall : Builtin := fun _ =>
  withOptions "LP" "" fun found s =>
    let (target, shows) : Octets × Bool := match found.2 with
      | [] => ((s.text? "HOME").getD [], false)
      | ['-'] :: _ => ((s.text? "OLDPWD").getD [], true)
      | path :: _ => (path, false)
    let path := if target.isEmpty then ['.'] else target
    match goToFirst (wantsPhysical found) shows (directoryChoices s path) s with
    | .ok s => s.withStatus 0
    | .error _ => smallMistake ("can't cd to ".toList ++ path) s

def changeDirectoryLarge : Builtin := fun _ =>
  withOptions "LPe@" "" fun found s =>
    let goes (path : Octets) (shows : Bool) : State :=
      if path.isEmpty then s.withStatus 0
      else
        match goToFirst (wantsPhysical found) shows (directoryChoices s path) s with
        | .ok s => s.withStatus 0
        | .error e => s.commandFailing (path ++ ": ".toList ++ reasonOf e) 1
    match found.2 with
    | [] =>
      match s.text? "HOME" with
      | some home => goes home false
      | none => s.commandFailing "HOME not set".toList 1
    | [['-']] =>
      match s.text? "OLDPWD" with
      | some old => goes old true
      | none => s.commandFailing "OLDPWD not set".toList 1
    | [path] => goes path false
    | _ => s.commandFailing "too many arguments".toList 1

def changeDirectory : Builtin := byDialect changeDirectorySmall changeDirectoryLarge

/-- Prints the path of the place where the shell stands. -/
def workplace : Builtin := fun _ =>
  withOptions "LP" "" fun found s =>
    prints ((if wantsPhysical found then s.files.herePath else s.here) ++ ['\n']) s

/-! ## Directories that are remembered -/

/-- A path as it is listed, with a tilde for the home directory. -/
def tidied (s : State) (path : Octets) : Octets :=
  match s.text? "HOME" with
  | some home =>
    if home.isEmpty then path
    else if path = home then ['~']
    else if (home ++ ['/']).isPrefixOf path then '~' :: path.drop home.length
    else path
  | none => path

/-- The place where the shell stands and those that it remembers, in a line. -/
def placesLine (s : State) : Octets :=
  Octets.joined [' '] ((s.here :: s.places).map (tidied s)) ++ ['\n']

/-- The number of the place that a word means, if it means one. -/
def placeNumber? (s : State) (word : Octets) : Option (Option Nat) :=
  let size := s.places.length
  match word with
  | '+' :: digits => (Octets.decimal? digits).map fun n => if n ≤ size then some n else none
  | '-' :: digits =>
    (Octets.decimal? digits).map fun n => if n ≤ size then some (size - n) else none
  | _ => none

def goAndKeep (path : Octets) (places : State → List Octets) (s : State) : State :=
  match goTo false path s with
  | .ok done =>
    let done := { done with places := places s }
    prints (placesLine done) done
  | .error e => s.commandFailing (path ++ ": ".toList ++ reasonOf e) 1

/-- Complains that a place is not among those that are remembered. -/
def beyondPlaces (word : Octets) (s : State) : State :=
  if s.places.isEmpty then s.commandFailing "directory stack empty".toList 1
  else s.commandFailing (word ++ ": directory stack index out of range".toList) 1

/-- Remembers the present directory and goes to another one. -/
def pushPlace : Builtin := fun _ arguments s =>
  let stays := arguments.contains ['-', 'n']
  match arguments.filter fun word => word != ['-', 'n'] && word != ['-', '-'] with
  | [] =>
    match s.places with
    | [] => s.commandFailing "no other directory".toList 1
    | next :: rest => goAndKeep next (fun s => s.here :: rest) s
  | word :: _ =>
    match placeNumber? s word with
    | some (some n) =>
      let all := s.here :: s.places
      let turned := all.drop n ++ all.take n
      goAndKeep (turned.headD []) (fun _ => turned.tail) s
    | some none => beyondPlaces word s
    | none =>
      if stays then
        let s := { s with places := word :: s.places }
        prints (placesLine s) s
      else goAndKeep word (fun s => s.here :: s.places) s

/-- Goes to the directory that was remembered last, or forgets one. -/
def popPlace : Builtin := fun _ arguments s =>
  let stays := arguments.contains ['-', 'n']
  let words := arguments.filter fun word => word != ['-', 'n'] && word != ['-', '-']
  let without (n : Nat) : List Octets := s.places.take (n - 1) ++ s.places.drop n
  match words.head?, s.places with
  | _, [] => s.commandFailing "directory stack empty".toList 1
  | none, next :: rest =>
    if stays then
      let s := { s with places := rest }
      prints (placesLine s) s
    else goAndKeep next (fun _ => rest) s
  | some word, next :: rest =>
    match placeNumber? s word with
    | some (some 0) => goAndKeep next (fun _ => rest) s
    | some (some n) =>
      let s := { s with places := without n }
      prints (placesLine s) s
    | some none => beyondPlaces word s
    | none => refuses (s.commandFailing (word ++ ": invalid argument".toList) 2)

def listPlaces : Builtin := fun _ arguments s =>
  let letters := (arguments.filter fun word =>
    word.head? == some '-' && (placeNumber? s word).isNone).flatMap (·.drop 1)
  let number := (arguments.filterMap (placeNumber? s)).head?
  let show_ (path : Octets) : Octets := if letters.contains 'l' then path else tidied s path
  let all := (s.here :: s.places).map show_
  if letters.contains 'c' then { s with places := [], status := 0 }
  else
    match number with
    | some (some n) => prints (all.getD n [] ++ ['\n']) s
    | some none => beyondPlaces (arguments.headD []) s
    | none =>
      if letters.contains 'v' then
        prints (all.zipIdx.flatMap fun (path, n) =>
          Octets.padded 2 (Octets.ofNat n) ++ "  ".toList ++ path ++ ['\n']) s
      else if letters.contains 'p' then prints (Octets.unlines all) s
      else prints (Octets.joined [' '] all ++ ['\n']) s

/-! ## Permissions of new files -/

def permissionLetters (n : Nat) : Octets :=
  (if n / 4 % 2 = 1 then ['r'] else []) ++ (if n / 2 % 2 = 1 then ['w'] else []) ++
    (if n % 2 = 1 then ['x'] else [])

def symbolicMode (mode : Nat) : Octets :=
  "u=".toList ++ permissionLetters (mode / 64 % 8) ++ ",g=".toList ++
    permissionLetters (mode / 8 % 8) ++ ",o=".toList ++ permissionLetters (mode % 8)

/-- A number in base eight, with four digits at least. -/
def octalMask (n : Nat) : Octets :=
  Octets.padded 4 (Nat.toDigits 8 n) '0'

inductive ModeError where
  | operator (c : Char)
  | letter (c : Char)
  deriving DecidableEq

def permissionBit? : Char → Option Nat
  | 'r' => some 4
  | 'w' => some 2
  | 'x' | 'X' => some 1
  | 's' | 't' => some 0
  | _ => none

/-- Permissions changed by an operator, letters and more operators, for some classes. The
large shell does not know letters that mean classes or special bits here. -/
def applyActions (large : Bool) (classes : Nat) : Nat → Octets → Nat → Except ModeError Nat
  | 0, _, mode => .ok mode
  | _, [], mode => .ok mode
  | rounds + 1, operator :: rest, mode =>
    if operator != '+' && operator != '-' && operator != '=' then .error (.operator operator)
    else
      let letters := rest.takeWhile fun c => c != '+' && c != '-' && c != '='
      let behind := rest.drop letters.length
      let bitOf (c : Char) : Except ModeError Nat :=
        if large && (c == 'X' || c == 's' || c == 't') then .error (.letter c)
        else
          match permissionBit? c with
          | some n => .ok n
          | none =>
            if large then .error (.letter c)
            else if c = 'u' then .ok (mode / 64 % 8)
            else if c = 'g' then .ok (mode / 8 % 8)
            else if c = 'o' then .ok (mode % 8)
            else .error (.letter c)
      match letters.mapM bitOf with
      | .error e => .error e
      | .ok bits =>
        if large && !behind.isEmpty && !letters.isEmpty then .error (.letter (behind.headD ' '))
        else
          let one := bits.foldl Nat.lor 0
          let all := Nat.land (one * 73) classes
          let changed :=
            if operator = '+' then Nat.lor mode all
            else if operator = '-' then mode - Nat.land mode all
            else Nat.lor (mode - Nat.land mode classes) all
          applyActions large classes rounds behind changed

def applyClauses (large : Bool) : List Octets → Nat → Except ModeError Nat
  | [], mode => .ok mode
  | clause :: rest, mode =>
    let who := clause.takeWhile fun c => "ugoa".contains c
    let classes :=
      if who.isEmpty || who.contains 'a' then 511
      else (if who.contains 'u' then 448 else 0) + (if who.contains 'g' then 56 else 0) +
        if who.contains 'o' then 7 else 0
    let actions := clause.drop who.length
    if actions.isEmpty && large then .error (.operator ' ')
    else
      match applyActions large classes (actions.length + 1) actions mode with
      | .ok mode => applyClauses large rest mode
      | .error e => .error e

/-- The mask that a text means, or what is wrong with it. -/
def maskOf (large : Bool) (mask : Nat) (text : Octets) : Except Octets Nat :=
  if text.head?.any Char.isDigit then
    if text.all (fun c => decide ('0' ≤ c) && decide (c ≤ '7')) &&
        (!large || Octets.valueOf 8 (Octets.digitsOf 8 20 text) ≤ 4095) then
      .ok (Octets.valueOf 8 (Octets.digitsOf 8 20 text) % 512)
    else if large then .error (text ++ ": octal number out of range".toList)
    else .error (illegalNumber text)
  else
    match applyClauses large (Octets.splitAt ',' text) (511 - mask % 512) with
    | .ok mode => .ok (511 - mode)
    | .error e =>
      if !large then .error ("Illegal mode: ".toList ++ text)
      else
        match e with
        | .operator c => .error ('\x60' :: c :: "': invalid symbolic mode operator".toList)
        | .letter c => .error ('\x60' :: c :: "': invalid symbolic mode character".toList)

/-- Shows or changes the permissions that new files do not get. -/
def creationMask : Builtin := fun _ arguments s =>
  let work (found : Options) (s : State) : State :=
    let letters := hasOption 'S' found
    match found.2 with
    | [] =>
      let shown := if letters then symbolicMode (511 - s.files.mask % 512)
        else octalMask s.files.mask
      let front := if hasOption 'p' found then (if letters then "umask -S " else "umask ") else ""
      prints (front.toList ++ shown ++ ['\n']) s
    | text :: _ =>
      match maskOf s.isLarge s.files.mask text with
      | .ok mask =>
        let s := { s with files := { s.files with mask } }
        if s.isLarge && letters then prints (symbolicMode (511 - mask % 512) ++ ['\n']) s
        else s.withStatus 0
      | .error message =>
        match s.dialect with
        | .small => smallMistake message s
        | .large => s.commandFailing message 1
  withOptions (if s.isLarge then "pS" else "S") "" work arguments s

/-! ## Limits -/

/-- The limits that the small shell knows: their letters, names and values. -/
def smallLimits : List (Char × String × String) :=
  [('t', "time(seconds)", "unlimited"), ('f', "file(blocks)", "unlimited"),
    ('d', "data(kbytes)", "unlimited"), ('s', "stack(kbytes)", "8192"),
    ('c', "coredump(blocks)", "unlimited"), ('m', "memory(kbytes)", "unlimited"),
    ('l', "locked memory(kbytes)", "8192"), ('p', "process", "unlimited"),
    ('n', "nofiles", "1048576"), ('v', "vmemory(kbytes)", "unlimited"),
    ('w', "locks", "unlimited"), ('r', "rtprio", "0")]

/-- The limits that the large shell knows: their letters, names, units and values. -/
def largeLimits : List (Char × String × String × String) :=
  [('R', "real-time non-blocking time", "microseconds, ", "unlimited"),
    ('c', "core file size", "blocks, ", "unlimited"),
    ('d', "data seg size", "kbytes, ", "unlimited"), ('e', "scheduling priority", "", "0"),
    ('f', "file size", "blocks, ", "unlimited"), ('i', "pending signals", "", "128604"),
    ('l', "max locked memory", "kbytes, ", "8192"),
    ('m', "max memory size", "kbytes, ", "unlimited"), ('n', "open files", "", "1048576"),
    ('p', "pipe size", "512 bytes, ", "8"), ('q', "POSIX message queues", "bytes, ", "819200"),
    ('r', "real-time priority", "", "0"), ('s', "stack size", "kbytes, ", "8192"),
    ('t', "cpu time", "seconds, ", "unlimited"), ('u', "max user processes", "", "unlimited"),
    ('v', "virtual memory", "kbytes, ", "unlimited"), ('x', "file locks", "", "unlimited")]

/-- A limit of the large shell in a line of a list. -/
def limitLine (limit : Char × String × String × String) : Octets :=
  let (letter, name, units, value) := limit
  let note := '(' :: units.toList ++ '-' :: letter :: [')']
  let room := 47 - name.length
  name.toList ++ Octets.padded room note ++ ' ' :: value.toList ++ ['\n']

/-- Shows limits. That they can be changed does not matter here. -/
def limits : Builtin := fun _ arguments s =>
  match s.dialect with
  | .small =>
    withOptions "HSatfdscmlpnvwr" "" (fun found s =>
      let letter := ((found.1.map (·.1)).filter fun c => c != 'H' && c != 'S').getLast?.getD 'f'
      if letter = 'a' then
        prints (smallLimits.flatMap fun (_, name, value) =>
          Octets.filled 20 name.toList ++ ' ' :: value.toList ++ ['\n']) s
      else
        match found.2 with
        | [] => prints (((smallLimits.lookup letter).map fun (_, value) =>
            value.toList ++ ['\n']).getD []) s
        | text :: rest =>
          if !rest.isEmpty then smallMistake "too many arguments".toList s
          else if text.all Char.isDigit || text == "unlimited".toList then s.withStatus 0
          else smallMistake "bad number".toList s) arguments s
  | .large =>
    withOptions "HSabcdefiklmnpqrstuvxPRT" "" (fun found s =>
      let letters := (found.1.map (·.1)).filter fun c => c != 'H' && c != 'S'
      let wanted := if letters.isEmpty then ['f'] else letters
      if wanted.contains 'a' then prints (largeLimits.flatMap limitLine) s
      else
        match found.2 with
        | [] =>
          prints (wanted.flatMap fun letter =>
            match largeLimits.lookup letter with
            | some (name, units, value) =>
              if wanted.length = 1 then value.toList ++ ['\n']
              else limitLine (letter, name, units, value)
            | none => []) s
        | text :: _ =>
          let known := text.all Char.isDigit ||
            ["unlimited", "hard", "soft"].contains (String.ofList text)
          if known then s.withStatus 0
          else s.commandFailing (text ++ ": invalid number".toList) 1) arguments s

end CommandChains.Machine.Shell.Builtin
