import CommandChains.Machine.Permission
import CommandChains.Machine.Tool.Clock
import CommandChains.Machine.Tool.Basic
import CommandChains.Machine.Account
import CommandChains.Machine.Path

/-!
# Making files

Tools that make files and directories, or give files that are there another time or size.
-/

namespace CommandChains.Machine

namespace Making

open FileTree

/-- The permissions that a text asks for, where the usual ones are given, or that it is
wrong. -/
def modeOr (usual : Nat) (f : Files) (isDirectory : Bool) (text : Option Octets) : Option Nat :=
  match text with
  | none => some (f.allowed usual)
  | some text =>
    (Permission.changes? text).map fun changes =>
      Permission.applied f.mask isDirectory usual changes

/-! ## Directories -/

/-- Makes the directories of some steps behind a path, each if it is not there. -/
def makePath (t : Task) (e : Errand) (verbose : Bool) (mode : Nat) (told : Octets → Octets) :
    Octets → List Octets → Errand
  | _, [] => e
  | before, step :: rest =>
    let path := if before.isEmpty || before = ['/'] then before ++ step
      else before ++ '/' :: step
    if step.isEmpty then makePath t e verbose mode told (if before.isEmpty then ['/'] else before) rest
    else
      let isLast := rest.all List.isEmpty
      match e.files.node path with
      | .ok (.directory _ _) => makePath t e verbose mode told path rest
      | .ok _ =>
        e.complains t ("cannot create directory ".toList ++ Octets.shellQuoted path ++ ": ".toList ++
          reasonOf (if isLast then fileExists else notADirectory))
      | .error _ =>
        let own := if isLast then mode else Nat.lor (e.files.allowed 511) 192
        match ({ e.files with mask := 0 }.makeDirectory own path) with
        | .ok files =>
          let e := { e with files := { files with mask := e.files.mask } }
          makePath t (if verbose then e.tells (told path) else e) verbose mode told path rest
        | .error reason =>
          e.complains t ("cannot create directory ".toList ++ Octets.shellQuoted path ++
            ": ".toList ++ reasonOf reason)

def toldOfDirectory (t : Task) (path : Octets) : Octets :=
  t.name ++ ": created directory ".toList ++ Octets.shellQuoted path

def directories : Tool := fun t =>
  t.withArguments
      { plain := "pvZ", valued := "m", words := [("mode", 'm'), ("parents", 'p'), ("verbose", 'v'),
        ("context", 'Z')] } 1 fun a =>
    t.needsOperands a "" <|
    match modeOr 511 t.files true (a.value? 'm') with
    | none => t.fails ("invalid mode ".toList ++ Octets.quoted ((a.value? 'm').getD [])) 1
    | some mode =>
      Errand.each t a.operands fun e path =>
        if a.has 'p' && !path.isEmpty then
          makePath t e (a.has 'v') mode (toldOfDirectory t) [] (Octets.splitAt '/' path)
        else
          let made := { e.files with mask := 0 }.makeDirectory mode path
          e.try_ t ("cannot create directory ".toList ++ Octets.shellQuoted path)
            (made.map fun files => { files with mask := e.files.mask }) fun e =>
              if a.has 'v' then e.tells (toldOfDirectory t path) else e

/-! ## Pipes and devices -/

def pipes : Tool := fun t =>
  t.withArguments { plain := "Z", valued := "m", words := [("mode", 'm'), ("context", 'Z')] } 1
      fun a =>
    t.needsOperands a "" <|
    match modeOr 438 t.files false (a.value? 'm') with
    | none => t.fails "invalid mode".toList 1
    | some mode =>
      if 511 < mode then t.fails "mode must specify only file permission bits".toList 1
      else
        Errand.each t a.operands fun e path =>
          e.try_ t ("cannot create fifo ".toList ++ Octets.shellQuoted path)
            (e.files.putNode Node.pipe path)

def device : Tool := fun t =>
  t.withArguments { plain := "Z", valued := "m", words := [("mode", 'm'), ("context", 'Z')] } 1
      fun a =>
    let missing (after : Octets) : Octets := "missing operand after ".toList ++ Octets.quoted after
    let extra (word : Octets) : Report := t.refuses ("extra operand ".toList ++ Octets.quoted word) 1
    let make (path : Octets) (node : Node) : Report :=
      Errand.each t [path] fun e path =>
        match e.files.putNode node path with
        | .ok files => { e with files }
        | .error reason => e.complains t (Octets.asName path ++ ": ".toList ++ reasonOf reason)
    match a.operands with
    | [] => t.refuses "missing operand".toList 1
    | [path] => t.refuses (missing path) 1
    | path :: ['p'] :: rest =>
      match rest with
      | [] => make path Node.pipe
      | word :: _ => extra word
    | [_, kind] =>
      { t.refuses (missing kind) 1 with
        errors := t.complaint (missing kind) ++
          "Special files require major and minor device numbers.\n".toList ++ t.hint }
    | [_, _, major] => t.refuses (missing major) 1
    | path :: kind :: major :: minor :: rest =>
      match rest with
      | word :: _ => extra word
      | [] =>
        if kind != ['b'] && kind != ['c'] && kind != ['u'] then
          t.refuses ("invalid device type ".toList ++ Octets.quoted kind) 1
        else if (Octets.decimal? major).isNone then
          t.fails ("invalid major device number ".toList ++ Octets.quoted major) 1
        else if (Octets.decimal? minor).isNone then
          t.fails ("invalid minor device number ".toList ++ Octets.quoted minor) 1
        else make path (.device (String.ofList (major ++ ',' :: minor)))

/-! ## Times -/

/-- What the value of an option names the times to change by. -/
def timeChoices : Choices Char :=
  [(["atime", "access", "use"], 'a'), (["mtime", "modify"], 'm')]

inductive TimeSource where
  | now
  | stamp (n : Int)
  deriving DecidableEq, Repr

/-- The time that files are to be given, or what is wrong. -/
def timeSource (t : Task) (a : Arguments) : Except Octets TimeSource :=
  let clock := Calendar.clockOf t.environment
  let moment (text : Octets) (found : Option Calendar.Moment) : Except Octets TimeSource :=
    match found with
    | some m => .ok (.stamp (Calendar.stampAt m.seconds))
    | none => .error ("invalid date format ".toList ++ Octets.quoted text)
  match a.value? 'r', a.value? 'd', a.value? 't' with
  | some path, _, _ =>
    match t.files.node path with
    | .ok node => .ok (.stamp (t.files.stampOf node))
    | .error e =>
      .error ("failed to get attributes of ".toList ++ Octets.shellQuoted path ++ ": ".toList ++
        reasonOf e)
  | none, some text, _ => moment text (Calendar.momentOf? clock text)
  | none, none, some text => moment text (Calendar.stampMoment? clock text)
  | none, none, none => .ok .now

/-- Gives files another time, and makes those that are not there. -/
def touch : Tool := fun t =>
  t.withArguments
      { plain := "acfhm", valued := "drtT", hidden := "T"
        words := [("time", 'T'), ("no-create", 'c'), ("date", 'd'), ("reference", 'r'),
          ("no-dereference", 'h')] } 1 fun a =>
    match (a.value? 'T').map (timeChoices.chosen "--time"), timeSource t a with
    | some (.error message), _ => t.refuses message 1
    | _, .error message => t.fails message 1
    | chosen, .ok source =>
      if a.has 't' && (a.has 'd' || a.has 'r') then
        t.refuses "cannot specify times from more than one source".toList 1
      else t.needsOperands a "file " <|
        let changes := a.has 'm' || !a.has 'a' ||
          (match chosen with
            | some (.ok 'm') => true
            | _ => false)
        Errand.each t a.operands fun e path =>
          let isThere := e.files.has path
          if path = ['-'] || (a.has 'c' && !isThere) then e
          else if !isThere && path.getLast? = some '/' then
            e.complains t ("setting times of ".toList ++ Octets.shellQuoted path ++ ": ".toList ++
              reasonOf notFound)
          else
            let made : Except SystemError Files :=
              if isThere then .ok e.files else e.files.write path [] { empties := false }
            match made with
            | .error reason =>
              e.complains t ("cannot touch ".toList ++ Octets.shellQuoted path ++ ": ".toList ++
                reasonOf reason)
            | .ok files =>
              let stamp := match source with
                | .now => (files.next : Int)
                | .stamp n => n
              let files := { files with next := files.next + 1 }
              { e with
                files := if changes then (files.setStamp stamp path).toOption.getD files else files }

/-! ## Sizes -/

inductive SizeChange where
  | exactly
  | more
  | less
  | atMost
  | atLeast
  | roundedDown
  | roundedUp
  deriving DecidableEq, Repr

/-- The number of bytes that a text with a unit means. -/
def bytes? (text : Octets) : Option Nat :=
  let digits := text.takeWhile Char.isDigit
  let unit := text.drop digits.length
  let power (c : Char) : Option Nat := ("KMGTPEZY".toList.findIdx? (· == c.toUpper)).map (· + 1)
  let factor : Option Nat := match unit with
    | [] => some 1
    | [c] => (power c).map fun n => Nat.pow 1024 n
    | [c, 'B'] => (power c).map fun n => Nat.pow 1000 n
    | [c, 'i', 'B'] => (power c).map fun n => Nat.pow 1024 n
    | _ => none
  let n? : Option Nat :=
    if digits.isEmpty then (if unit.isEmpty then none else some 1) else some (Octets.decimal digits)
  match n?, factor with
  | some n, some factor => if n * factor < 9223372036854775808 then some (n * factor) else none
  | _, _ => none

/-- The change that a text tells, if it tells one. -/
def sizeChange? (text : Octets) : Option (SizeChange × Nat) :=
  let text := text.dropWhile Octets.isSpace
  let (kind, rest) : Option SizeChange × Octets := match text with
    | '<' :: rest => (some .atMost, rest.dropWhile Octets.isSpace)
    | '>' :: rest => (some .atLeast, rest.dropWhile Octets.isSpace)
    | '/' :: rest => (some .roundedDown, rest.dropWhile Octets.isSpace)
    | '%' :: rest => (some .roundedUp, rest.dropWhile Octets.isSpace)
    | text => (none, text)
  match rest, kind with
  | '+' :: rest, none => (bytes? rest).map fun n => (.more, n)
  | '-' :: rest, none => (bytes? rest).map fun n => (.less, n)
  | rest, kind => (bytes? rest).map fun n => (kind.getD .exactly, n)

def SizeChange.apply (c : SizeChange) (n size : Nat) : Nat :=
  match c with
  | .exactly => n
  | .more => size + n
  | .less => size - n
  | .atMost => min size n
  | .atLeast => max size n
  | .roundedDown => size / n * n
  | .roundedUp => (size + n - 1) / n * n

def sizeLimit : Nat := 1048576

def truncate : Tool := fun t =>
  t.withArguments
      { plain := "co", valued := "rs"
        words := [("no-create", 'c'), ("io-blocks", 'o'), ("reference", 'r'), ("size", 's')] } 1
      fun a =>
    let change := (a.value? 's').map fun text => (text, sizeChange? text)
    let own := (a.value? 'r').map fun path => (path, (t.files.node path).map t.files.sizeOf)
    match change, own with
    | some (text, none), _ => t.fails ("Invalid number: ".toList ++ Octets.quoted text) 1
    | none, none => t.refuses "you must specify either '--size' or '--reference'".toList 1
    | some (_, some (.exactly, _)), some _ =>
      t.refuses "you must specify a relative '--size' with '--reference'".toList 1
    | change, own =>
      if a.has 'o' && change.isNone then
        t.refuses "'--io-blocks' was specified but '--size' was not".toList 1
      else t.needsOperands a "file " <|
        match change.bind (·.2), own with
        | some (.roundedDown, 0), _ | some (.roundedUp, 0), _ =>
          t.fails "division by zero".toList 1
        | change, some (path, .error e) =>
          let _ := change
          t.fails ("cannot stat ".toList ++ Octets.shellQuoted path ++ ": ".toList ++ reasonOf e) 1
        | change, own =>
          let base := own.bind fun entry => entry.2.toOption
          Errand.each t a.operands fun e path =>
            match e.files.openToWrite { empties := false, makes := !a.has 'c' } path with
            | .error reason =>
              if a.has 'c' && reason = notFound then e
              else
                e.complains t ("cannot open ".toList ++ Octets.shellQuoted path ++
                  " for writing: ".toList ++ reasonOf reason)
            | .ok (.file number, files) =>
              let text := files.textOf (.file number)
              let size := base.getD text.length
              let scale := if a.has 'o' then 4096 else 1
              let size := match change with
                | some (kind, n) => kind.apply (n * scale) size
                | none => size
              let size := min size sizeLimit
              { e with
                files := files.setText number
                  (text.take size ++ List.replicate (size - text.length) '\x00') }
            | .ok (_, files) =>
              { e with files }.complains t ("failed to truncate ".toList ++ Octets.shellQuoted path ++
                " at 0 bytes: Invalid argument".toList)

/-! ## Names that nobody has -/

/-- Letters for the place of the letters of a template, made from a number. -/
def lettersOf : Nat → Nat → Octets
  | 0, _ => []
  | size + 1, n =>
    let digits := "abcdefghijklmnopqrstuvwxyzABCDEFGHIJKLMNOPQRSTUVWXYZ0123456789".toList
    (digits[n % 62]?).getD 'a' :: lettersOf size (n / 62 * 7919 + n * 31 + 17)

/-- A path that a template describes and that leads to nothing yet. -/
def freshPath (f : Files) (before behind : Octets) (size : Nat) : Nat → Nat → Octets
  | 0, n => before ++ lettersOf size n ++ behind
  | rounds + 1, n =>
    let path := before ++ lettersOf size n ++ behind
    if f.has path then freshPath f before behind size rounds (n + 1) else path

/-- Makes a file or a directory that has a name that nobody could know. -/
def temporary : Tool := fun t =>
  t.withArguments
      { plain := "dqtuV", valued := "pS", optional := "T", hidden := "STV"
        words := [("directory", 'd'), ("dry-run", 'u'), ("quiet", 'q'), ("suffix", 'S'),
          ("tmpdir", 'T')] } 1 fun a =>
    let given := match a.operands with
      | [] => "tmp.XXXXXXXXXX".toList
      | template :: _ => template
    let isPlaced := a.operands.isEmpty || a.has 't' || a.has 'p' || a.has 'T'
    let fails (message : Octets) : Report := t.fails message 1
    if 1 < a.operands.length then t.refuses "too many templates".toList 1
    else if a.has 'S' && given.getLast? != some 'X' then
      fails ("with --suffix, template ".toList ++ Octets.quoted given ++ " must end in X".toList)
    else
      let whole := given ++ (a.value? 'S').getD []
      let ending := match a.value? 'S' with
        | some ending => ending
        | none => (given.reverse.takeWhile (· != 'X')).reverse
      let ending := if given.contains 'X' then ending else []
      let body := whole.take (whole.length - ending.length)
      let count := (body.reverse.takeWhile (· == 'X')).length
      let front := body.take (body.length - count)
      if ending.contains '/' then
        fails ("invalid suffix ".toList ++ Octets.quoted ending ++
          ", contains directory separator".toList)
      else if count < 3 then
        fails ("too few X's in template ".toList ++ Octets.quoted whole)
      else if a.has 't' && front.contains '/' then
        fails ("invalid template, ".toList ++ Octets.quoted given ++
          ", contains directory separator".toList)
      else if isPlaced && !a.has 't' && given.head? = some '/' then
        fails ("invalid template, ".toList ++ Octets.quoted given ++
          "; with --tmpdir, it may not be absolute".toList)
      else
        let named := match a.last? "pT" with
          | some letter => (a.value? letter).getD []
          | none => []
        let own := (t.environment.lookup "TMPDIR".toList).getD []
        let own := if a.has 't' && !own.isEmpty then own else if !named.isEmpty then named else own
        let directory := if own.isEmpty then "/tmp".toList else own
        let before := if isPlaced then directory ++ '/' :: front else front
        let f := t.files
        let path := freshPath f before ending count 1000 (f.next * 48271 + 1000003)
        let kind := if a.has 'd' then "directory" else "file"
        let made : Except SystemError Files :=
          if a.has 'u' then .ok f
          else if a.has 'd' then f.makeDirectory 448 path
          else f.write path [] { mustBeNew := true, mode := 384 }
        match made with
        | .ok files => { output := path ++ ['\n'], files := some files, left := some t.input }
        | .error e =>
          if a.has 'q' then { left := some t.input, status := 1 }
          else
            fails (("failed to create " ++ kind ++ " via template ").toList ++
              Octets.quoted (before ++ List.replicate count 'X' ++ ending) ++ ": ".toList ++
              reasonOf e)

end Making

/-!
## Permissions and owners of files

Tools that change what may be done with files, and by whom.
-/

namespace Ownership

open FileTree

/-! ## Files below a path -/

def depthLimit : Nat := 1000

/-- All paths from a node on: its own, then those below it. -/
def paths (path : Octets) : Nat → Node → List Octets
  | depth + 1, .directory _ entries =>
    path :: entries.flatMap fun entry =>
      paths (if path.getLast? = some '/' then path ++ entry.1.toList
        else path ++ '/' :: entry.1.toList) depth entry.2
  | _, _ => [path]

/-! ## Permissions -/

def modeTold (mode : Nat) : Octets :=
  Permission.octalText 4 mode ++ " (".toList ++ Permission.letters mode ++ [')']

def changeOne (t : Task) (a : Arguments) (top : Bool) (change : Nat → Bool → Nat) (e : Errand)
    (path : Octets) : Errand :=
  let quiet := a.has 'f'
  let verbose := a.last? "vc" = some 'v'
  let name := Octets.shellQuoted path
  match e.files.placeOfLink path with
  | .error reason =>
    let message := "cannot access ".toList ++ name ++ ": ".toList ++ reasonOf reason
    if quiet then { e with failed := true } else e.complains t message
  | .ok own =>
    if own.node.isLink && !top then
      if verbose then
        e.tells ("neither symbolic link ".toList ++ name ++
          " nor referent has been changed".toList)
      else e
    else
      match e.files.node path with
      | .error reason =>
        let message := if own.node.isLink then
            "cannot operate on dangling symlink ".toList ++ name
          else "cannot access ".toList ++ name ++ ": ".toList ++ reasonOf reason
        if quiet then { e with failed := true } else e.complains t message
      | .ok node =>
        let old := e.files.modeOf node
        let new := change old node.isDirectory
        match e.files.changeMode new path with
        | .error _ => e
        | .ok files =>
          let e := { e with files }
          if old = new then
            if verbose then
              e.tells ("mode of ".toList ++ name ++ " retained as ".toList ++ modeTold old)
            else e
          else if a.has 'v' || a.has 'c' then
            e.tells ("mode of ".toList ++ name ++ " changed from ".toList ++ modeTold old ++
              " to ".toList ++ modeTold new)
          else e

/-- Whether an argument is a change that begins with a dash. -/
def isChange (argument : Octets) : Bool :=
  match argument with
  | '-' :: c :: _ => "rwxXstugoa,+=01234567".contains c
  | _ => false

def changeModes : Tool := fun t =>
  t.withArguments
      { plain := "RcfvNP", valued := "F", hidden := "NPF"
        takesAsOperand := isChange
        words := [("changes", 'c'), ("recursive", 'R'), ("no-preserve-root", 'N'),
          ("preserve-root", 'P'), ("quiet", 'f'), ("reference", 'F'), ("silent", 'f'),
          ("verbose", 'v')] } 1 fun a =>
    let own := (a.value? 'F').map fun path => (path, t.files.node path)
    let work (names : List Octets) (change : Nat → Bool → Nat) : Report :=
      Errand.each t names fun e name =>
        let below := match e.files.placeOfLink name with
          | .ok place => if a.has 'R' then paths name depthLimit place.node else [name]
          | .error _ => [name]
        below.foldl (fun e path => changeOne t a (path == name) change e path) e
    match own, a.operands with
    | some (path, .error e), _ =>
      t.fails ("failed to get attributes of ".toList ++ Octets.shellQuoted path ++ ": ".toList ++
        reasonOf e) 1
    | some _, [] => t.refuses "missing operand".toList 1
    | some (_, .ok node), names => work names fun _ _ => t.files.modeOf node
    | none, [] => t.refuses "missing operand".toList 1
    | none, [text] =>
      t.refuses ("missing operand after ".toList ++ Octets.quoted text) 1
    | none, text :: names =>
      match Permission.changes? text with
      | none => t.refuses ("invalid mode: ".toList ++ Octets.quoted text) 1
      | some changes =>
        work names fun mode isDirectory => Permission.applied t.files.mask isDirectory mode changes

/-! ## Owners -/

/-- The owner that a text asks for, or what is wrong with it. -/
def owner? (text : Octets) : Except Octets (Option Nat × Option Nat) :=
  let user := text.takeWhile (· != ':')
  let rest := text.drop user.length
  let group := rest.drop 1
  let userNumber := Account.userNumber? user
  let groupNumber := Account.groupNumber? group
  if !user.isEmpty && userNumber.isNone then
    .error ("invalid user: ".toList ++ Octets.quoted text)
  else if !group.isEmpty && groupNumber.isNone then
    .error ("invalid group: ".toList ++ Octets.quoted text)
  else .ok (if user.isEmpty then none else userNumber, if group.isEmpty then none else groupNumber)

/-- What is told about an owner that a file is given. Every file belongs to the first user
as it comes. -/
def ownerTold (asked : Octets) (owner : Option Nat × Option Nat) (name : Octets) :
    Octets × Bool :=
  let known : Octets := match owner with
    | (some _, none) => Account.userName 0
    | (none, some _) => Account.groupName 0
    | _ => Account.userName 0 ++ ':' :: Account.groupName 0
  let changes := owner.1.any (· != 0) || owner.2.any (· != 0)
  let what := if owner.1.isNone && owner.2.isSome then "group" else "ownership"
  let asked := if owner.1.isNone then asked.dropWhile (· == ':') else asked
  if changes then
    (("changed " ++ what ++ " of ").toList ++ name ++ " from ".toList ++ known ++ " to ".toList ++
      asked, true)
  else ((what ++ " of ").toList ++ name ++ " retained as ".toList ++ asked, false)

/-- Gives files to somebody, where `read` finds out to whom. -/
def giveTo (read : Octets → Except Octets (Option Nat × Option Nat)) : Tool := fun t =>
  t.withArguments
      { plain := "cfhHLPRvNK", valued := "FM", hidden := "NKFM"
        words := [("changes", 'c'), ("dereference", 'K'), ("from", 'M'), ("no-dereference", 'h'),
          ("no-preserve-root", 'N'), ("preserve-root", 'K'), ("quiet", 'f'),
          ("recursive", 'R'), ("reference", 'F'), ("silent", 'f'), ("verbose", 'v')] } 1 fun a =>
    let work (names asked : List Octets) (owner : Option Nat × Option Nat) : Report :=
      Errand.each t names fun e name =>
        let e? : Except SystemError Place :=
          if a.has 'h' then e.files.placeOfLink name else e.files.place name
        match e? with
        | .error reason =>
          if a.has 'f' then { e with failed := true }
          else
            e.complains t ("cannot access ".toList ++ Octets.shellQuoted name ++ ": ".toList ++
              reasonOf reason)
        | .ok place =>
          let below := if a.has 'R' then paths name depthLimit place.node else [name]
          below.foldl (fun e path =>
            let (line, changes) := ownerTold (asked.headD []) owner (Octets.shellQuoted path)
            if a.has 'v' || (a.has 'c' && changes) then e.tells line else e) e
    match a.value? 'F', a.operands with
    | some path, names =>
      match t.files.node path with
      | .error e =>
        t.fails ("failed to get attributes of ".toList ++ Octets.shellQuoted path ++ ": ".toList ++
          reasonOf e) 1
      | .ok _ =>
        if names.isEmpty then t.refuses "missing operand".toList 1
        else work names ["root:root".toList] (some 0, some 0)
    | none, [] => t.refuses "missing operand".toList 1
    | none, [text] => t.refuses ("missing operand after ".toList ++ Octets.quoted text) 1
    | none, text :: names =>
      match read text with
      | .error message => t.fails message 1
      | .ok owner => work names [text] owner

def changeOwners : Tool := giveTo owner?

def changeGroups : Tool := giveTo fun text =>
  match Account.groupNumber? text with
  | some n => .ok (none, some n)
  | none =>
    if text.isEmpty then .ok (none, none)
    else .error ("invalid group: ".toList ++ Octets.quoted text)

end Ownership

/-!
## Removing files

Tools that remove files and directories.
-/

namespace Removing

open FileTree

/-! ## Empty directories -/

/-- Removes the directories that a path goes through, the last one first. -/
def removeAbove (t : Task) (verbose : Bool) : Nat → Octets → Errand → Errand
  | 0, _, e => e
  | rounds + 1, path, e =>
    let trimmed := Files.trimmed path
    if !trimmed.contains '/' then e
    else
      let above := Files.trimmed ((trimmed.reverse.dropWhile (· != '/')).reverse)
      if above.isEmpty || above = ['/'] then e
      else
        let e := if verbose then
          e.tells (t.name ++ ": removing directory, ".toList ++ Octets.shellQuoted above) else e
        match e.files.removeDirectory above with
        | .ok files => removeAbove t verbose rounds above { e with files }
        | .error reason =>
          e.complains t ("failed to remove directory ".toList ++ Octets.shellQuoted above ++
            ": ".toList ++ reasonOf reason)

def directories : Tool := fun t =>
  t.withArguments
      { plain := "pvI", hidden := "I"
        words := [("ignore-fail-on-non-empty", 'I'), ("parents", 'p'), ("path", 'p'),
          ("verbose", 'v')] } 1 fun a =>
    t.needsOperands a "" <|
    Errand.each t a.operands fun e path =>
      let e := if a.has 'v' then
        e.tells (t.name ++ ": removing directory, ".toList ++ Octets.shellQuoted path) else e
      match e.files.removeDirectory path with
      | .ok files =>
        let e := { e with files }
        if a.has 'p' then removeAbove t (a.has 'v') path.length path e else e
      | .error reason =>
        if a.has 'I' && reason = notEmpty then e
        else
          e.complains t ("failed to remove ".toList ++ Octets.shellQuoted path ++ ": ".toList ++
            reasonOf reason)

/-! ## Files -/

def told (path : Octets) : Nat → Node → Octets
  | depth + 1, .directory _ entries =>
    (entries.flatMap fun entry => told (path ++ '/' :: entry.1.toList) depth entry.2) ++
      "removed directory ".toList ++ Octets.shellQuoted path ++ ['\n']
  | _, _ => "removed ".toList ++ Octets.shellQuoted path ++ ['\n']

structure Manner where
  silent : Bool := false
  all : Bool := false
  empties : Bool := false
  verbose : Bool := false
  asks : Bool := false
  deriving DecidableEq, Repr

def isYes (answer : Octets) : Bool :=
  answer.head? = some 'y' || answer.head? = some 'Y'

def question (t : Task) (f : Files) (node : Node) (path : Octets) : Octets :=
  let kind := match node with
    | .directory _ _ => "directory"
    | .link _ => "symbolic link"
    | .device _ => if node.isPipe then "fifo" else "character special file"
    | node => if (f.textOf node).isEmpty then "regular empty file" else "regular file"
  t.name ++ (": remove " ++ kind ++ " ").toList ++ Octets.shellQuoted path ++ "? ".toList

def depthLimit : Nat := 1000

/-- Removes something. Answers to questions come from a text, of which the rest is left. -/
def remove (t : Task) (m : Manner) (state : Errand × Octets) (path : Octets) : Errand × Octets :=
  let (e, answers) := state
  let refuses (reason : SystemError) : Errand :=
    e.complains t ("cannot remove ".toList ++ Octets.shellQuoted path ++ ": ".toList ++
      reasonOf reason)
  let last := Path.lastStep path
  match e.files.placeOfLink (if m.all then Files.trimmed path else path) with
  | .error reason =>
    (if m.silent && (reason = notFound || reason = notADirectory) then e else refuses reason, answers)
  | .ok place =>
    let node := place.node
    if node.isDirectory && m.all && (last = ['.'] || last = ['.', '.']) then
      (e.complains t ("refusing to remove '.' or '..' directory: skipping ".toList ++
        Octets.shellQuoted path), answers)
    else if place.steps.isEmpty && m.all then
      (e.complains t ("it is dangerous to operate recursively on ".toList ++
        Octets.shellQuoted path) |>.complains t
          "use --no-preserve-root to override this failsafe".toList, answers)
    else if node.isDirectory && !m.all && !m.empties then (refuses isADirectory, answers)
    else
      let asked := if m.asks then question t e.files node path else []
      let answer := if m.asks then answers.takeWhile (· != '\n') else ['y']
      let left := if m.asks then answers.drop (answer.length + 1) else answers
      let e := { e with errors := e.errors ++ asked }
      if !isYes answer then (e, left)
      else
        let change := if !node.isDirectory then e.files.remove path
          else if m.all then e.files.removeAll path else e.files.removeDirectory path
        (e.try_ t ("cannot remove ".toList ++ Octets.shellQuoted path) change fun e =>
          if m.verbose then { e with output := e.output ++ told path depthLimit node } else e, left)

/-- Removes files, and directories with all that is in them if it is told to. -/
def files : Tool := fun t =>
  t.withArguments
      { plain := "dfiIrRvPNO", optional := "A", hidden := "PNOA"
        words := [("force", 'f'), ("interactive", 'A'), ("one-file-system", 'O'),
          ("no-preserve-root", 'N'), ("preserve-root", 'P'), ("recursive", 'r'), ("dir", 'd'),
          ("verbose", 'v')] } 1 fun a =>
    let m : Manner :=
      { silent := a.last? "fi" = some 'f', all := a.has 'r' || a.has 'R', empties := a.has 'd'
        verbose := a.has 'v', asks := a.last? "fi" = some 'i' }
    if a.operands.isEmpty then
      if m.silent then t.prints [] else t.refuses "missing operand".toList 1
    else
      let (e, left) := a.operands.foldl (remove t m) ({ files := t.files }, t.input)
      { e.report t with
        left := if m.asks then (if left.isEmpty then none else some left) else some t.input }

def single : Tool := fun t =>
  t.withArguments {} 1 fun a =>
    match a.operands with
    | [] => t.refuses "missing operand".toList 1
    | [path] =>
      Errand.each t [path] fun e path =>
        e.try_ t ("cannot unlink ".toList ++ Octets.shellQuoted path) (e.files.remove path)
    | _ :: extra :: _ => t.refuses ("extra operand ".toList ++ Octets.quoted extra) 1

end Removing

end CommandChains.Machine
