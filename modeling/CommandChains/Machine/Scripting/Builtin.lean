import CommandChains.Machine.Calendar.Basic
import CommandChains.Machine.Scripting.Filling
import CommandChains.Machine.Scripting.Links
import CommandChains.Machine.Scripting.Packing
import CommandChains.Machine.Shell.Pattern
import CommandChains.Machine.Tool.Condition
import CommandChains.Machine.Tool.Facts

/-!
# Functions that are always there

What the functions make of the values that they are given: numbers, texts, times and files.
-/

namespace CommandChains.Machine.Scripting

/-! ## Texts -/

/-- The first place of a text from some place on where another one stands. -/
def placeFrom (wanted : Octets) (text : Octets) (start : Nat) : Option Nat :=
  let rec go : Nat → Octets → Option Nat
    | n, [] => if wanted.isEmpty then some n else none
    | n, c :: rest => if wanted.isPrefixOf (c :: rest) then some n else go (n + 1) rest
  go start (text.drop start)

/-- The last place of a text up to some place where another one stands. -/
def lastPlaceTo (wanted : Octets) (text : Octets) (stop : Nat) : Option Nat :=
  (List.range (min stop text.length + 1)).reverse.find? fun n =>
    wanted.isPrefixOf (text.drop n)

/-- The beginning and the length of a part of a text, where negative numbers count from the end;
nothing if it is not within the text. -/
def partOf (size : Nat) (start : Int) (length : Option Int) : Option (Nat × Nat) :=
  let first : Int := if start < 0 then start + size else start
  let last : Int := match length with
    | none => size
    | some n => if n < 0 then size + n else first + n
  if (size : Int) < first ∨ (first < 0 ∧ last < 0) then none
  else
    let first := (max 0 first).toNat
    let last := (min last size).toNat
    some (first, last - first)

def upperCase (text : Octets) : Octets := text.map Char.toUpper

/-! ## Numbers -/

/-- The number of digits to a base at the beginning of a text, with lines between them. -/
def leadingDigits (base : Nat) (text : Octets) : Number :=
  let digits := (text.filter (· != '_')).takeWhile fun c => (Octets.digit? c).any (· < base)
  .ofNat (Octets.valueOf base (Octets.digitsOf base digits.length digits))

/-- The number of a text in the way that is told at its beginning. -/
def octalNumber (text : Octets) : Number :=
  match text.dropWhile Octets.isSpace with
  | '0' :: c :: rest =>
    if c = 'x' ∨ c = 'X' then leadingDigits 16 rest
    else if c = 'b' ∨ c = 'B' then leadingDigits 2 rest
    else if c = 'o' ∨ c = 'O' then leadingDigits 8 rest
    else leadingDigits 8 (c :: rest)
  | c :: rest =>
    if c = 'x' ∨ c = 'X' then leadingDigits 16 rest
    else if c = 'b' ∨ c = 'B' then leadingDigits 2 rest
    else if c = 'o' ∨ c = 'O' then leadingDigits 8 rest
    else leadingDigits 8 (c :: rest)
  | [] => .whole 0

/-- The number of a text in digits to the base sixteen. -/
def hexadecimalNumber (text : Octets) : Number :=
  match text with
  | '0' :: c :: rest => if c = 'x' ∨ c = 'X' then leadingDigits 16 rest else leadingDigits 16 text
  | c :: rest => if c = 'x' ∨ c = 'X' then leadingDigits 16 rest else leadingDigits 16 text
  | [] => .whole 0

/-- What comes after a number that random numbers are made from. -/
def nextSeed (seed : Nat) : Nat := (25214903917 * seed + 11) % 281474976710656

namespace Act

def random : Act Float := do
  if !(← get).isSeeded then
    modify fun s => { s with seed := 42 * 65536 + 13070, isSeeded := true }
  let seed := nextSeed (← get).seed
  modify fun s => { s with seed }
  pure (seed.toFloat / 281474976710656.0)

def seedWith (n : Nat) : Act Unit :=
  modify fun s => { s with seed := n % 4294967296 * 65536 + 13070, isSeeded := true }

/-! ## Places to fill -/

/-- A pattern with its places filled. What is odd about it is told. -/
def formatted (title : String) (values : List Value) : Act Octets := do
  match values with
  | [] => pure []
  | pattern :: given => do
    let pattern ← textOf pattern
    let fillers ← given.mapM fun v => do
      pure
        { text := ← textOf v, amount := v.amount, isUnset := !v.isDefined
          isNoNumber := match v with
            | .text s => !Number.isText s
            | _ => false : Filler }
    let (text, oddities) := filled pattern fillers
    if ← isWatchful then
      oddities.forM fun o =>
        match o with
        | .missing => tell ("Missing argument in ".toList ++ title.toList)
        | .surplus => tell ("Redundant argument in ".toList ++ title.toList)
        | .unknown s =>
          tell ("Invalid conversion in ".toList ++ title.toList ++ ": \"".toList ++ s ++ ['"'])
        | .unfinished =>
          tell ("Invalid conversion in ".toList ++ title.toList ++ ": end of string".toList)
        | .unset _ => tell ("Use of uninitialized value in ".toList ++ title.toList)
        | .notNumeric s =>
          tell ("Argument \"".toList ++ s ++ "\" isn't numeric in ".toList ++ title.toList)
    pure text

/-! ## Times -/

def seconds : Act Int := do
  pure (Calendar.present.seconds + (((← get).sequel.time / 1000000000 : Nat) : Int))

def readingAt (isLocal : Bool) (time : Int) : Act Calendar.Reading := do
  let clock : Calendar.Clock ←
    if isLocal then
      match (← get).shared["%main::ENV"]? with
      | none => pure {}
      | some table =>
        match ← entry? table "TZ".toList with
        | some place => do pure (Calendar.Clock.ofText (← scalarAt place).plainText)
        | none => pure {}
    else pure {}
  pure (({ seconds := time } : Calendar.Moment).reading (clock.zoneAt time))

/-- A time as it is told, as a text or in numbers. -/
def timeParts (isLocal : Bool) (time : Int) (want : Want) : Act (List Value) := do
  let r ← readingAt isLocal time
  if want = .all then
    let summer : Int := if isLocal && (r.zone.name.reverse.drop 1).head? = some 'D' then 1 else 0
    pure ([(r.second : Int), r.minute, r.hour, r.date.day, (r.date.month : Int) - 1,
      r.date.year - 1900, Calendar.weekday r.number, (r.date.dayOfYear : Int), summer].map
      Value.ofInt)
  else
    pure [.text (Calendar.display r 80 "%a %b %e %H:%M:%S %Y".toList)]

/-! ## Files -/

def files : Act Files := do pure (← get).sequel.files

/-- Changes the files, and tells whether that went well. -/
def change (result : Except SystemError Files) : Act Bool := do
  match result with
  | .ok files =>
    alterSequel fun q => q.withFiles files
    pure true
  | .error e =>
    setError e
    pure false

/-- Changes the files for each of some paths, and tells how often that went well. -/
def changeEach (paths : List Value) (how : Files → Octets → Except SystemError Files) :
    Act Value := do
  let done ← paths.mapM fun v => do change (how (← files) (← textOf v))
  pure (.ofNat (done.filter id).length)

/-- Removes a file, which may be a link to a directory. -/
def removed (f : Files) (path : Octets) : Except SystemError Files := f.remove path

def factsOf (path : Octets) (through : Bool) : Act (List Value) := do
  let f ← files
  match if through then f.place path else f.placeOfLink path with
  | .error e => do
    setError e
    pure []
  | .ok place =>
    let node := place.node
    let bits := Facts.kindBits node + f.modeOf node
    let size := f.sizeOf node
    let stamp := f.stampOf node
    pure ([(2049 : Int), 4096, bits, 1, 0, 0, 0, size, stamp, stamp, stamp, 4096,
      ((size + 511) / 512 : Nat)].map Value.ofInt)

def fileTest (letter : Char) (path : Octets) : Act Value := do
  let f ← files
  let holds (c : Char) : Bool := Tool.Condition.holdsForFile f c path
  let there : Bool := holds 'e' || (letter == 'l' && holds 'L')
  if !there then do
    setError (match f.place path with
      | .error e => e
      | .ok _ => FileTree.notFound)
    pure .unset
  else
    match letter with
    | 's' =>
      match f.node path with
      | .ok node =>
        let size := f.sizeOf node
        pure (if size = 0 then .ofBool false else .ofNat size)
      | .error _ => pure .unset
    | 'z' =>
      pure (.ofBool (match f.node path with
        | .ok node => f.sizeOf node == 0
        | .error _ => false))
    | 'l' => pure (.ofBool (holds 'L'))
    | 'M' | 'A' | 'C' =>
      match f.node path with
      | .ok node => do
        let age := Calendar.present.seconds - f.stampOf node
        pure (.number (.real (Float.ofInt age / 86400.0)))
      | .error _ => pure .unset
    | 'T' | 'B' =>
      match f.contents path with
      | .ok text =>
        let odd : Bool := text.contains '\x00'
        pure (.ofBool (if letter == 'T' then !odd else odd || text.isEmpty))
      | .error _ => pure (.ofBool false)
    | 'R' | 'W' | 'X' | 'O' => pure (.ofBool (holds letter.toLower))
    | 'o' => pure (.ofBool (holds 'O'))
    | 't' => pure (.ofBool false)
    | c => pure (.ofBool (holds c))

def openDirectory (name : String) (path : Octets) : Act Bool := do
  match (← files).node path with
  | .error e => do
    setError e
    pure false
  | .ok node =>
    if !node.isDirectory then do
      setError FileTree.notADirectory
      pure false
    else do
      let names := ['.'] :: ['.', '.'] :: Files.names node
      modify fun s =>
        { s with channels := s.channels.insert name { isDirectory := true, names, path } }
      pure true

def readDirectory (name : String) (want : Want) : Act (List Value) := do
  match (← get).channels[name]? with
  | none => pure (if want = .all then [] else [.unset])
  | some c =>
    if want = .all then do
      alterChannel name fun c => { c with names := [], namesTold := c.namesTold ++ c.names }
      pure (c.names.map Value.text)
    else
      match c.names with
      | [] => pure [.unset]
      | first :: rest => do
        alterChannel name fun c => { c with names := rest, namesTold := c.namesTold ++ [first] }
        pure [.text first]

def pathsFor (pattern : Octets) : Act (List Value) := do
  let f ← files
  let style : Shell.PatternPart.Style := { dialect := .small, grouped := false }
  let braces (word : Octets) : List Octets := alternatives 20 word
  pure ((Octets.words pattern).flatMap braces |>.flatMap fun word =>
    let marked : List Shell.Marked := word.map fun c => (c, true)
    if Shell.isPathPattern style marked then
      (Shell.pathsThatFit style false f marked).map Value.text
    else [.text word])
where
  /-- The words that a word with alternatives in braces stands for. -/
  alternatives : Nat → Octets → List Octets
    | 0, word => [word]
    | rounds + 1, word =>
      let front := word.takeWhile (· != '\x7b')
      match word.drop front.length with
      | [] => [word]
      | _ :: rest =>
        let inside := rest.takeWhile (· != '\x7d')
        match rest.drop inside.length with
        | [] => [word]
        | _ :: behind =>
          (Octets.splitAt ',' inside).flatMap fun choice =>
            alternatives rounds (front ++ choice ++ behind)

/-! ## Values -/

/-- The functions of single values that make something else of numbers. -/
def numericFunctions : List String :=
  ["abs", "int", "sqrt", "sin", "cos", "exp", "log", "chr", "atan2", "sleep", "localtime",
    "gmtime", "srand"]

def realFunction (name : String) (n : Number) : Act Value := do
  let x := n.float
  match name with
  | "sqrt" =>
    if x < 0 then die ("Can't take sqrt of ".toList ++ n.text)
    else pure (.number (Number.real x.sqrt).settled)
  | "log" =>
    if x ≤ 0 then die ("Can't take log of ".toList ++ n.text) else pure (.number (.real x.log))
  | "sin" => pure (.number (.real x.sin))
  | "cos" => pure (.number (.real x.cos))
  | _ => pure (.number (.real x.exp))

def apply (name : String) (given : List Value) : Act Value := do
  let value (n : Nat) : Value := given.getD n .unset
  let text (n : Nat) : Act Octets := textOf (value n)
  let number (n : Nat) : Number := (value n).amount
  match name with
  | "lc" | "fc" => do pure (.text (Octets.lower (← text 0)))
  | "uc" => do pure (.text (upperCase (← text 0)))
  | "lcfirst" => do pure (.text (withFirst Char.toLower (← text 0)))
  | "ucfirst" => do pure (.text (withFirst Char.toUpper (← text 0)))
  | "quotemeta" => do pure (.text (plainPattern (← text 0)))
  | "length" =>
    match value 0 with
    | .unset => pure .unset
    | v => do pure (.ofNat (← textOf v).length)
  | "ord" => do pure (.ofNat (((← text 0).head?.map Char.toNat).getD 0))
  | "chr" =>
    let n := (number 0).truncated
    pure (.text [if n < 0 then '\ufffd' else Char.ofNat n.toNat])
  | "hex" => do pure (.number (hexadecimalNumber (← text 0)))
  | "oct" => do pure (.number (octalNumber (← text 0)))
  | "abs" =>
    pure (.number (match number 0 with
      | .whole n => .ofInt n.natAbs
      | .real x => .real x.abs))
  | "int" => pure (.number (number 0).cut)
  | "sqrt" | "log" | "sin" | "cos" | "exp" => realFunction name (number 0)
  | "atan2" => pure (.number (.real (Float.atan2 (number 0).float (number 1).float)))
  | "index" => do
    let s ← text 0
    let start := if given.length < 3 then 0 else (max 0 (number 2).truncated).toNat
    pure (.ofInt (match placeFrom (← text 1) s (min start s.length) with
      | some n => n
      | none => -1))
  | "rindex" => do
    let s ← text 0
    let stop : Int := if given.length < 3 then s.length else (number 2).truncated
    let wanted ← text 1
    pure (.ofInt (match lastPlaceTo wanted s stop.toNat with
      | some n => if stop < 0 && !wanted.isEmpty then -1 else n
      | none => -1))
  | "ref" => do
    match ← classOf? (value 0) with
    | some c => pure (.ofString c)
    | none => do pure (.ofString (← kindOf (value 0)))
  | "rand" => do
    let most := if given.isEmpty || (number 0).isZero then 1.0 else (number 0).float
    pure (.number (.real ((← random) * most)))
  | "srand" => do
    let n := if given.isEmpty then 42 else (number 0).truncated.toNat
    seedWith n
    pure (if n = 0 then .ofString "0 but true" else .ofNat n)
  | "sleep" => do
    let n := (number 0).truncated
    let before ← seconds
    let _ ← pass (n.toNat * 1000000000)
    pure (.ofInt ((← seconds) - before))
  | "time" => do pure (.ofInt (← seconds))
  | "alarm" => do
    let n := (number 0).float
    let now := (← get).sequel.time
    let before := ((← get).alarm.map fun t => (t - now + 999999999) / 1000000000).getD 0
    modify fun s =>
      { s with alarm := if n ≤ 0 then none else some (now + (n * 1000000000.0).toUInt64.toNat) }
    pure (.ofNat before)
  | "umask" => do
    let mask := (← files).mask
    if !given.isEmpty then
      alterSequel fun q => q.withFiles { q.files with mask := (number 0).truncated.toNat % 512 }
    pure (.ofNat mask)
  | "chdir" => do
    let path ← if given.isEmpty then pure "/root".toList else text 0
    pure (.ofBool (← change ((← files).goTo path)))
  | "mkdir" => do
    let mode := if given.length < 2 then 511 else (number 1).truncated.toNat
    pure (.ofBool (← change ((← files).makeDirectory mode (← text 0))))
  | "rmdir" => do pure (.ofBool (← change ((← files).removeDirectory (← text 0))))
  | "rename" => do pure (.ofBool (← change ((← files).rename (← text 0) (← text 1))))
  | "link" => do pure (.ofBool (← change ((← files).link (← text 0) (← text 1))))
  | "symlink" => do
    let target := String.ofList (← text 0)
    pure (.ofBool (← change ((← files).putNode (.link target) (← text 1))))
  | "readlink" => do
    match (← files).placeOfLink (← text 0) with
    | .error e => do
      setError e
      pure .unset
    | .ok place =>
      match place.node with
      | .link target => pure (.ofString target)
      | _ => do
        setError FileTree.invalid
        pure .unset
  | "getppid" => pure (.ofNat 1)
  | "getlogin" => pure .unset
  | "fork" => pure .unset
  | "wait" | "waitpid" => pure (.ofInt (-1))
  | "study" | "lock" | "flock" | "local_time" => pure (.ofInt 1)
  | "crypt" => do text 0 |>.map Value.text
  | _ => pure .unset

/-- The functions of all values that they are given, without places. -/
def applyAll (name : String) (values : List Value) : Act Value := do
  match name with
  | "join" =>
    match values with
    | [] => pure (.text [])
    | between :: rest => do
      let between ← textOf between
      pure (.text (Octets.joined between (← rest.mapM textOf)))
  | "sprintf" => do pure (.text (← formatted "sprintf" values))
  | "unlink" => changeEach values removed
  | "chmod" =>
    match values with
    | [] => pure (.ofNat 0)
    | mode :: paths =>
      changeEach paths fun f path => f.changeMode (mode.amount.truncated.toNat % 4096) path
  | "chown" => changeEach (values.drop 2) fun f path => (f.place path).map fun _ => f
  | "utime" =>
    let stamp ← match values[1]? with
      | some .unset | none => seconds
      | some v => pure v.amount.truncated
    changeEach (values.drop 2) fun f path => f.setStamp stamp path
  | "pack" =>
    match values with
    | [] => pure (.text [])
    | template :: rest => do pure (.text (Piece.pack (← textOf template) rest))
  | "vec" => do
    let text ← textOf (values.headD .unset)
    let place := (values.getD 1 .unset).amount.truncated.toNat
    let bits := (values.getD 2 .unset).amount.truncated.toNat
    if bits < 8 then
      let byte := ((text.drop (place * bits / 8)).head?.map Char.toNat).getD 0
      pure (.ofNat ((byte >>> (place * bits % 8)) % Nat.pow 2 bits))
    else
      let size := bits / 8
      pure (.ofNat (Piece.ofBytes ((text.drop (place * size)).take size).reverse))
  | _ => pure .unset

end Act

end CommandChains.Machine.Scripting
