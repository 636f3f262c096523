import CommandChains.Machine.Scripting.Library
import CommandChains.Machine.Scripting.Reader

/-!
# Running scripts

What the expressions and statements of a script mean: what they compute, what they change, and what
they print. Every step into a part of a script and every round of a loop takes one of a number of
steps, so that running ends.
-/

namespace CommandChains.Machine.Scripting.Act

/-! ## Texts that are read while a script runs -/

def install (script : Script) : Act Unit := do
  script.imports.forM fun (name, full) => do
    if (← function? name).isNone then
      nameFor .code name (← newRoutine (.library full))
  script.functions.forM fun (name, package, body) => do
    let place ← sharedPlace .code name
    modify fun s =>
      { s with routines := s.routines.setIfInBounds place (.script name package body []) }
  modify fun s =>
    { s with
      count := max s.count script.count
      finals := script.finals ++ s.finals }
  if !script.warnings.isEmpty then alterSequel fun q => q.prints .errors script.warnings

def readText (text file : Octets) (scope : Scope) : Act (Except Octets Script) := do
  let s ← get
  let p : Progress :=
    { rest := text, file, lastLine := lineCount text + 1, scope, known := s.known
      watchful := s.watchful, script := { count := s.count } }
  match Reading.whole.run p with
  | (.error mistake, _) => pure (.error mistake.message)
  | (.ok body, p) =>
    modify fun s => { s with known := p.known }
    if p.errors.isEmpty then pure (.ok { p.script with body })
    else pure (.error p.errors.reverse.flatten)

def fileText? (name : Octets) : Act (Option Octets) := do
  let f ← files
  let isPlain : Bool := name.head? != some '/' && !("./".toList).isPrefixOf name &&
    !("../".toList).isPrefixOf name
  let library ← valuesOf (← sharedPlace .array "main::INC")
  let paths := if isPlain then library.map fun v => v.plainText ++ '/' :: name else [name]
  pure (paths.findSome? fun path => (f.contents path).toOption)

/-- Whether a file holds a module that is always there. -/
def isModuleFile (file : Octets) : Bool := modules.any fun (name, _, _) => moduleFile name == file

/-! ## What expressions stand for -/

/-- Whether an expression stands for a single value that can be set. -/
def isPlaceable : Expr → Bool
  | .named .scalar (.special _) => false
  | .named .scalar _ | .item _ _ | .entry _ _ | .follow .scalar _ _ | .localized _ => true
  | .declare _ [some (.scalar, _)] false => true
  | .assign _ _ => true
  | .several [e] => isPlaceable e
  | _ => false

def declared (how : Declarator) (sigil : Sigil) (v : Variable) : Act Nat := do
  match how, v with
  | .own, .own number _ => beginOwn sigil number
  | _, v => placeOf sigil v

/-- Whether a name that is declared once has its value already. -/
def isSettled (how : Declarator) (names : List (Option (Sigil × Variable))) : Act Bool := do
  match how, names with
  | .lasting, some (_, .own number _) :: _ =>
    if (← get).begun.contains number then pure true
    else do
      modify fun s => { s with begun := s.begun.insert number () }
      pure false
  | _, _ => pure false

/-- How two values of the names for ordering are compared, if an expression only does that: as
numbers or as texts, and whether the second comes first. -/
def plainOrder? (e : Expr) : Option (Bool × Bool) :=
  let name (n : String) : Option Char :=
    match n.toList.reverse with
    | c :: ':' :: ':' :: _ => if c = 'a' ∨ c = 'b' then some c else none
    | _ => none
  match e with
  | .compute op (.named .scalar (.shared x)) (.named .scalar (.shared y)) =>
    if op = .order ∨ op = .textOrder then
      match name x, name y with
      | some 'a', some 'b' => some (op = .order, false)
      | some 'b', some 'a' => some (op = .order, true)
      | _, _ => none
    else none
  | _ => none

def inOrder (numbers backwards : Bool) (values : List Value) : Act (List Value) := do
  if numbers then
    let e : Expr := .constant .unset
    let keyed ← values.mapM fun v => do pure (← numberOf e "sort" v, v)
    let le (a b : Number × Value) : Bool :=
      let order := if backwards then b.1.compare? a.1 else a.1.compare? b.1
      order != some .gt
    pure ((keyed.mergeSort le).map (·.2))
  else
    let keyed ← values.mapM fun v => do pure (← textFor (.constant .unset) "sort" v, v)
    let le (a b : Octets × Value) : Bool :=
      if backwards then Octets.atMost b.1 a.1 else Octets.atMost a.1 b.1
    pure ((keyed.mergeSort le).map (·.2))

def singleValued : List String :=
  ["lc", "uc", "lcfirst", "ucfirst", "fc", "length", "chr", "ord", "hex", "oct", "abs", "int",
    "sqrt", "sin", "cos", "exp", "log", "quotemeta", "readlink", "rmdir", "alarm", "ref", "atan2",
    "index", "rindex", "srand", "rand", "chdir", "umask", "rename", "link", "symlink", "mkdir",
    "crypt", "time", "getppid", "getlogin", "fork", "wait", "waitpid", "study", "lock", "flock",
    "local_time"]

/-- The functions of those that do not mind if a value is not there. -/
def isIndulgent (name : String) : Bool :=
  ["length", "ref", "rand", "srand", "umask", "study"].contains name

/-- What remains to be told about the values that a function is given. -/
def doubtGiven (name : String) (given : List Expr) (values : List Value) : Act Unit := do
  if ← isWatchful then
    (given.zip values).forM fun (e, v) => do
      match v with
      | .unset => if !isIndulgent name then doubtUnset e name
      | .text s =>
        if numericFunctions.contains name && !Number.isText s then
          tell ("Argument \"".toList ++ s ++ "\" isn't numeric in ".toList ++ name.toList)
      | _ => pure ()

def leaveWith {α : Type} (status : Int) : Act α := do
  modify fun s => { s with status := (status % 256).toNat }
  throw .exit

def become (words : List Octets) : Act Value := do
  match ← runWords words none false with
  | .ok p => do
    modify fun s => { s with status := p.status, signal := p.signal, finals := [] }
    throw .exit
  | .error e => do
    if ← isWatchful then
      tell ("Can't exec \"".toList ++ words.headD [] ++ "\": ".toList ++ reasonOf e)
    pure (.ofBool false)

def runCommand (words : List Octets) : Act Value := do
  match ← runWords words none false with
  | .ok p => do
    let status : Value := .ofNat (statusOf p)
    setCommon "?" status
    pure status
  | .error e => do
    if ← isWatchful then
      tell ("Can't exec \"".toList ++ words.headD [] ++ "\": ".toList ++ reasonOf e)
    setCommon "?" (.ofInt (-1))
    pure (.ofInt (-1))

def outputOf (command : Octets) : Act Octets := do
  match ← runWords (wordsOf command) none true with
  | .ok p => do
    setCommon "?" (.ofNat (statusOf p))
    pure (Mark.textOn .output p.marks)
  | .error e => do
    if ← isWatchful then
      tell ("Can't exec \"".toList ++ (wordsOf command).headD [] ++ "\": ".toList ++ reasonOf e)
    setCommon "?" (.ofInt (-1))
    pure []

/-- A message of values, with the place behind it unless it ends a line. -/
def messageOf (values : List Value) (otherwise : String) : Act Octets := do
  let text := (← values.mapM textOf).flatten
  withPlace (if text.isEmpty then otherwise.toList else text)

/-- Where a file is that an opened name stands for: the mode, the target, and the layers. -/
def splitMode (mode : Octets) : String × Bool :=
  let sign := trimmed (mode.takeWhile (· != ':'))
  let layers := Octets.lower (mode.drop (mode.takeWhile (· != ':')).length)
  (String.ofList sign, Octets.occursIn "utf".toList layers)

def nextPair (table : Nat) (want : Want) : Act (List Value) := do
  let t ← tableAt table
  match t.keys[t.told]? with
  | none => do
    setTable table { t with told := 0 }
    pure (asWanted want [])
  | some key => do
    setTable table { t with told := t.told + 1 }
    if want = .all then
      let v ← match t.get? key with
        | some place => scalarAt place
        | none => pure .unset
      pure [.text key, v]
    else pure [.text key]

/-- Takes a key out of a hash, and tells its value. -/
def deleteEntry (table : Nat) (key : Octets) : Act Value := do
  match ← entry? table key with
  | none => pure .unset
  | some place =>
    modify fun s => { s with tables := s.tables.modify table fun t => t.erase key }
    scalarAt place

/-- Takes a value out of an array, and tells it. -/
def deleteItem (array : Nat) (index : Int) : Act Value := do
  match ← item? array index with
  | none => pure .unset
  | some place =>
    let places ← arrayAt array
    let n := (if index < 0 then index + places.size else index).toNat
    let v ← scalarAt place
    if n + 1 = places.size then resize array n else setArray array (places.setIfInBounds n 0)
    pure v

/-- Takes the first or the last value of an array away. -/
def takeEnd (first : Bool) (array : Nat) : Act Value := do
  let places ← arrayAt array
  let size := places.size
  if size = 0 then pure .unset
  else
    let place := if first then places.getD 0 0 else places.getD (size - 1) 0
    setArray array (if first then places.extract 1 size else places.extract 0 (size - 1))
    scalarAt place

/-- Puts values in the place of some of an array, and tells those. -/
def spliceAt (array : Nat) (start : Int) (length : Option Int) (new : List Value) :
    Act (List Value) := do
  let places ← arrayAt array
  let size : Int := places.size
  let first := if start < 0 then start + size else start
  if first < 0 then
    die "Modification of non-creatable array value attempted".toList
  else
    let first := (min first size).toNat
    let count : Int := match length with
      | none => size
      | some n => if n < 0 then size - first + n else n
    let count := min (max 0 count).toNat (places.size - first)
    let taken := places.extract first (first + count)
    let cells ← newScalars new
    setArray array (places.extract 0 first ++ cells.toArray ++
      places.extract (first + count) places.size)
    valuesAt taken.toList

def tellIn (name : String) : Act Value := do
  match (← get).channels[name]? with
  | some c => pure (.ofInt (if c.isOpen then (c.taken : Int) else -1))
  | none => pure (.ofInt (-1))

/-- Goes to a position of a file that is read. -/
def seekIn (name : String) (offset : Int) (whence : Nat) : Act Value := do
  match (← get).channels[name]? with
  | none => pure (.ofBool false)
  | some c =>
    if !c.isOpen then pure (.ofBool false)
    else do
      flush name
      let text ← match c.scalar, (← files).contents c.path with
        | some place, _ => do pure (← scalarAt place).plainText
        | none, .ok text => pure text
        | none, .error _ => pure (c.text)
      let base : Int := match whence with
        | 0 => 0
        | 1 => c.taken
        | _ => text.length
      let place := (base + offset).toNat
      alterChannel name fun c => { c with text := text.drop place, taken := place, ended := false }
      pure (.ofInt 1)

def numberOfFile (name : String) : Act Value := do
  match (← get).channels[name]? with
  | some c => pure (if c.isOpen && c.scalar.isNone then .ofNat c.number
      else if c.isOpen then .ofInt (-1) else .unset)
  | none => pure .unset

/-- A link to a file without a name of its own, called after what it is kept in. -/
def newHandle (e : Expr) : Act String := do
  let n := (← get).channelCount + 1000 * (← get).channels.size
  let name := match e with
    | .declare _ [some (.scalar, v)] _ => "$" ++ v.name
    | .named .scalar v => "$" ++ v.name
    | _ => "__ANONIO__"
  pure ("main::" ++ name ++ "#" ++ toString n)

def openBy (name : String) (given : List Value) : Act Value := do
  let opened (mode : String) (target : Octets) (words : List Octets) (scalar : Option Nat)
      (wide : Bool) : Act Value := do
    let good ← openAs name mode target words scalar wide
    if good then
      let c := (← get).channels[name]?
      if c.any fun c => c.scalar.isNone && c.command.isNone && c.status.isNone then
        setError (.number 25)
      pure (.ofInt (if mode == "-|" || mode == "|-" || mode == "|" then 4243 else 1))
    else pure (.ofBool false)
  match given with
  | [] => pure (.ofBool false)
  | [one] => do
    let text ← textOf one
    let bare := trimmed text
    if bare.getLast? = some '|' && 1 < bare.length then
      opened "-|" (trimmed (bare.dropLast)) [] none false
    else
      let (mode, target) := modeIn text
      if (mode == ">" || mode == ">>" || mode == "<") && target.head? = some '&' then
        let source := trimmed (target.drop 1)
        let source := if source.head? = some '=' then source.drop 1 else source
        let named ← nameOf source
        let full := if source.all Char.isDigit then source else named.toList
        opened (mode ++ "&") full [] none false
      else if mode == "<" && trimmed target == ['-'] then opened "<" ['-'] [] none false
      else opened mode (trimmed target) [] none false
  | mode :: target :: words => do
    let (sign, wide) := splitMode (← textOf mode)
    let words ← words.mapM textOf
    match target with
    | .link .scalar place => opened sign [] words (some place) wide
    | .glob other | .handle other => opened sign other.toList words none wide
    | v => do
      let text ← textOf v
      let isCopy : Bool := sign.endsWith "&" || sign.endsWith "&="
      let text ← if isCopy && !text.all Char.isDigit then do pure (← nameOf text).toList
        else pure text
      opened sign text words none wide

def fileMethod (channel name : String) (given : List Value) : Act (List Value) := do
  let first := given.headD (.ofInt 1)
  match name with
  | "autoflush" => do
    alterChannel channel fun c => { c with eager := first.holds }
    flush channel
    pure [.ofInt 1]
  | "print" | "say" => do
    let texts ← given.mapM textOf
    let text := texts.flatten ++ (if name == "say" then ['\n'] else [])
    pure [.ofBool (← printOn channel name text)]
  | "printf" => do pure [.ofBool (← printOn channel name (← formatted "printf" given))]
  | "close" => do pure [.ofBool (← close channel)]
  | "getline" =>
    match ← readLine channel with
    | some line => pure [.text line]
    | none => pure [.unset]
  | "getlines" => linesLeft channel portionLimit []
  | "opened" => do pure [.ofBool (((← get).channels[channel]?).any (·.isOpen))]
  | "eof" => do pure [.ofBool (← isAtEnd channel)]
  | "fileno" => do pure [← numberOfFile channel]
  | "input_line_number" => do
    pure [((((← get).channels[channel]?).map fun c => Value.ofNat c.lines).getD .unset)]
  | "flush" => do
    flush channel
    pure [.ofInt 1]
  | _ => pure [.ofInt 1]

/-! ## Expressions and statements -/

mutual

/-- The value of an expression of which one value is wanted. -/
def value : Nat → Expr → Act Value
  | 0, _ => throw .endless
  | f + 1, e =>
    match e with
    | .constant v => pure v
    | .joined parts => do pure (.text (← textsOf f parts))
    | .spaced e => do
      let texts ← (← values f e).mapM textOf
      pure (.text (Octets.joined (← textOf (← common "\"")) texts))
    | .named .scalar (.special name) => specialValue name
    | .named .scalar v => do scalarAt (← placeOf .scalar v)
    | .named .glob v => pure (.glob v.name)
    | .named .array _ | .follow .array _ _ => do
      pure (.ofNat (← arrayAt (← container f .array false e)).size)
    | .named .hash _ | .follow .hash _ _ => do
      pure (.ofNat (← tableAt (← container f .hash false e)).size)
    | .named .code _ | .follow .code _ _ => pure .unset
    | .follow .scalar _ _ => do valueAt (← target f e)
    | .follow .glob _ inner => do
      match ← value f inner with
      | .handle name | .glob name => pure (.glob name)
      | v => do pure (.glob (← channelOf v))
    | .item array index => do
      let place ← container f .array true array
      let n ← numberOf index "array element" (← value f index)
      match ← item? place n.truncated with
      | some cell => scalarAt cell
      | none => pure .unset
    | .entry hash key => do
      let place ← container f .hash true hash
      let k ← textFor key "hash element" (← value f key)
      match ← entry? place k with
      | some cell => scalarAt cell
      | none => pure .unset
    | .items _ _ | .entries _ _ | .pairs _ _ _ | .chosen _ _ => do
      pure ((← values f e).getLastD .unset)
    | .lastPlace array => do
      pure (.ofInt ((← arrayAt (← container f .array true array)).size - 1))
    | .declare how names _ => do
      names.forM fun name =>
        match name with
        | some (sigil, v) => do
          let _ ← declared how sigil v
        | none => pure ()
      match names with
      | [some (.scalar, v)] => do scalarAt (← placeOf .scalar v)
      | _ => pure .unset
    | .localized inner => do
      localize f inner
      if inner.isPlural then pure .unset else value f inner
    | .assign _ _ => do valueAt (← target f e)
    | .assignAll targets given => do pure (.ofNat (← assignAll f targets given).2)
    | .update op place given => do
      let v ← value f given
      match place with
      | .named .array _ => do
        if op = .join then pure .unset else updated f op place given v
      | _ => updated f op place given v
    | .updateIf op place given => do
      let t ← target f place
      let before ← valueAt t
      let keeps : Bool := match op with
        | .both => !before.holds
        | .either => before.holds
        | .present => before.isDefined
      if keeps then pure before
      else do
        let v ← value f given
        setAt t v
        pure v
    | .updateRepeated place count => do
      match place with
      | .several inner => do
        let n := (← value f count).amount.truncated.toNat
        let given ← listOf f inner
        let _ ← distribute f inner (List.replicate n given).flatten
        pure .unset
      | place => do
        let t ← target f place
        let n ← numberOf count "repeat (x)" (← value f count)
        let text ← textFor place "repeat (x)" (← valueAt t)
        let v : Value := .text (List.replicate n.truncated.toNat text).flatten
        setAt t v
        pure v
    | .compute op a b => do
      let x ← value f a
      let y ← value f b
      compute op a b x y
    | .exclusive a b => do
      let x ← value f a
      let y ← value f b
      pure (.ofBool (x.holds != y.holds))
    | .opposite e => do pure (.ofBool !(← value f e).holds)
    | .negative e => do negated e (← value f e)
    | .complement e => do
      let n ← numberOf e "1's complement (~)" (← value f e)
      pure (.ofNat (Number.most.toNat - n.word))
    | .range number patient a b => flip f number patient a b
    | .repeated _ e count => do
      let text ← textFor e "repeat (x)" (← value f e)
      let n ← numberOf count "repeat (x)" (← value f count)
      pure (.text (List.replicate n.truncated.toNat text).flatten)
    | .step up first place => do
      let t ← target f place
      let before ← valueAt t
      let after := if up then before.next else before.previous
      setAt t after
      pure (if first then after else match before with
        | .unset => if up then .ofInt 0 else .unset
        | .text s => if up || !Number.isText s then before else .number before.amount
        | v => v)
    | .several list =>
      match list.getLast? with
      | none => pure .unset
      | some last => do
        list.dropLast.forM fun e => do
          let _ ← valuesIn f .none e
        value f last
    | .find place pattern flags => do
      pure ((← search f .one place pattern flags).getLastD .unset)
    | .replace place pattern new flags => substitute f place pattern new flags
    | .exchange place x => do
      let isFixed : Bool := x.copies || (x.new.isEmpty && !x.deletes && !x.squeezes)
      let t ← if isFixed then do pure none else do pure (some (← target f (place.getD .topic)))
      let before ← match t with
        | some t => valueAt t
        | none => value f (place.getD .topic)
      let text ← textFor (place.getD .topic) "transliteration (tr///)" before
      let (new, count) := x.run none text
      match t with
      | some t => if new != text then setAt t (.text new)
      | none => pure ()
      pure (if x.copies then .text new else .ofNat count)
    | .rule pattern flags => do
      let v ← value f pattern
      match v, flags with
      | .rule source old, [] => pure (.rule source old)
      | v, flags =>
        let source ← textFor pattern "regexp compilation" v
        let _ ← compiled source flags
        pure (.rule source (toldFlags flags))
    | .print kind handle given => printed f kind handle given
    | .arrange _ _ given => do pure (.ofNat (← listOf f given).length)
    | .through filters body given => do
      if filters then do
        let cells ← cellsOf f false given
        pure (.ofNat (← filterCells f body cells).length)
      else do pure (.ofNat (← values f e).length)
    | .readLine handle => do
      match ← readLine (← channelFor f handle) with
      | some line => pure (.text line)
      | none => pure .unset
    | .paths pattern => do
      let text ← textOf (← value f pattern)
      pure ((← pathsFor text).headD .unset)
    | .output command => do
      let text ← textOf (← value f command)
      pure (.text (← outputOf text))
    | .newArray given => do
      let list ← listOf f given
      let place ← newArray #[]
      setValues place list
      pure (.link .array place)
    | .newHash given => do
      let list ← listOf f given
      let place ← newTable {}
      if list.length % 2 = 1 then doubt "Odd number of elements in anonymous hash"
      setPairs place (if list.length % 2 = 1 then list ++ [.unset] else list)
      pure (.link .hash place)
    | .newCode name package body => do
      let own := (← get).own
      pure (.link .code (← newRoutine (.script name package body own)))
    | .reference e => do pure ((← references f e).getLastD .unset)
    | .test letter e => do
      match ← value f e with
      | .glob name | .handle name =>
        let c := (← get).channels[name]?
        if letter = 't' then pure (.ofBool false)
        else
          match c with
          | none => pure .unset
          | some c =>
            if c.path.isEmpty || c.path == ['-'] then
              pure (.ofBool (c.isOpen && (letter == 'e' || letter == 'p' || letter == 'r')))
            else fileTest letter c.path
      | v => do
        let path ← textFor e ("-" ++ String.singleton letter) v
        if letter = 't' then pure (.ofBool false) else fileTest letter path
    | .leave how label => throw (.leave how label)
    | .define package given => do
      match given with
      | [.newHash inner] => do
        let list ← listOf f inner
        (pairsIn list).forM fun (name, v) => do
          let full := package ++ "::" ++ String.ofList (← textOf name)
          nameFor .code full (← newRoutine (.constant [v]))
      | [] => pure ()
      | name :: rest => do
        let full := package ++ "::" ++ String.ofList (← textOf (← value f name))
        let list ← listOf f rest
        nameFor .code full (← newRoutine (.constant list))
      pure .unset
    | e => do pure ((← valuesIn f .one e).getLastD .unset)
termination_by structural f => f

def updated : Nat → Operation → Expr → Expr → Value → Act Value
  | 0, _, _, _, _ => throw .endless
  | f + 1, op, place, given, v => do
    let t ← target f place
    let before ← valueAt t
    -- Nothing is missed if something is added to what is not there.
    let isIndulgent : Bool := op = .add || op = .sub || op = .join || op = .bitOr || op = .bitXor
    let before : Value := match before with
      | .unset => if isIndulgent then (if op = .join then .text [] else .ofInt 0) else .unset
      | v => v
    let after ← compute op place given before v
    setAt t after
    pure after
termination_by structural f => f

def textsOf : Nat → List Expr → Act Octets
  | 0, _ => throw .endless
  | _, [] => pure []
  | f + 1, e :: rest => do
    let text ← textFor e "concatenation (.) or string" (← value f e)
    let others ← textsOf f rest
    pure (text ++ others)
termination_by structural f => f

/-- The values of an expression of which all values are wanted. -/
def values : Nat → Expr → Act (List Value)
  | 0, _ => throw .endless
  | f + 1, e =>
    match e with
    | .constant v => pure [v]
    | .named .scalar _ => do pure [← value f e]
    | .named .array _ | .follow .array _ _ => do valuesOf (← container f .array false e)
    | .named .hash _ | .follow .hash _ _ => do pairsOf (← container f .hash false e)
    | .several list => listOf f list
    | .items array places => do
      let place ← container f .array true array
      (← values f places).mapM fun v => do
        match ← item? place v.amount.truncated with
        | some cell => scalarAt cell
        | none => pure .unset
    | .entries hash keys => do
      let place ← container f .hash true hash
      (← values f keys).mapM fun v => do
        match ← entry? place (← textOf v) with
        | some cell => scalarAt cell
        | none => pure .unset
    | .pairs ofHash holder keys => do
      let place ← container f (if ofHash then .hash else .array) true holder
      let found ← (← values f keys).mapM fun v => do
        let cell ← if ofHash then do entry? place (← textOf v)
          else item? place v.amount.truncated
        match cell with
        | some cell => do pure [v, ← scalarAt cell]
        | none => pure [v, .unset]
      pure found.flatten
    | .chosen list places => do
      let all := (← values f list).toArray
      let chosen ← values f places
      if all.isEmpty then pure []
      else
        pure (chosen.map fun v =>
          let n : Int := v.amount.truncated
          let n : Int := if n < 0 then n + all.size else n
          if n < 0 then .unset else all.getD n.toNat .unset)
    | .declare how names _ => do
      let places ← names.mapM fun name =>
        match name with
        | some (sigil, v) => do pure [(sigil, ← declared how sigil v)]
        | none => pure []
      let found ← places.flatten.mapM fun (sigil, place) =>
        match sigil with
        | .array => valuesOf place
        | .hash => pairsOf place
        | _ => do pure [← scalarAt place]
      pure found.flatten
    | .localized inner => do
      localize f inner
      values f inner
    | .assignAll targets given => do
      let (cells, _) ← assignAll f targets given
      valuesAt cells
    | .range _ _ a b => do
      let x ← value f a
      let y ← value f b
      if !x.isDefined then doubtUnset a "range (or flop)"
      if !y.isDefined then doubtUnset b "range (or flop)"
      range x y
    | .repeated true e count => do
      let list ← values f e
      let n := (← value f count).amount.truncated.toNat
      pure (List.replicate n list).flatten
    | .find place pattern flags => search f .all place pattern flags
    | .arrange how isBlock given => arranged f how isBlock given
    | .through filters body given => do
      let cells ← cellsOf f false given
      if filters then do valuesAt (← filterCells f body cells)
      else mapCells f body cells
    | .readLine handle => do linesLeft (← channelFor f handle) portionLimit []
    | .paths pattern => do pathsFor (← textOf (← value f pattern))
    | .output command => do
      let text ← textOf (← value f command)
      let shown ← outputOf text
      let name := "main::\x60"
      modify fun s =>
        { s with channels := s.channels.insert name { reads := true, text := shown } }
      let before := (← get).readLast
      let lines ← linesLeft name portionLimit []
      modify fun s => { s with readLast := before, channels := s.channels.erase name }
      pure lines
    | .reference e => references f e
    | .connect _ _ _ | .choice _ _ _ | .call _ _ | .method _ _ _ | .methodBy _ _ _ | .block _
    | .attempt _ | .evaluate _ _ | .giveBack _ | .builtin _ _ => valuesIn f .all e
    | e => do pure [← value f e]
termination_by structural f => f

/-- The values of an expression, as many as are wanted. -/
def valuesIn : Nat → Want → Expr → Act (List Value)
  | 0, _, _ => throw .endless
  | f + 1, want, e =>
    match e with
    | .connect op a b => do
      let x ← value f a
      let goesOn : Bool := match op with
        | .both => x.holds
        | .either => !x.holds
        | .present => !x.isDefined
      if goesOn then valuesIn f want b else pure (asWanted want [x])
    | .choice condition yes no => do
      if (← value f condition).holds then valuesIn f want yes else valuesIn f want no
    | .several list =>
      if want = .all then listOf f list
      else
        match list.getLast? with
        | none => pure (asWanted want [])
        | some last => do
          list.dropLast.forM fun e => do
            let _ ← valuesIn f .none e
          valuesIn f want last
    | .call code given => do
      let routine? : Option Nat ← match code with
        | .named .code v => do
          match v with
          | .shared name => function? name
          | v => do pure (some (← placeOf .code v))
        | _ => pure none
      let cells ← match given with
        | some list => do
          let place ← newArray (← cellsOf f false list).toArray
          pure place
        | none => sharedPlace .array "main::_"
      match routine?, code with
      | some routine, .named _ v => call f want routine v.name cells
      | _, .named _ (.shared name) => missing f want name cells
      | _, .follow _ strict inner => do
        let routine ← linked .code strict (← value f inner)
        call f want routine "__ANON__" cells
      | _, e => do
        let routine ← linked .code false (← value f e)
        call f want routine "__ANON__" cells
    | .method object name given => do
      let o ← value f object
      let cells ← cellsOf f false given
      method f want o name cells
    | .methodBy object name given => do
      let o ← value f object
      let cells ← cellsOf f false given
      match ← value f name with
      | .link .code routine => do
        let first ← newScalar o
        call f want routine "__ANON__" (← newArray (first :: cells).toArray)
      | v => do method f want o (String.ofList (← textOf v)) cells
    | .block stmts => inBlock (body f want stmts)
    | .attempt stmts => do trial want (inBlock (body f want stmts))
    | .evaluate e scope => do
      let text ← textOf (← value f e)
      evaluated f want text scope
    | .giveBack given => do
      let frames := (← get).frames
      if frames.isEmpty then die "Can't return outside a subroutine".toList
      else
        let wanted := (frames.head?.map (·.want)).getD .all
        match given with
        | none => throw (.giveBack (asWanted wanted []))
        | some e => do throw (.giveBack (← valuesIn f wanted e))
    | .builtin name given => builtin f want name given
    | e =>
      if want = .all then values f e
      else do pure (asWanted want [← value f e])
termination_by structural f => f

def listOf : Nat → List Expr → Act (List Value)
  | 0, _ => throw .endless
  | _, [] => pure []
  | f + 1, e :: rest => do
    let front ← values f e
    if rest.isEmpty then pure front
    else do
      let others ← listOf f rest
      pure (front ++ others)
termination_by structural f => f

def singles : Nat → List Expr → Act (List Value)
  | 0, _ => throw .endless
  | _, [] => pure []
  | f + 1, e :: rest => do
    let first ← value f e
    let others ← singles f rest
    pure (first :: others)
termination_by structural f => f

/-- The array or hash that an expression stands for. On demand it is made where a link to it is
not there. -/
def container : Nat → Sigil → Bool → Expr → Act Nat
  | 0, _, _, _ => throw .endless
  | f + 1, sigil, makes, e =>
    match e with
    | .named _ (.special name) => do
      let place ← make sigil
      if sigil == .array then setValues place (← specialArray name)
      else setPairs place (← specialPairs name)
      pure place
    | .named _ v => placeOf sigil v
    | .follow _ strict inner => do
      if makes && isPlaceable inner then do
        linkedFrom sigil strict (← cellOf (← target f inner))
      else do linked sigil strict (← value f inner)
    | .declare how [some (kind, v)] _ => declared how kind v
    | .localized inner => do
      localize f inner
      container f sigil makes inner
    | .several [inner] => container f sigil makes inner
    | .assignAll targets given => do
      let _ ← assignAll f targets given
      match targets with
      | .declare _ [some (kind, v)] _ => placeOf kind v
      | .localized inner => container f sigil makes inner
      | inner => container f sigil makes inner
    | e => do
      let list ← values f e
      let place ← make sigil
      if sigil == .array then setValues place list else setPairs place list
      pure place
termination_by structural f => f

def target : Nat → Expr → Act Target
  | 0, _ => throw .endless
  | f + 1, e =>
    match e with
    | .named .scalar (.special name) => pure (.special name)
    | .named .scalar v => do pure (.place (← placeOf .scalar v))
    | .named .glob v => pure (.glob v.name)
    | .constant (.glob name) => pure (.glob name)
    | .follow .scalar strict inner => do
      if isPlaceable inner then do
        pure (.place (← linkedFrom .scalar strict (← cellOf (← target f inner))))
      else do pure (.place (← linked .scalar strict (← value f inner)))
    | .follow .glob _ inner => do pure (.glob (← channelOf (← value f inner)))
    | .item array index => do
      let place ← container f .array true array
      let n ← numberOf index "array element" (← value f index)
      pure (.place (← item place n.truncated))
    | .entry hash key => do
      let place ← container f .hash true hash
      let k ← textFor key "hash element" (← value f key)
      pure (.place (← entry place k))
    | .lastPlace array => do pure (.lastPlace (← container f .array true array))
    | .declare how [some (sigil, v)] _ => do
      let place ← declared how sigil v
      pure (.place place)
    | .localized inner => do
      localize f inner
      target f inner
    | .several [inner] => target f inner
    | .assign (.declare how names several) given => do
      if ← isSettled how names then target f (.declare how names several)
      else do
        let v ← value f given
        let t ← target f (.declare how names several)
        setAt t v
        pure t
    | .assign inner given => do
      let v ← value f given
      let t ← target f inner
      setAt t v
      pure t
    | .update _ inner _ | .updateIf _ inner _ | .updateRepeated inner _ => do
      let _ ← value f e
      target f inner
    | .step _ true inner => do
      let _ ← value f e
      target f inner
    | .choice condition yes no => do
      if (← value f condition).holds then target f yes else target f no
    | .builtin "substr" (text :: start :: rest) => do
      let cell ← cellOf (← target f text)
      let size := (← textOf (← scalarAt cell)).length
      let start := (← value f start).amount.truncated
      let length ← match rest with
        | l :: _ => do pure (some (← value f l).amount.truncated)
        | [] => pure none
      match partOf size start length with
      | some (first, count) => pure (.part cell first count)
      | none => die "substr outside of string".toList
    | .builtin "pos" given => do
      pure (.position (← cellOf (← target f (given.headD .topic))))
    | .builtin "local" given => target f (given.headD .topic)
    | e => do pure (.place (← newScalar (← value f e)))
termination_by structural f => f

def cells : Nat → Bool → Expr → Act (List Nat)
  | 0, _, _ => throw .endless
  | f + 1, makes, e =>
    match e with
    | .named .scalar _ | .follow .scalar _ _ | .assign _ _ | .update _ _ _ => do
      pure [← cellOf (← target f e)]
    | .named .array _ | .follow .array _ _ => do
      pure (← filledArray (← container f .array makes e)).toList
    | .named .hash _ | .follow .hash _ _ => do
      let t ← tableAt (← container f .hash makes e)
      let found ← t.keys.toList.mapM fun key => do
        pure [← newScalar (.text key), (t.get? key).getD 0]
      pure found.flatten
    | .several list => cellsOf f makes list
    | .item array index => do
      if makes then do pure [← cellOf (← target f e)]
      else do
        let place ← container f .array true array
        match ← item? place (← value f index).amount.truncated with
        | some cell => pure [cell]
        | none => do pure [← newScalar .unset]
    | .entry hash key => do
      if makes then do pure [← cellOf (← target f e)]
      else do
        let place ← container f .hash true hash
        let k ← textFor key "hash element" (← value f key)
        match ← entry? place k with
        | some cell => pure [cell]
        | none => do pure [← newScalar .unset]
    | .items array places => do
      let place ← container f .array true array
      (← values f places).mapM fun v => item place v.amount.truncated
    | .entries hash keys => do
      let place ← container f .hash true hash
      (← values f keys).mapM fun v => do entry place (← textOf v)
    | .declare how names _ => do
      let places ← names.mapM fun name =>
        match name with
        | some (.scalar, v) => do pure [← declared how .scalar v]
        | some (sigil, v) => do
          let _ ← declared how sigil v
          pure []
        | none => pure []
      pure places.flatten
    | .assignAll targets given => do pure (← assignAll f targets given).1
    | .localized inner => do
      localize f inner
      cells f makes inner
    | .choice condition yes no => do
      if (← value f condition).holds then cells f makes yes else cells f makes no
    | .through true body given => do
      filterCells f body (← cellsOf f makes given)
    | e => do newScalars (← values f e)
termination_by structural f => f

def cellsOf : Nat → Bool → List Expr → Act (List Nat)
  | 0, _, _ => throw .endless
  | _, _, [] => pure []
  | f + 1, makes, e :: rest => do
    let front ← cells f makes e
    if rest.isEmpty then pure front
    else do
      let others ← cellsOf f makes rest
      pure (front ++ others)
termination_by structural f => f

/-- Gives what an expression stands for something new for a while. -/
def localize : Nat → Expr → Act Unit
  | 0, _ => throw .endless
  | f + 1, e =>
    match e with
    | .named .glob v => localizeName .scalar v
    | .constant (.glob name) =>
      [Sigil.scalar, .array, .hash, .code].forM fun sigil => localizeName sigil (.shared name)
    | .named sigil v => localizeName sigil v
    | .item array index => do
      let place ← container f .array true array
      localizeItem place (← value f index).amount.truncated
    | .entry hash key => do
      let place ← container f .hash true hash
      localizeEntry place (← textOf (← value f key))
    | .entries hash keys => do
      let place ← container f .hash true hash
      (← values f keys).forM fun v => do localizeEntry place (← textOf v)
    | .several list => list.forM fun e => localize f e
    | _ => pure ()
termination_by structural f => f

/-- Sets several things to the values of an expression. Tells the places that were set, and how
many values there were. -/
def assignAll : Nat → Expr → Expr → Act (List Nat × Nat)
  | 0, _, _ => throw .endless
  | f + 1, targets, given => do
    let isOld : Bool ← match targets with
      | .declare how names _ => isSettled how names
      | _ => pure false
    if isOld then do
      let _ ← values f targets
      pure ([], 0)
    else do
      let list ← values f given
      let places ← distribute f [targets] list
      pure (places, list.length)
termination_by structural f => f

/-- Sets several things to values, one after the other. Tells the places. -/
def distribute : Nat → List Expr → List Value → Act (List Nat)
  | 0, _, _ => throw .endless
  | _, [], _ => pure []
  | f + 1, e :: rest, list => do
    let toArray (place : Nat) : Act (List Nat) := do
      setValues place list
      let front := (← arrayAt place).toList
      let others ← distribute f rest []
      pure (front ++ others)
    let toHash (place : Nat) : Act (List Nat) := do
      setPairs place list
      let t ← tableAt place
      let front := t.keys.toList.filterMap t.get?
      let others ← distribute f rest []
      pure (front ++ others)
    match e with
    | .several inner => distribute f (inner ++ rest) list
    | .declare how names _ =>
      match names with
      | [] => distribute f rest list
      | none :: names => distribute f (.declare how names true :: rest) (list.drop 1)
      | some (sigil, v) :: names => do
        let _ ← declared how sigil v
        distribute f (.named sigil v :: .declare how names true :: rest) list
    | .named .array _ | .follow .array _ _ => do toArray (← container f .array true e)
    | .named .hash _ | .follow .hash _ _ => do toHash (← container f .hash true e)
    | .constant .unset => distribute f rest (list.drop 1)
    | .localized inner => do
      localize f inner
      distribute f (inner :: rest) list
    | .choice condition yes no => do
      if (← value f condition).holds then distribute f (yes :: rest) list
      else distribute f (no :: rest) list
    | .items _ _ | .entries _ _ => do
      let places ← cells f true e
      (places.zipIdx).forM fun (place, n) => setScalar place (list.getD n .unset)
      let others ← distribute f rest (list.drop places.length)
      pure (places ++ others)
    | e => do
      let t ← target f e
      setAt t (list.headD .unset)
      let place ← cellOf t
      let others ← distribute f rest (list.drop 1)
      pure (place :: others)
termination_by structural f => f

def references : Nat → Expr → Act (List Value)
  | 0, _ => throw .endless
  | f + 1, e =>
    match e with
    | .named .code v | .call (.named .code v) none => do
      pure [.link .code (← placeOf .code v)]
    | .follow .code strict inner | .call (.follow .code strict inner) none => do
      pure [.link .code (← linked .code strict (← value f inner))]
    | .named .array _ | .follow .array _ _ => do
      pure [.link .array (← container f .array true e)]
    | .named .hash _ | .follow .hash _ _ => do
      pure [.link .hash (← container f .hash true e)]
    | .constant (.glob name) => pure [.handle name]
    | .named .glob v => pure [.handle v.name]
    | .follow .glob _ inner => do pure [.handle (← channelOf (← value f inner))]
    | .several [.named .array v] => do
      let places ← filledArray (← placeOf .array v)
      pure (places.toList.map fun p => .link .scalar p)
    | .several list => do
      let all ← list.mapM fun e => references f e
      pure all.flatten
    | .declare how names _ => do
      let all ← names.mapM fun name =>
        match name with
        | some (sigil, v) => do pure [Value.link sigil (← declared how sigil v)]
        | none => pure []
      pure all.flatten
    | .localized inner => do
      localize f inner
      references f inner
    | .assignAll (.declare how [some (sigil, v)] several) given => do
      let _ ← assignAll f (.declare how [some (sigil, v)] several) given
      pure [.link sigil (← placeOf sigil v)]
    | .named .scalar _ | .follow .scalar _ _ | .item _ _ | .entry _ _ | .assign _ _ => do
      pure [.link .scalar (← cellOf (← target f e))]
    | .call _ _ | .method _ _ _ | .methodBy _ _ _ => do
      let places ← newScalars (← values f e)
      pure (places.map fun p => .link .scalar p)
    | e => do pure [.link .scalar (← newScalar (← value f e))]
termination_by structural f => f

def channelFor : Nat → Expr → Act String
  | 0, _ => throw .endless
  | f + 1, e =>
    match e with
    | .constant (.glob name) => pure name
    | e => do
      match ← value f e with
      | .unset => pure ""
      | v => channelOf v
termination_by structural f => f

def patternFor : Nat → Expr → Octets → Act Ordered.Compiled
  | 0, _, _ => throw .endless
  | f + 1, e, flags => do
    match e with
    | .constant (.text source) => do
      match source, (← get).lastRule with
      | [], some rule => pure rule
      | source, _ => compiled source flags
    | .joined parts => do
      let texts ← parts.mapM fun e => do textFor e "regexp compilation" (← value f e)
      compiled texts.flatten flags
    | e => do
      match ← value f e with
      | .rule source old => compiled source (old ++ flags)
      | v => do compiled (← textFor e "regexp compilation" v) flags
termination_by structural f => f

def search : Nat → Want → Option Expr → Expr → Octets → Act (List Value)
  | 0, _, _, _, _ => throw .endless
  | f + 1, want, place, pattern, flags => do
    let e := place.getD .topic
    let title := "pattern match (m//)"
    let all : Bool := flags.contains 'g'
    if !all then do
      let text := (← textFor e title (← value f e)).toArray
      let rule ← patternFor f pattern flags
      match Compiled.next? rule text 0 0 with
      | none => pure (if want = .all then [] else [.ofBool false])
      | some m => do
        setFound rule text m
        pure (if want = .all then
          (if rule.groups = 0 then [.ofInt 1] else groupTexts text rule.groups m)
          else [.ofBool true])
    else do
      let cell ← cellOf (← target f e)
      let text := (← textFor e title (← scalarAt cell)).toArray
      let rule ← patternFor f pattern flags
      let mark := ((← get).positions[cell]?).getD 0
      let begins := mark / 2
      let isStuck : Bool := mark % 2 = 1
      let ends := if isStuck then begins + 1 else begins
      if want = .all then do
        let found := allMatches rule text (text.size + 2) begins ends
        match found.getLast? with
        | none => do
          if !flags.contains 'c' then
            modify fun s => { s with positions := s.positions.erase cell }
          pure []
        | some m => do
          setFound rule text m
          modify fun s =>
            { s with positions :=
                if flags.contains 'c' then s.positions.insert cell (2 * m.stop + (if m.isEmpty then 1 else 0))
                else s.positions.erase cell }
          pure (found.flatMap fun m =>
            if rule.groups = 0 then [.text (part text m.start m.stop)]
            else groupTexts text rule.groups m)
      else
        match if text.size < begins then none else Compiled.next? rule text begins ends with
        | none => do
          if !flags.contains 'c' then
            modify fun s => { s with positions := s.positions.erase cell }
          pure [.ofBool false]
        | some m => do
          setFound rule text m
          modify fun s =>
            { s with positions := s.positions.insert cell (2 * m.stop + (if m.isEmpty then 1 else 0)) }
          pure [.ofBool true]
termination_by structural f => f

/-- Puts something in the place of what a pattern matches. -/
def substitute : Nat → Option Expr → Expr → Expr → Octets → Act Value
  | 0, _, _, _, _ => throw .endless
  | f + 1, place, pattern, new, flags => do
    let e := place.getD .topic
    let copies : Bool := flags.contains 'r'
    let t ← if copies then do pure (Target.place (← newScalar (← value f e))) else target f e
    let before ← textFor e "substitution (s///)" (← valueAt t)
    let text := before.toArray
    let rule ← patternFor f pattern flags
    let (pieces, count, rest) ← replaced f rule text new (flags.contains 'g') 0 0 0 []
    if count = 0 then pure (if copies then .text before else .ofBool false)
    else
      let after : Value := .text ((part text rest text.size :: pieces).reverse.flatten)
      if copies then pure after
      else do
        setAt t after
        pure (.ofNat count)
termination_by structural f => f

/-- The parts of a text with replacements, the last one first, how many there are, and where what
is left begins. -/
def replaced : Nat → Ordered.Compiled → Array Char → Expr → Bool → Nat → Nat → Nat →
    List Octets → Act (List Octets × Nat × Nat)
  | 0, _, _, _, _, _, _, _, _ => throw .endless
  | f + 1, rule, text, new, everywhere, begins, ends, count, pieces => do
    match if text.size < begins then none else Compiled.next? rule text begins ends with
    | none => pure (pieces, count, begins)
    | some m => do
      setFound rule text m
      let shown ← textFor new "substitution iterator" (← value f new)
      let pieces := shown :: part text begins m.start :: pieces
      if everywhere then
        replaced f rule text new everywhere m.stop (if m.isEmpty then m.stop + 1 else m.stop)
          (count + 1) pieces
      else pure (pieces, count + 1, m.stop)
termination_by structural f => f

/-- Whether a range of rounds goes on: it begins when one condition holds, and ends when another
one does. Numbers are those of lines. -/
def flip : Nat → Nat → Bool → Expr → Expr → Act Value
  | 0, _, _, _, _ => throw .endless
  | f + 1, number, patient, a, b => do
    let holds (e : Expr) : Act Bool := do
      match e with
      | .constant (.number n) => do
        pure ((← specialValue ".").amount.compare? n == some .eq)
      | e => do pure (← value f e).holds
    let sequence (n : Nat) (isOver : Bool) : Value :=
      .text (Octets.ofNat n ++ (if isOver then ['E', '0'] else []))
    let setRange (n : Option Nat) : Act Unit :=
      modify fun s =>
        let others := s.ranges.filter (·.1 != number)
        { s with ranges := match n with
            | some n => (number, n) :: others
            | none => others }
    match (← get).ranges.lookup number with
    | none =>
      if ← holds a then
        if patient then do
          setRange (some 1)
          pure (sequence 1 false)
        else if ← holds b then pure (sequence 1 true)
        else do
          setRange (some 1)
          pure (sequence 1 false)
      else pure (.text [])
    | some n =>
      if ← holds b then do
        setRange none
        pure (sequence (n + 1) true)
      else do
        setRange (some (n + 1))
        pure (sequence (n + 1) false)
termination_by structural f => f

def printed : Nat → String → Option Expr → List Expr → Act Value
  | 0, _, _, _ => throw .endless
  | f + 1, kind, handle, given => do
    let name ← match handle with
      | none => do pure (← get).selected
      | some e => do channelOf (← value f e)
    let text ← if kind == "printf" then do formatted "printf" (← listOf f given)
      else do
        let all ← given.mapM fun e => do pure (e, ← values f e)
        let texts ← all.mapM fun (e, list) => list.mapM fun v => textFor e kind v
        let between ← textOf (← common ",")
        let behind ← textOf (← common "\\")
        let line : Octets := if kind == "say" then ['\n'] else behind
        pure (Octets.joined between texts.flatten ++ line)
    pure (if ← printOn name kind text then .ofInt 1 else .unset)
termination_by structural f => f

/-- Calls a function with an array of what it is given. -/
def call : Nat → Want → Nat → String → Nat → Act (List Value)
  | 0, _, _, _, _ => throw .endless
  | f + 1, want, routine, name, given => do
    match (← get).routines[routine]? with
    | some (.constant list) => pure (asWanted want list)
    | some (.script full _ stmts own) => do
      let frame : Frame :=
        { name := if full == "__ANON__" then "main::__ANON__" else full, want
          site := (← get).site, routine }
      inCall frame own given (body f want stmts)
    | some (.library "") | none =>
      if name == "__ANON__" then die "Undefined subroutine called".toList
      else missing f want (Reading.qualified (← get).site.package name) given
    | some (.library full) => do pure (asWanted want (← library f want full given))
termination_by structural f => f

/-- Calls a function that is not there: another one may stand in for it. -/
def missing : Nat → Want → String → Nat → Act (List Value)
  | 0, _, _, _ => throw .endless
  | f + 1, want, name, given => do
    let package := String.ofList ((name.toList.reverse.dropWhile (· != ':')).drop 2).reverse
    match ← function? (package ++ "::AUTOLOAD") with
    | some routine => do
      setScalar (← sharedPlace .scalar (package ++ "::AUTOLOAD")) (.ofString name)
      call f want routine "AUTOLOAD" given
    | none => die ("Undefined subroutine &".toList ++ name.toList ++ " called".toList)
termination_by structural f => f

def method : Nat → Want → Value → String → List Nat → Act (List Value)
  | 0, _, _, _, _ => throw .endless
  | f + 1, want, o, name, given => do
    let shown := ("method \"" ++ name ++ "\"").toList
    let named ← classOf? o
    let text ← textOf o
    let c ← match o, named with
      | .glob _, _ | .handle _, none => pure "IO::File"
      | .unset, _ => die ("Can't call ".toList ++ shown ++ " on an undefined value".toList)
      | _, some c => pure c
      | .link _ _, none => die ("Can't call ".toList ++ shown ++ " on unblessed reference".toList)
      | _, none =>
        if text.isEmpty then
          die ("Can't call ".toList ++ shown ++ " without a package or object reference".toList)
        else pure (String.ofList text)
    let first ← newScalar o
    let cells ← newArray (first :: given).toArray
    let package := (← get).site.package
    let isAbove := ("SUPER::").isPrefixOf name
    let short := String.ofList ((name.toList.reverse.takeWhile (· != ':')).reverse)
    let owners ← if isAbove then do
        let above ← lineage 50 package
        pure (above.drop 1)
      else lineage 50 c
    let direct ← if !isAbove && short != name then function? name else pure none
    let found ← match direct with
      | some routine => pure (some routine)
      | none => methodOf? short owners
    match found with
    | some routine => call f want routine name cells
    | none =>
      let isFile : Bool := c == "IO::File" ||
        (named.isNone && (← get).channels.contains (Reading.qualified package c))
      match short with
      | "isa" | "DOES" => do
        let asked ← textOf ((← valuesAt (given.take 1)).headD .unset)
        pure (asWanted want [.ofBool (owners.any fun p => p.toList == asked)])
      | "can" => do
        let asked ← textOf ((← valuesAt (given.take 1)).headD .unset)
        match ← methodOf? (String.ofList asked) owners with
        | some routine => pure (asWanted want [.link .code routine])
        | none => pure (asWanted want [.text []])
      | "VERSION" => do
        pure (asWanted want [← scalarAt (← sharedPlace .scalar (c ++ "::VERSION"))])
      | "import" | "unimport" => pure (asWanted want [])
      | short =>
        if isFile then do
          let channel ← channelOf o
          pure (asWanted want (← fileMethod channel short (← valuesAt given)))
        else
          match ← methodOf? "AUTOLOAD" owners with
          | some routine => do
            setScalar (← sharedPlace .scalar (c ++ "::AUTOLOAD")) (.ofString (c ++ "::" ++ short))
            call f want routine "AUTOLOAD" cells
          | none => do
            let advice : Octets ← if ← isPackage c then pure []
              else pure (" (perhaps you forgot to load \"" ++ c ++ "\"?)").toList
            die ("Can't locate object ".toList ++ shown ++ " via package \"".toList ++ c.toList ++
              '"' :: advice)
termination_by structural f => f

def hear : Nat → String → Nat → Act Unit
  | 0, _, _ => throw .endless
  | f + 1, name, number => do
    if ← isIgnored name then pure ()
    else
      match ← listener? name with
      | some routine => do
        let cell ← newScalar (.ofString name)
        let _ ← call f .none routine name (← newArray #[cell])
      | none => do
        modify fun s => { s with signal := some ⟨number⟩, finals := [] }
        throw .exit
termination_by structural f => f

def drain : Nat → Act Unit
  | 0 => throw .endless
  | f + 1 => do
    let warnings := (← get).warnings
    if !warnings.isEmpty then
      modify fun s => { s with warnings := [] }
      match ← listener? "__WARN__" with
      | some routine =>
        warnings.reverse.forM fun text => do
          let cell ← newScalar (.text text)
          let _ ← call f .none routine "__WARN__" (← newArray #[cell])
      | none => warnings.reverse.forM fun text => alterSequel fun q => q.prints .errors text
termination_by structural f => f

def dieWith : Nat → Value → Act (List Value)
  | 0, _ => throw .endless
  | f + 1, v => do
    match ← listener? "__DIE__" with
    | some routine => do
      let cell ← newScalar v
      let table ← sharedPlace .hash "main::SIG"
      let place ← entry table "__DIE__".toList
      let before ← scalarAt place
      setScalar place .unset
      let _ ← call f .none routine "__DIE__" (← newArray #[cell])
      setScalar place before
    | none => pure ()
    throw (.failure v)
termination_by structural f => f

def evaluated : Nat → Want → Octets → Scope → Act (List Value)
  | 0, _, _, _ => throw .endless
  | f + 1, want, text, scope => do
    let n := (← get).texts + 1
    modify fun s => { s with texts := n }
    let file := "(eval ".toList ++ Octets.ofNat n ++ [')']
    let scope := { scope with package := (← get).site.package }
    match ← readText text file scope with
    | .error message => do
      setCommon "@" (.text message)
      pure (asWanted want [])
    | .ok script => do
      let site := (← get).site
      let list ← trial want do
        install script
        script.starts.forM fun start => do
          let _ ← body f .none start
        inBlock (body f want script.body)
      modify fun s => { s with site }
      pure list
termination_by structural f => f

def runFile : Nat → Want → Octets → Octets → Act (List Value)
  | 0, _, _, _ => throw .endless
  | f + 1, want, text, file => do
    match ← readText text file {} with
    | .error message => throw (.failure (.text message))
    | .ok script => do
      let site := (← get).site
      install script
      script.starts.forM fun start => do
        let _ ← body f .none start
      let list ← inBlock (body f want script.body)
      modify fun s => { s with site }
      pure list
termination_by structural f => f

def arranged : Nat → Option Expr → Bool → List Expr → Act (List Value)
  | 0, _, _, _ => throw .endless
  | f + 1, how, isBlock, given => do
    let list ← listOf f given
    match how with
    | none => inOrder false false list
    | some e =>
      match if isBlock then plainOrder? e else none with
      | some (numbers, backwards) => inOrder numbers backwards list
      | none => do
        let routine : Option Nat ← if isBlock then pure none
          else
            match e with
            | .named .code (.shared name) => do
              match ← function? name with
              | some routine => pure (some routine)
              | none => die ("Undefined sort subroutine \"".toList ++ name.toList ++ "\" called".toList)
            | e => do pure (some (← linked .code false (← value f e)))
        let package := (← get).site.package
        let first ← sharedPlace .scalar (package ++ "::a")
        let second ← sharedPlace .scalar (package ++ "::b")
        inBlock do
          remember (.name ("$" ++ package ++ "::a") (some first))
          remember (.name ("$" ++ package ++ "::b") (some second))
          nameFor .scalar (package ++ "::a") (← newScalar .unset)
          nameFor .scalar (package ++ "::b") (← newScalar .unset)
          sorted f e routine package list
termination_by structural f => f

/-- Values in the order of an expression or a function, each half by itself first. -/
def sorted : Nat → Expr → Option Nat → String → List Value → Act (List Value)
  | 0, _, _, _, _ => throw .endless
  | f + 1, e, routine, package, list =>
    match list with
    | [] => pure []
    | [v] => pure [v]
    | list => do
      let half := (list.length + 1) / 2
      let front ← sorted f e routine package (list.take half)
      let back ← sorted f e routine package (list.drop half)
      merged f e routine package front back []
termination_by structural f => f

def merged : Nat → Expr → Option Nat → String → List Value → List Value → List Value →
    Act (List Value)
  | 0, _, _, _, _, _, _ => throw .endless
  | f + 1, e, routine, package, front, back, sofar => do
    match front, back with
    | [], rest | rest, [] => pure (sofar.reverse ++ rest)
    | a :: as, b :: bs => do
      setScalar (← sharedPlace .scalar (package ++ "::a")) a
      setScalar (← sharedPlace .scalar (package ++ "::b")) b
      let v ← match routine with
        | some routine => do
          pure ((← call f .one routine "__ANON__" (← newArray #[])).headD .unset)
        | none => value f e
      if v.amount.compare? (.whole 0) == some .gt then
        merged f e routine package (a :: as) bs (b :: sofar)
      else merged f e routine package as (b :: bs) (a :: sofar)
termination_by structural f => f

/-- What an expression makes of each of several values. -/
def mapCells : Nat → Expr → List Nat → Act (List Value)
  | 0, _, _ => throw .endless
  | f + 1, e, places =>
    inBlock do
      remember (.name "$main::_" (← get).shared["$main::_"]?)
      mapRounds f e places []
termination_by structural f => f

def mapRounds : Nat → Expr → List Nat → List (List Value) → Act (List Value)
  | 0, _, _, _ => throw .endless
  | _, _, [], sofar => pure sofar.reverse.flatten
  | f + 1, e, place :: rest, sofar => do
    nameFor .scalar "main::_" place
    let list ← inBlock (values f e)
    mapRounds f e rest (list :: sofar)
termination_by structural f => f

/-- The places of those values for which an expression holds. -/
def filterCells : Nat → Expr → List Nat → Act (List Nat)
  | 0, _, _ => throw .endless
  | f + 1, e, places =>
    inBlock do
      remember (.name "$main::_" (← get).shared["$main::_"]?)
      filterRounds f e places []
termination_by structural f => f

def filterRounds : Nat → Expr → List Nat → List Nat → Act (List Nat)
  | 0, _, _, _ => throw .endless
  | _, _, [], sofar => pure sofar.reverse
  | f + 1, e, place :: rest, sofar => do
    nameFor .scalar "main::_" place
    let v ← inBlock (value f e)
    filterRounds f e rest (if v.holds then place :: sofar else sofar)
termination_by structural f => f

def library : Nat → Want → String → Nat → Act (List Value)
  | 0, _, _, _ => throw .endless
  | f + 1, want, full, given => do
    let places := (← arrayAt given).toList
    let short := String.ofList ((full.toList.reverse.takeWhile (· != ':')).reverse)
    if ("List::Util::").isPrefixOf full && blockFunctions.contains short then
      match places with
      | [] => pure []
      | code :: rest => do
        let routine ← linked .code false (← scalarAt code)
        inBlock (withCode f short routine rest)
    else do libraryValues full (← valuesAt places) want
termination_by structural f => f

def withCode : Nat → String → Nat → List Nat → Act (List Value)
  | 0, _, _, _ => throw .endless
  | f + 1, name, routine, places => do
    let package := (← get).site.package
    let pair (a b : Value) : Act Unit := do
      setScalar (← sharedPlace .scalar (package ++ "::a")) a
      setScalar (← sharedPlace .scalar (package ++ "::b")) b
    let run (want : Want) : Act (List Value) := do
      call f want routine "__ANON__" (← newArray #[])
    match name with
    | "reduce" | "reductions" => do
      let list ← valuesAt places
      match list with
      | [] => pure (if name == "reduce" then [.unset] else [])
      | first :: rest => do
        let all ← rest.foldlM (fun (sofar : List Value) v => do
          pair (sofar.headD .unset) v
          pure ((← run .one).headD .unset :: sofar)) [first]
        pure (if name == "reduce" then all.take 1 else all.reverse)
    | "pairmap" | "pairgrep" => do
      let list ← valuesAt places
      let all ← (pairsIn list).mapM fun (a, b) => do
        pair a b
        if name == "pairmap" then run .all
        else do pure (if ((← run .one).headD .unset).holds then [a, b] else [])
      pure all.flatten
    | name => do
      remember (.name "$main::_" (← get).shared["$main::_"]?)
      let wanted : Bool := name == "first" || name == "any" || name == "notall"
      let stopsAt : Bool := name != "all" && name != "notall"
      let found ← firstWhere f routine stopsAt places
      match name, found with
      | "first", some place => do pure [← scalarAt place]
      | "first", none => pure [.unset]
      | _, found => pure [.ofBool (found.isSome == wanted)]
termination_by structural f => f

/-- The first place of a value for which a function holds or does not hold, as wanted. -/
def firstWhere : Nat → Nat → Bool → List Nat → Act (Option Nat)
  | 0, _, _, _ => throw .endless
  | _, _, _, [] => pure none
  | f + 1, routine, wanted, place :: rest => do
    nameFor .scalar "main::_" place
    let v := (← call f .one routine "__ANON__" (← newArray #[])).headD .unset
    if v.holds == wanted then pure (some place) else firstWhere f routine wanted rest
termination_by structural f => f

/-- Carries out statements, of which the last one has the values that are wanted. -/
def body : Nat → Want → List Stmt → Act (List Value)
  | 0, _, _ => throw .endless
  | _, want, [] => pure (asWanted want [])
  | f + 1, want, [stmt] =>
    match stmt with
    | .plain site e => do
      modify fun s => { s with site }
      let list ← valuesIn f want e
      if !(← get).warnings.isEmpty then drain f
      pure list
    | .choose site condition yes no => do
      modify fun s => { s with site }
      let v ← value f condition
      if v.holds then inBlock (body f want yes)
      else if no.isEmpty then pure (asWanted want [v])
      else inBlock (body f want no)
    | .bare site label inner continuing => do
      modify fun s => { s with site }
      let list ← tryCatch (inBlock (body f want inner)) fun stop =>
        match stop with
        | .leave .again meant => if isMeant meant label then body f want [stmt] else throw stop
        | .leave _ meant => if isMeant meant label then pure (asWanted want []) else throw stop
        | stop => throw stop
      let _ ← body f .none continuing
      pure list
    | stmt => do
      exec f stmt
      pure (asWanted want [])
  | f + 1, want, stmt :: rest => do
    exec f stmt
    body f want rest
termination_by structural f => f

def exec : Nat → Stmt → Act Unit
  | 0, _ => throw .endless
  | f + 1, stmt =>
    match stmt with
    | .nothing => pure ()
    | .plain site e => do
      modify fun s => { s with site }
      let _ ← valuesIn f .none e
      if !(← get).warnings.isEmpty then drain f
    | .choose _ _ _ _ | .bare _ _ _ _ => do
      let _ ← body f .none [stmt]
    | .loop site label condition wanted inner continuing =>
      rounds f site label condition wanted inner continuing
    | .counted site label first condition next inner =>
      inBlock do
        modify fun s => { s with site }
        match first with
        | some e => do
          let _ ← valuesIn f .none e
        | none => pure ()
        countedRounds f site label condition next inner
    | .each site label place list inner continuing => do
      modify fun s => { s with site }
      let ends? : Option (Value × Value) ← match list with
        | .several [.range _ _ a b] | .range _ _ a b => do
          let x ← value f a
          let y ← value f b
          pure (if isNumeric x && isNumeric y then some (x, y) else none)
        | _ => pure none
      inBlock do
        let v : Variable := match place with
          | some (.declare _ [some (_, v)] _) => v
          | some (.named .scalar v) => v
          | _ => .shared "main::_"
        match v with
        | .shared name =>
          let key := "$" ++ name
          remember (.name key (← get).shared[key]?)
        | _ => pure ()
        match ends? with
        | some (x, y) =>
          let first := x.amount.truncated
          eachNumber f v label first y.amount.truncated inner continuing
        | none => do eachCell f v label (← cells f true list) inner continuing
termination_by structural f => f

/-- Carries out the body of a loop. Tells whether the loop goes on. -/
def round : Nat → Option String → List Stmt → List Stmt → Act Bool
  | 0, _, _, _ => throw .endless
  | f + 1, label, inner, continuing => do
    let goesOn ← tryCatch (do
      let _ ← inBlock (body f .none inner)
      pure (some true)) fun stop =>
      match stop with
      | .leave .next meant => if isMeant meant label then pure (some true) else throw stop
      | .leave .last meant => if isMeant meant label then pure (some false) else throw stop
      | .leave .again meant => if isMeant meant label then pure none else throw stop
      | stop => throw stop
    match goesOn with
    | none => round f label inner continuing
    | some false => pure false
    | some true => do
      if !continuing.isEmpty then
        let _ ← inBlock (body f .none continuing)
      pure true
termination_by structural f => f

/-- Carries out a loop while a condition holds, or does not hold. -/
def rounds : Nat → Site → Option String → Option Expr → Bool → List Stmt → List Stmt → Act Unit
  | 0, _, _, _, _, _, _ => throw .endless
  | f + 1, site, label, condition, wanted, inner, continuing => do
    let goesOn ← inBlock do
      modify fun s => { s with site }
      let isOn ← match condition with
        | none => pure true
        | some e => do pure ((← value f e).holds == wanted)
      if isOn then round f label inner continuing else pure false
    if goesOn then rounds f site label condition wanted inner continuing
termination_by structural f => f

/-- Carries out a loop with a step between its rounds. -/
def countedRounds : Nat → Site → Option String → Option Expr → Option Expr → List Stmt → Act Unit
  | 0, _, _, _, _, _ => throw .endless
  | f + 1, site, label, condition, next, inner => do
    modify fun s => { s with site }
    let isOn ← match condition with
      | none => pure true
      | some e => do pure (← value f e).holds
    if isOn then
      if ← round f label inner [] then
        match next with
        | some e => do
          let _ ← valuesIn f .none e
        | none => pure ()
        countedRounds f site label condition next inner
termination_by structural f => f

/-- Carries out a round of a loop with a name for a place. Tells whether the loop goes on. -/
def roundFor : Nat → Variable → Option String → Nat → List Stmt → List Stmt → Act Bool
  | 0, _, _, _, _, _ => throw .endless
  | f + 1, v, label, place, inner, continuing =>
    match v with
    | .own number _ =>
      inBlock do
        modify fun s => { s with own := (number, place) :: s.own }
        round f label inner continuing
    | .shared name | .special name => do
      nameFor .scalar name place
      round f label inner continuing
termination_by structural f => f

def eachCell : Nat → Variable → Option String → List Nat → List Stmt → List Stmt → Act Unit
  | 0, _, _, _, _, _ => throw .endless
  | _, _, _, [], _, _ => pure ()
  | f + 1, v, label, place :: rest, inner, continuing => do
    if ← roundFor f v label place inner continuing then eachCell f v label rest inner continuing
termination_by structural f => f

def eachNumber : Nat → Variable → Option String → Int → Int → List Stmt → List Stmt → Act Unit
  | 0, _, _, _, _, _, _ => throw .endless
  | f + 1, v, label, first, last, inner, continuing => do
    if first ≤ last then
      let place ← newScalar (.ofInt first)
      if ← roundFor f v label place inner continuing then
        eachNumber f v label (first + 1) last inner continuing
termination_by structural f => f

def builtin : Nat → Want → String → List Expr → Act (List Value)
  | 0, _, _, _ => throw .endless
  | f + 1, want, name, given => do
    let one (v : Value) : List Value := asWanted want [v]
    let truth (b : Bool) : List Value := asWanted want [.ofBool b]
    let first := given.headD .topic
    match name with
    | "defined" => do pure (truth (← isThere f first))
    | "exists" => do
      match first with
      | .entry hash key => do
        let place ← container f .hash true hash
        pure (truth (← entry? place (← textOf (← value f key))).isSome)
      | .item array index => do
        let place ← container f .array true array
        pure (truth (← item? place (← value f index).amount.truncated).isSome)
      | e => do pure (truth (← isThere f e))
    | "delete" => do
      match first with
      | .entry hash key => do
        let place ← container f .hash true hash
        pure (one (← deleteEntry place (← textOf (← value f key))))
      | .item array index => do
        let place ← container f .array true array
        pure (one (← deleteItem place (← value f index).amount.truncated))
      | .entries hash keys => do
        let place ← container f .hash true hash
        let list ← (← values f keys).mapM fun v => do deleteEntry place (← textOf v)
        pure (asWanted want list)
      | .localized (.entry hash key) => do
        let place ← container f .hash true hash
        let k ← textOf (← value f key)
        let v ← match ← entry? place k with
          | some cell => scalarAt cell
          | none => pure .unset
        remember (.entry place k (← entry? place k))
        let _ ← deleteEntry place k
        pure (one v)
      | _ => pure (one .unset)
    | "keys" | "values" | "each" => walked f want name first
    | "scalar" => do pure (one (← value f first))
    | "push" | "unshift" => do
      let place ← container f .array true first
      let list ← listOf f (given.drop 1)
      if name == "push" then append place list
      else do
        let front ← newScalars list
        setArray place (front.toArray ++ (← arrayAt place))
      pure (one (.ofNat (← arrayAt place).size))
    | "pop" | "shift" => do
      let place ← match given with
        | e :: _ => container f .array true e
        | [] => do
          let inside : Bool := (← get).frames.any fun frame => !frame.isTrial
          sharedPlace .array (if inside then "main::_" else "main::ARGV")
      pure (one (← takeEnd (name == "shift") place))
    | "splice" => do
      let place ← container f .array true first
      let start ← match given[1]? with
        | some e => do pure (← value f e).amount.truncated
        | none => pure 0
      let length ← match given[2]? with
        | some e => do
          match ← value f e with
          | .unset => pure none
          | v => pure (some v.amount.truncated)
        | none => pure none
      let new ← listOf f (given.drop 3)
      pure (asWanted want (← spliceAt place start length new))
    | "undef" => do
      match first with
      | .named .array _ | .follow .array _ _ => do
        setArray (← container f .array true first) #[]
      | .named .hash _ | .follow .hash _ _ => do
        setTable (← container f .hash true first) {}
      | .call (.named .code v) none | .named .code v => do
        let place ← placeOf .code v
        modify fun s => { s with routines := s.routines.setIfInBounds place (.library "") }
      | .call (.follow .code strict inner) none => do
        let place ← linked .code strict (← value f inner)
        modify fun s => { s with routines := s.routines.setIfInBounds place (.library "") }
      | e => do setAt (← target f e) .unset
      pure (one .unset)
    | "chomp" | "chop" => do
      let places ← match first with
        | .named .scalar _ | .item _ _ | .entry _ _ | .follow .scalar _ _ => do
          pure [← cellOf (← target f first)]
        | _ => cellsOf f true given
      let results ← places.mapM fun place => do
        let v ← scalarAt place
        let text ← textFor first name v
        if name == "chomp" then do
          let (kept, count) ← withoutLineEnd text
          if count != 0 then setScalar place (.text kept)
          pure (Value.ofNat count)
        else do
          setScalar place (.text text.dropLast)
          pure (Value.text (text.drop (text.length - 1)))
      if name == "chomp" then
        pure (one (.ofInt (results.foldl (fun n v => n + v.amount.truncated) 0)))
      else pure (one (results.getLastD (.text [])))
    | "pos" => do
      let cell ← cellOf (← target f first)
      match (← get).positions[cell]? with
      | some n => pure (one (.ofNat (n / 2)))
      | none => pure (one .unset)
    | "substr" => do
      match given with
      | [text, start, length, new] => do
        let cell ← cellOf (← target f text)
        let before ← textOf (← scalarAt cell)
        let start := (← value f start).amount.truncated
        let length := (← value f length).amount.truncated
        let new ← textOf (← value f new)
        match partOf before.length start (some length) with
        | none => die "substr outside of string".toList
        | some (place, count) => do
          setScalar cell (.text (before.take place ++ new ++ before.drop (place + count)))
          pure (one (.text ((before.drop place).take count)))
      | _ => do
        let list ← singles f given
        doubtGiven "substr" given list
        let text ← textOf (list.headD .unset)
        let length := match list[2]? with
          | some .unset | none => none
          | some v => some v.amount.truncated
        match partOf text.length (list.getD 1 .unset).amount.truncated length with
        | none => do
          doubt "substr outside of string"
          pure (one .unset)
        | some (place, count) => pure (one (.text ((text.drop place).take count)))
    | "split" => do
      let text ← match given[1]? with
        | some e => do textFor e "split" (← value f e)
        | none => do textFor .topic "split" (← value f .topic)
      let limit ← match given[2]? with
        | some e => do pure (← value f e).amount.truncated
        | none => pure 0
      let pattern := given.headD (.ofText [' '])
      let list ← match pattern with
        | .constant (.text [' ']) => pure (splitWords text limit)
        | .rule (.constant (.text ['^'])) flags => do
          pure (splitText (← compiled ['^'] ('m' :: flags)) text limit)
        | .rule p flags => do
          let rule ← match p with
            | .constant (.text source) => compiled source flags
            | p => patternFor f p flags
          pure (splitText rule text limit)
        | e => do
          match ← value f e with
          | .text [' '] => pure (splitWords text limit)
          | .rule source flags => do pure (splitText (← compiled source flags) text limit)
          | v => do pure (splitText (← compiled (← textOf v) []) text limit)
      pure (if want = .all then list else one (.ofNat list.length))
    | "reverse" => do
      if want = .all then do pure (← listOf f given).reverse
      else do
        let list ← if given.isEmpty then do pure [← value f .topic] else listOf f given
        pure (one (.text ((← list.mapM textOf).flatten.reverse)))
    | "join" | "unlink" | "chmod" | "chown" | "utime" | "pack" | "vec" => do
      let list ← listOf f (if given.isEmpty then [.topic] else given)
      if name == "join" && list.any (fun v => !v.isDefined) then
        doubtUnset (.constant .unset) "join or string"
      pure (one (← applyAll name list))
    | "sprintf" => do
      match given with
      | e :: rest => do
        let pattern ← values f e
        let list ← listOf f rest
        pure (one (.text (← formatted "sprintf" (pattern ++ list))))
      | [] => pure (one (.text []))
    | "unpack" => do
      let list ← singles f (if given.length < 2 then given ++ [.topic] else given)
      let found := Piece.unpack (← textOf (list.headD .unset)) (← textOf (list.getD 1 .unset))
      pure (if want = .all then found else one (found.headD .unset))
    | "localtime" | "gmtime" => do
      let time ← match given with
        | e :: _ => do pure (← value f e).amount.truncated
        | [] => seconds
      timeParts (name == "localtime") time want
    | "times" =>
      pure (asWanted want [.number (.real 0.01), .ofInt 0, .ofInt 0, .ofInt 0])
    | "sleep" => do
      let nanoseconds ← match given with
        | e :: _ => do
          let v ← value f e
          doubtGiven "sleep" given [v]
          pure (v.amount.truncated.toNat * 1000000000)
        | [] => pure longest
      let before := (← get).sequel.time
      if ← pass nanoseconds then hear f "ALRM" 14
      pure (one (.ofNat (((← get).sequel.time - before) / 1000000000)))
    | "die" => do
      let list ← listOf f given
      match list with
      | [.link kind place] => dieWith f (.link kind place)
      | [.rule a b] => dieWith f (.rule a b)
      | list => do
        let text := (← list.mapM textOf).flatten
        let before ← common "@"
        let told ← textOf before
        if text.isEmpty && before.isLink then dieWith f before
        else
          let text := if text.isEmpty && !told.isEmpty then told ++ "\t...propagated".toList
            else if text.isEmpty then "Died".toList else text
          dieWith f (.text (← withPlace text))
    | "warn" => do
      let list ← listOf f given
      let told ← textOf (← common "@")
      let isEmpty : Bool := (← list.mapM textOf).flatten.isEmpty
      let text ← if isEmpty && !told.isEmpty then pure (told ++ "\t...caught".toList)
        else messageOf list "Warning: something's wrong"
      tell text
      drain f
      pure (one (.ofInt 1))
    | "exit" => do
      match given with
      | e :: _ => do leaveWith (← value f e).amount.truncated
      | [] => leaveWith 0
    | "system" | "exec" => do
      let list ← (← listOf f given).mapM textOf
      let words := match list with
        | [command] => wordsOf command
        | words => words
      if name == "system" then do pure (one (← runCommand words)) else do pure (one (← become words))
    | "kill" => do
      let list ← listOf f given
      let signal ← textOf (list.headD .unset)
      let plain := if ("SIG".toList).isPrefixOf signal then signal.drop 3 else signal
      let (negative, plain) := match plain with
        | '-' :: rest => (true, rest)
        | rest => (false, rest)
      match Signal.ofText? plain with
      | none => die ("Unrecognized signal name \"".toList ++ plain ++ ['"'])
      | some s => do
        let own := (list.drop 1).filter fun v => v.amount.truncated == (processNumber : Int) || negative
        if !own.isEmpty && s.number != 0 then hear f (String.ofList s.name) s.number
        if own.isEmpty && 1 < list.length then setError (.number 3)
        pure (one (.ofNat own.length))
    | "open" => do
      let t ← match first with
        | .constant (.glob n) => pure (Target.glob n)
        | e => target f e
      let v ← valueAt t
      let channel ← match v with
        | .unset => do
          let n ← newHandle first
          setAt t (.handle n)
          pure n
        | v => channelOf v
      let list ← singles f (given.drop 1)
      let list := if list.length < 3 then list else list.take 2
      let rest ← listOf f (given.drop 3)
      pure (one (← openBy channel (list ++ rest)))
    | "close" => do
      let channel ← match given with
        | e :: _ => channelFor f e
        | [] => do pure (← get).selected
      pure (truth (← close channel))
    | "binmode" => do
      let channel ← channelFor f first
      let layers ← match given[1]? with
        | some e => do textOf (← value f e)
        | none => pure []
      alterChannel channel fun c =>
        { c with wide := Octets.occursIn "utf".toList (Octets.lower layers) }
      pure (truth true)
    | "eof" => do
      let channel ← match given with
        | e :: _ => channelFor f e
        | [] => do pure (← get).readLast
      pure (truth (← isAtEnd channel))
    | "eof of all" => do
      let rest := (← arrayAt (← sharedPlace .array "main::ARGV")).size
      let isOpen : Bool := ((← get).channels["main::ARGV"]?).any (·.isOpen)
      let there ← if isOpen then pure true else nextFile (rest + 2)
      pure (truth (!there || (rest = 0 && (← isAtEnd "main::ARGV"))))
    | "fileno" => do pure (one (← numberOfFile (← channelFor f first)))
    | "readline" => valuesIn f want (.readLine (given.headD (.constant (.glob "main::ARGV"))))
    | "getc" => do
      let channel ← match given with
        | e :: _ => channelFor f e
        | [] => pure "main::STDIN"
      let text ← takeCharacters channel 1 portionLimit
      pure (one (if text.isEmpty then .unset else .text text))
    | "read" | "sysread" => do
      let channel ← channelFor f first
      let cell ← cellOf (← target f (given.getD 1 .topic))
      let numbers ← singles f (given.drop 2)
      let text ← takeCharacters channel (numbers.headD .unset).amount.truncated.toNat portionLimit
      let before ← textOf (← scalarAt cell)
      let offset := (numbers.getD 1 .unset).amount.truncated.toNat
      setScalar cell (.text (before.take offset ++
        List.replicate (offset - before.length) '\x00' ++ text))
      pure (one (.ofNat text.length))
    | "syswrite" => do
      let channel ← channelFor f first
      let list ← singles f (given.drop 1)
      let text ← textOf (list.headD .unset)
      let count := match list[1]? with
        | some v => (v.amount.truncated).toNat
        | none => text.length
      let offset := (list.getD 2 .unset).amount.truncated.toNat
      let shown := (text.drop offset).take count
      let kept := ((← get).channels[channel]?).map fun c => (c.printed, c.size)
      alterChannel channel fun c => { c with printed := [], size := 0 }
      let good ← printOn channel "syswrite" shown
      flush channel
      match kept with
      | some (printed, size) => alterChannel channel fun c => { c with printed, size }
      | none => pure ()
      pure (one (if good then .ofNat shown.length else .unset))
    | "seek" | "sysseek" => do
      let list ← singles f (given.drop 1)
      pure (one (← seekIn (← channelFor f first) (list.headD .unset).amount.truncated
        (list.getD 1 .unset).amount.truncated.toNat))
    | "tell" => do
      let channel ← match given with
        | e :: _ => channelFor f e
        | [] => do pure (← get).readLast
      pure (one (← tellIn channel))
    | "truncate" => do
      let list ← singles f given
      let path ← match list.headD .unset with
        | .glob n | .handle n => do pure ((((← get).channels[n]?).map (·.path)).getD [])
        | v => textOf v
      let size := (list.getD 1 .unset).amount.truncated.toNat
      match (← files).contents path with
      | .ok text => do
        let text := text.take size ++ List.replicate (size - text.length) '\x00'
        pure (truth (← change ((← files).write path text)))
      | .error e => do
        setError e
        pure (truth false)
    | "opendir" => do
      let path ← textOf (← value f (given.getD 1 .topic))
      let t ← match first with
        | .constant (.glob n) => pure (Target.glob n)
        | e => target f e
      let channel ← match ← valueAt t with
        | .unset => do
          let n ← newHandle first
          setAt t (.handle n)
          pure n
        | v => channelOf v
      pure (truth (← openDirectory channel path))
    | "readdir" => do readDirectory (← channelFor f first) want
    | "closedir" => do
      let channel ← channelFor f first
      modify fun s => { s with channels := s.channels.erase channel }
      pure (truth true)
    | "rewinddir" => do
      let channel ← channelFor f first
      alterChannel channel fun c => { c with names := c.namesTold ++ c.names, namesTold := [] }
      pure (truth true)
    | "select" => do
      match given with
      | [_, _, _, time] => do
        let v ← value f time
        let came ← match v with
          | .unset => pass longest
          | v => pass (v.amount.float * 1000000000.0).toUInt64.toNat
        if came then hear f "ALRM" 14
        pure (one (.ofInt 0))
      | [e] => do
        let before := (← get).selected
        let channel ← channelFor f e
        modify fun s => { s with selected := channel }
        pure (one (.ofString before))
      | _ => do pure (one (.ofString (← get).selected))
    | "caller" => do
      let frames := (← get).frames
      let n ← match given with
        | e :: _ => do pure (← value f e).amount.truncated.toNat
        | [] => pure 0
      match frames[n]? with
      | none => pure (asWanted want [])
      | some frame =>
        let here : List Value :=
          [.ofString frame.site.package, .text frame.site.file, .ofNat frame.site.line]
        let wanted : Value := match frame.want with
          | .all => .ofInt 1
          | .one => .text []
          | .none => .unset
        if want = .all then
          pure (if given.isEmpty then here
            else here ++ [.ofString frame.name, .ofInt (if frame.isTrial then 0 else 1), wanted])
        else pure (one (.ofString frame.site.package))
    | "wantarray" => do
      let frame := (← get).frames.find? fun frame => !frame.isTrial
      let wanted : Value := match frame with
        | some frame => if frame.want = .all then .ofInt 1
            else if frame.want = .one then .ofBool false else .unset
        | none => .unset
      pure (one wanted)
    | "__SUB__" => do
      match (← get).frames.find? fun frame => !frame.isTrial with
      | some frame => pure (one (.link .code frame.routine))
      | none => pure (one .unset)
    | "bless" => do
      let v ← value f first
      let c ← match given[1]? with
        | some e => do textOf (← value f e)
        | none => do pure (← get).site.package.toList
      match v with
      | .link kind place => do
        modify fun s => { s with classes := s.classes.insert (classKey kind place) (String.ofList c) }
        pure (one v)
      | .handle n => do
        modify fun s =>
          { s with classes := s.classes.insert (Value.addressOfName n) (String.ofList c) }
        pure (one v)
      | _ => die "Can't bless non-reference value".toList
    | "stat" | "lstat" => do
      let path ← match ← value f first with
        | .glob n | .handle n => do
          pure ((((← get).channels[n]?).map (·.path)).getD [])
        | v => textOf v
      let list ← factsOf path (name == "stat")
      pure (if want = .all then list else truth !list.isEmpty)
    | "isa" => do
      let v ← value f first
      let c ← textOf (← value f (given.getD 1 .topic))
      match ← classOf? v with
      | none => pure (truth false)
      | some own => do pure (truth ((← lineage 50 own).any fun p => p.toList == c))
    | "keys of" => do
      let texts ← (← listOf f given).mapM textOf
      pure (one (.text (Octets.joined (← textOf (← common ";")) texts)))
    | "expects" => do
      let least := (← value f first).amount.truncated
      let most ← value f (given.getD 1 .topic)
      let count : Int := (← arrayAt (← sharedPlace .array "main::_")).size
      let title := (((← get).frames.head?.map (·.name)).getD "").toList
      let refused (what : String) (bound : Octets) : Act (List Value) := do
        let site := (((← get).frames.head?).map (·.site)).getD {}
        modify fun s => { s with site }
        die (what.toList ++ " arguments for subroutine '".toList ++ title ++ "' (got ".toList ++
          Octets.ofInt count ++ "; expected ".toList ++ bound ++ [')'])
      let isFixed : Bool := most.isDefined && most.amount.truncated == least
      if count < least then
        refused "Too few" ((if isFixed then [] else "at least ".toList) ++ Octets.ofInt least)
      else if most.isDefined && most.amount.truncated < count then
        refused "Too many" ((if isFixed then [] else "at most ".toList) ++
          Octets.ofInt most.amount.truncated)
      else pure []
    | "require" => do
      match given with
      | [.constant (.number _)] => pure (truth true)
      | _ => do
        let list ← singles f given
        let file ← textOf (list.headD .unset)
        if isModuleFile file then pure (truth true)
        else
          let loaded ← sharedPlace .hash "main::INC"
          match ← entry? loaded file with
          | some _ => pure (truth true)
          | none =>
            match ← fileText? file with
            | some text => do
              setScalar (← entry loaded file) (.text file)
              let list ← runFile f .one text file
              if (list.headD .unset).holds then pure (asWanted want list)
              else die (file ++ " did not return a true value".toList)
            | none => do
              let asked ← match list[1]? with
                | some v => do pure (some (← textOf v))
                | none => pure none
              setError FileTree.notFound
              die (notLocated file asked)
    | "do" => do
      let file ← textOf (← value f first)
      match ← fileText? file with
      | some text => do trial want (runFile f want text file)
      | none => do
        setError FileTree.notFound
        pure (one .unset)
    | "goto" => do
      let label ← textOf (← value f first)
      die ("Can't find label ".toList ++ label)
    | name => do
      if singleValued.contains name then
        let list ← singles f given
        doubtGiven name given list
        pure (one (← apply name list))
      else do
        let _ ← listOf f given
        pure (one .unset)
termination_by structural f => f

def isThere : Nat → Expr → Act Bool
  | 0, _ => throw .endless
  | f + 1, e => do
    match e with
    | .named .array _ | .follow .array _ _ => do
      pure ((← arrayAt (← container f .array false e)).size != 0)
    | .named .hash _ | .follow .hash _ _ => do
      pure ((← tableAt (← container f .hash false e)).size != 0)
    | .named .code (.shared name) | .call (.named .code (.shared name)) none => do
      pure (← function? name).isSome
    | .follow .code _ inner | .call (.follow .code _ inner) none => do
      match ← value f inner with
      | .link .code _ => pure true
      | .unset => pure false
      | v => do pure (← function? (← nameOf (← textOf v))).isSome
    | .several [inner] => isThere f inner
    | e => do pure (← value f e).isDefined
termination_by structural f => f

/-- Keys or values of a hash or an array, or the next pair of them. -/
def walked : Nat → Want → String → Expr → Act (List Value)
  | 0, _, _, _ => throw .endless
  | f + 1, want, name, e => do
    let isArray : Bool := match e with
      | .named .array _ | .follow .array _ _ => true
      | _ => false
    if isArray then do
      let list ← valuesOf (← container f .array true e)
      if want != .all then pure (asWanted want [.ofNat list.length])
      else if name == "keys" then pure ((List.range list.length).map Value.ofNat)
      else if name == "values" then pure list
      else pure (list.zipIdx.flatMap fun (v, n) => [.ofNat n, v])
    else do
      let place ← container f .hash true e
      if name == "each" then nextPair place want
      else do
        let t ← tableAt place
        setTable place { t with told := 0 }
        if want != .all then pure (asWanted want [.ofNat t.size])
        else if name == "keys" then pure (t.keys.toList.map Value.text)
        else valuesAt (t.keys.toList.filterMap t.get?)
termination_by structural f => f

end

/-! ## Whole scripts -/

/-- The most steps that a script can take into its parts or in its rounds. -/
def stepLimit : Nat := 1000000000000

/-- Ends with the status of a failure that nobody has caught. -/
def failed (v : Value) : Act Unit := do
  let text ← textOf v
  alterSequel fun q => q.prints .errors text
  let error := ((← get).error % 256).toNat
  let child := ((← common "?").amount.truncated / 256 % 256).toNat
  modify fun s =>
    { s with status := if error != 0 then error else if child != 0 then child else 255 }

/-- Runs something as the outermost part of a script. Tells whether there is an end to it. -/
def outermost (work : Act Unit) : Act Bool := do
  tryCatch (do
    work
    pure true) fun stop =>
    match stop with
    | .failure v => do
      failed v
      pure true
    | .exit => pure true
    | .giveBack _ => pure true
    | .leave how label => do
      let word : String := match how with
        | .next => "next"
        | .last => "last"
        | .again => "redo"
      let text : Octets ← match label with
        | some l => withPlace ("Label not found for \"".toList ++ word.toList ++ ' ' :: l.toList ++ ['"'])
        | none => withPlace ("Can't \"".toList ++ word.toList ++ "\" outside a loop block".toList)
      failed (.text text)
      pure true
    | .endless => pure false

/-- Runs what is done when everything else has been done. -/
def finish : Nat → Act Unit
  | 0 => pure ()
  | rounds + 1 => do
    match (← get).finals with
    | [] => pure ()
    | first :: rest => do
      modify fun s => { s with finals := rest }
      let _ ← outermost do
        setCommon "?" (.ofNat (← get).status)
        let _ ← body stepLimit .none first
        let status := (← common "?").amount.truncated
        modify fun s => { s with status := (status % 256).toNat }
      finish rounds

def whole (script : Script) : Act Unit := do
  let ends ← outermost do
    install script
    script.starts.forM fun start => do
      let _ ← body stepLimit .none start
    let _ ← body stepLimit .none script.body
  if ends then
    finish 1000
    flushAll
    let names := (← get).channels.toList.filter fun (_, c) => c.isOpen && c.command.isSome
    names.forM fun (name, _) => do
      let _ ← close name
  else
    flushAll
    alterSequel fun q => { q with time := max q.time longest }

end CommandChains.Machine.Scripting.Act
