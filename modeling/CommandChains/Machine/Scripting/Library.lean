import CommandChains.Machine.Scripting.Builtin

/-!
# Functions of modules

What the functions of modules make of the values that they are given, as far as they are given no
code.
-/

namespace CommandChains.Machine.Scripting.Act

/-! ## Lists -/

/-- The first ones of values that are the same as texts. -/
def distinct (values : List Value) : Act (List Value) := do
  let rec go (seen : Std.HashMap Octets Unit) : List Value → Act (List Value)
    | [] => pure []
    | v :: rest => do
      let key ← textOf v
      if seen.contains key then go seen rest
      else do
        let others ← go (seen.insert key ()) rest
        pure (v :: others)
  go {} values

def extreme (greatest : Bool) : List Value → Value
  | [] => .unset
  | first :: rest =>
    .number (rest.foldl (fun n v =>
      let wanted : Ordering := if greatest then .gt else .lt
      if v.amount.compare? n == some wanted then v.amount else n) first.amount)

/-- The last or the first of texts in their order. -/
def extremeText (last : Bool) (values : List Value) : Act Value := do
  let texts ← values.mapM textOf
  match texts with
  | [] => pure .unset
  | first :: rest =>
    pure (.text (rest.foldl (fun t s =>
      if last then if Octets.atMost s t then t else s
      else if Octets.atMost t s then t else s) first))

def pairsIn : List Value → List (Value × Value)
  | [] => []
  | [a] => [(a, .unset)]
  | a :: b :: rest => (a, b) :: pairsIn rest

def shuffled : Nat → List Value → Act (List Value)
  | 0, values => pure values
  | rounds + 1, values => do
    if values.isEmpty then pure []
    else do
      let n := ((← random) * values.length.toFloat).toUInt64.toNat
      let first := values.getD n .unset
      let others ← shuffled rounds (values.eraseIdx n)
      pure (first :: others)

/-- So many values from the beginning, or all but so many if the number is negative. -/
def headOf (n : Int) (values : List Value) : List Value :=
  if 0 ≤ n then values.take n.toNat else values.take (values.length - n.natAbs)

/-- So many values from the end, or all but so many if the number is negative. -/
def tailOf (n : Int) (values : List Value) : List Value :=
  if 0 ≤ n then values.drop (values.length - n.toNat) else values.drop n.natAbs

def listFunction (name : String) (values : List Value) (want : Want) : Act (List Value) := do
  let sum (start : Number) (op : Number → Number → Number) : Value :=
    .number (values.foldl (fun n v => op n v.amount) start)
  let several (list : List Value) : List Value :=
    if want = .all then list else [.ofNat list.length]
  match name with
  | "sum" => pure [if values.isEmpty then .unset else sum (.whole 0) Number.add]
  | "sum0" => pure [sum (.whole 0) Number.add]
  | "product" => pure [sum (.whole 1) Number.mul]
  | "max" => pure [extreme true values]
  | "min" => pure [extreme false values]
  | "maxstr" => do pure [← extremeText true values]
  | "minstr" => do pure [← extremeText false values]
  | "uniq" | "uniqstr" => do pure (several (← distinct values))
  | "uniqnum" => do
    pure (several (← distinct (values.map fun v => .number v.amount.settled)))
  | "uniqint" => do
    pure (several (← distinct (values.map fun v => .ofInt v.amount.truncated)))
  | "shuffle" => shuffled values.length values
  | "sample" => do
    let n := (values.headD .unset).amount.truncated.toNat
    pure ((← shuffled values.length (values.drop 1)).take n)
  | "head" => pure (headOf (values.headD .unset).amount.truncated (values.drop 1))
  | "tail" => pure (tailOf (values.headD .unset).amount.truncated (values.drop 1))
  | "pairkeys" => pure (several ((pairsIn values).map (·.1)))
  | "pairvalues" => pure (several ((pairsIn values).map (·.2)))
  | "pairs" => do
    let made ← (pairsIn values).mapM fun (a, b) => do
      let place ← newArray #[]
      setValues place [a, b]
      pure (Value.link .array place)
    pure (several made)
  | _ => pure []

/-! ## Values -/

def valueFunction (name : String) (values : List Value) : Act Value := do
  let v := values.headD .unset
  match name with
  | "blessed" => do
    match ← classOf? v with
    | some c => pure (.ofString c)
    | none => pure .unset
  | "reftype" => do
    let kind ← kindOf v
    pure (if kind.isEmpty then .unset else .ofString kind)
  | "refaddr" => pure (if v.isLink then .number v.amount else .unset)
  | "looks_like_number" =>
    pure (.ofBool (match v with
      | .number _ | .dual _ _ => true
      | .text s => Number.isText s
      | _ => false))
  | "dualvar" => do
    pure (.dual v.amount.truncated (← textOf (values.getD 1 .unset)))
  | "readonly" => pure (.ofNat 0)
  | "openhandle" => do
    match v with
    | .unset => pure .unset
    | v =>
      let name ← channelOf v
      pure (if ((← get).channels[name]?).any (·.isOpen) then v else .unset)
  | _ => pure v

/-! ## Numbers of the system -/

def namedNumbers : List (String × Int) :=
  [("INT_MAX", 2147483647), ("INT_MIN", -2147483648), ("UINT_MAX", 4294967295),
    ("LONG_MAX", 9223372036854775807), ("LONG_MIN", -9223372036854775808), ("CHAR_BIT", 8),
    ("SHRT_MAX", 32767), ("SHRT_MIN", -32768), ("RAND_MAX", 2147483647), ("PATH_MAX", 4096),
    ("EXIT_SUCCESS", 0), ("EXIT_FAILURE", 1), ("ENOENT", 2), ("EACCES", 13), ("EEXIST", 17),
    ("EINVAL", 22), ("WNOHANG", 1), ("SIGHUP", 1), ("SIGINT", 2), ("SIGKILL", 9), ("SIGUSR1", 10),
    ("SIGUSR2", 12), ("SIGALRM", 14), ("SIGTERM", 15), ("LC_ALL", 6), ("FLT_RADIX", 2),
    ("O_RDONLY", 0), ("O_WRONLY", 1), ("O_RDWR", 2), ("O_CREAT", 64), ("O_EXCL", 128),
    ("O_TRUNC", 512), ("O_APPEND", 1024), ("LOCK_SH", 1), ("LOCK_EX", 2), ("LOCK_NB", 4),
    ("LOCK_UN", 8), ("SEEK_SET", 0), ("SEEK_CUR", 1), ("SEEK_END", 2)]

def namedReals : List (String × Float) :=
  [("DBL_MAX", 1.7976931348623157e308), ("DBL_MIN", 2.2250738585072014e-308),
    ("DBL_EPSILON", 2.220446049250313e-16), ("FLT_MAX", 3.4028234663852886e38),
    ("FLT_EPSILON", 1.1920928955078125e-7), ("M_PI", 3.141592653589793),
    ("INFINITY", 1.0 / 0.0), ("NAN", 0.0 / 0.0)]

/-- A number without its fraction, towards nought, or to the nearest one. -/
def roundedTo (name : String) (x : Float) : Float :=
  match name with
  | "floor" => x.floor
  | "ceil" => x.ceil
  | "trunc" => if x < 0 then x.ceil else x.floor
  | _ => x.round

def realOf? (name : String) : Option (Float → Float) :=
  match name with
  | "floor" | "ceil" | "trunc" | "round" | "lround" => some (roundedTo name)
  | "tan" => some Float.tan
  | "asin" => some Float.asin
  | "acos" => some Float.acos
  | "atan" => some Float.atan
  | "sinh" => some Float.sinh
  | "cosh" => some Float.cosh
  | "tanh" => some Float.tanh
  | "log10" => some Float.log10
  | "log2" => some Float.log2
  | "cbrt" => some Float.cbrt
  | "fabs" | "abs" => some Float.abs
  | _ => none

/-- The moment that numbers of a clock and a calendar mean. -/
def momentOfParts (parts : List Value) : Calendar.Moment :=
  let number (n : Nat) : Int := (parts.getD n .unset).amount.truncated
  let months := number 4
  let year := number 5 + 1900 + months / 12
  let first := Calendar.Date.number ⟨year, (months % 12).toNat + 1, 1⟩
  Calendar.momentOf {} (first + number 3 - 1) (number 2) (number 1) (number 0)

/-- The number of digits to a base with a sign, and how much is behind them. -/
def wholeIn (base : Nat) (text : Octets) : Int × Nat :=
  let text := text.dropWhile Octets.isSpace
  let (negative, body) := match text with
    | '-' :: rest => (true, rest)
    | '+' :: rest => (false, rest)
    | rest => (false, rest)
  let isMarked : Bool := base = 16 && ("0x".toList).isPrefixOf (Octets.lower body)
  let body := if isMarked then body.drop 2 else body
  let digits := body.takeWhile fun c => (Octets.digit? c).any (· < base)
  let n : Int := Octets.valueOf base (Octets.digitsOf base digits.length digits)
  (if negative then -n else n, body.length - digits.length)

def systemFunction (name : String) (values : List Value) (want : Want) : Act (List Value) := do
  let value (n : Nat) : Value := values.getD n .unset
  let x := (value 0).amount.float
  let y := (value 1).amount.float
  let real (x : Float) : List Value := [.number (Number.real x).settled]
  match namedNumbers.lookup name, namedReals.lookup name, realOf? name with
  | some n, _, _ => pure [.ofInt n]
  | none, some x, _ => pure [.number (.real x)]
  | none, none, some function => pure (real (function x))
  | none, none, none =>
    match name with
    | "fmod" =>
      let q := x / y
      pure (real (x - y * (if q < 0 then q.ceil else q.floor)))
    | "pow" => pure (real (Float.pow x y))
    | "fmin" => pure (real (if y < x then y else x))
    | "fmax" => pure (real (if x < y then y else x))
    | "ldexp" => pure (real (x * Float.pow 2.0 y))
    | "isnan" => pure [.ofInt (if x.isNaN then 1 else 0)]
    | "isinf" => pure [.ofInt (if x.isInf then 1 else 0)]
    | "modf" =>
      let w := if x < 0 then x.ceil else x.floor
      pure (real (x - w) ++ real w)
    | "strftime" => do
      let template ← textOf (value 0)
      pure [.text (Calendar.shown template (momentOfParts (values.drop 1)))]
    | "mktime" => pure [.ofInt (momentOfParts values).seconds]
    | "ctime" => do
      let texts ← timeParts true (value 0).amount.truncated .one
      pure (texts.map fun v => .text (v.plainText ++ ['\n']))
    | "asctime" =>
      let r := (momentOfParts values).reading {}
      pure [.text (Calendar.display r 80 "%a %b %e %H:%M:%S %Y\n".toList)]
    | "strtol" => do
      let base := if values.length < 2 then 10 else (value 1).amount.truncated.toNat
      let (n, left) := wholeIn base (← textOf (value 0))
      pure (if want = .all then [.ofInt n, .ofNat left] else [.ofInt n])
    | "strtod" => do
      let (n, left) := Number.leading (← textOf (value 0))
      pure (if want = .all then [.number n, .ofNat left.length] else [.number n])
    | "toupper" => do pure [.text (upperCase (← textOf (value 0)))]
    | "tolower" => do pure [.text (Octets.lower (← textOf (value 0)))]
    | "isatty" => pure [.ofBool false]
    | "getpid" => pure [.ofNat processNumber]
    | "strerror" => pure [.ofString (SystemError.describe (value 0).amount.truncated)]
    | "strstr" => do
      pure [.ofInt (match placeFrom (← textOf (value 1)) (← textOf (value 0)) 0 with
        | some n => n
        | none => -1)]
    | "WIFEXITED" => pure [.ofBool ((value 0).amount.truncated % 128 == 0)]
    | "WEXITSTATUS" => pure [.ofInt ((value 0).amount.truncated / 256 % 256)]
    | "WIFSIGNALED" => pure [.ofBool ((value 0).amount.truncated % 128 != 0)]
    | "WTERMSIG" => pure [.ofInt ((value 0).amount.truncated % 128)]
    | "uname" =>
      pure (["Linux", "localhost", "6.1.0", "#1 SMP", "x86_64"].map Value.ofString)
    | "setlocale" => pure [.ofString "C"]
    | "_exit" => do
      modify fun s => { s with status := ((value 0).amount.truncated % 256).toNat, finals := [] }
      throw .exit
    | "pause" => do
      let _ ← pass longest
      pure [.unset]
    | _ => pure [.unset]

/-! ## Paths -/

/-- The directory of a path with a slash behind it, and the rest. -/
def directoryAndName (path : Octets) : Octets × Octets :=
  let name := (path.reverse.takeWhile (· != '/')).reverse
  (path.take (path.length - name.length), name)

/-- A name without one of some ends, and that end. -/
def withoutSuffix (name : Octets) (suffixes : List Octets) : Octets × Octets :=
  match suffixes.find? fun s => s.reverse.isPrefixOf name.reverse && s.length < name.length with
  | some s => (name.take (name.length - s.length), s)
  | none => (name, [])

def directoryOf (path : Octets) : Octets :=
  let trim (p : Octets) : Octets :=
    if p.all (· == '/') then p.take 1 else (p.reverse.dropWhile (· == '/')).reverse
  let (directory, name) := directoryAndName path
  if name.isEmpty then
    let above := (directoryAndName (trim path)).1
    if path.all (· == '/') then ['/'] else if above.isEmpty then ['.'] else trim above
  else if directory.isEmpty then ['.'] else trim directory

def pathFunction (name : String) (values : List Value) : Act (List Value) := do
  let path ← textOf (values.headD .unset)
  let suffixes ← (values.drop 1).mapM textOf
  match name with
  | "basename" =>
    let trimmed := if path.all (· == '/') then path.take 1
      else (path.reverse.dropWhile (· == '/')).reverse
    if trimmed == ['/'] then pure [.text trimmed]
    else pure [.text (withoutSuffix (directoryAndName trimmed).2 suffixes).1]
  | "dirname" => pure [.text (directoryOf path)]
  | "fileparse" =>
    let (directory, base) := directoryAndName path
    let (front, suffix) := withoutSuffix base suffixes
    pure ([front, if directory.isEmpty then ['.', '/'] else directory, suffix].map Value.text)
  | "cwd" | "getcwd" => do pure [.text (← files).herePath]
  | "abs_path" | "realpath" => do
    match (← files).place (if path.isEmpty then ['.'] else path) with
    | .ok place => pure [.text (FileTree.pathOf place.steps)]
    | .error _ => pure [.unset]
  | _ => pure []

/-! ## Complaints for others -/

def callerPlace : Act Octets := do
  let s ← get
  let site := ((s.frames.find? fun frame => !frame.isTrial).map (·.site)).getD s.site
  modify fun s => { s with site }
  let text ← placeText
  modify fun t => { t with site := s.site }
  pure text

def complain (name : String) (values : List Value) : Act (List Value) := do
  let text := (← values.mapM textOf).flatten
  match name with
  | "croak" | "confess" =>
    match values with
    | [.link kind place] => throw (.failure (.link kind place))
    | _ => do throw (.failure (.text (text ++ (← callerPlace))))
  | _ => do
    tell (text ++ (← callerPlace))
    pure [.ofInt 1]

/-- The values of a function of a module that is given no code. -/
def libraryValues (full : String) (values : List Value) (want : Want) : Act (List Value) := do
  let name := String.ofList ((full.toList.reverse.takeWhile (· != ':')).reverse)
  let package := String.ofList ((full.toList.reverse.dropWhile (· != ':')).drop 2).reverse
  match package with
  | "List::Util" => listFunction name values want
  | "Scalar::Util" => do pure [← valueFunction name values]
  | "POSIX" | "Fcntl" | "Errno" =>
    if name == "getcwd" then pathFunction name values else systemFunction name values want
  | "Cwd" | "File::Basename" => pathFunction name values
  | "Carp" => complain name values
  | _ => pure []

/-!
## Operations of scripts

What is computed from two values, which values lie between two others, and how what was computed
is given to somebody who wants one value, all of them or none.
-/

variable {α : Type}

/-! ## Two values -/

/-- The characters of two texts combined. Where one text has ended the other goes on, unless both
have to be there. -/
def combined (both : Bool) (op : Nat → Nat → Nat) : Octets → Octets → Octets
  | a :: as, b :: bs => Char.ofNat (op a.toNat b.toNat) :: combined both op as bs
  | [], rest => if both then [] else rest
  | rest, [] => if both then [] else rest

def bitwise (op : Operation) (a b : Nat) : Nat :=
  match op with
  | .bitAnd => Nat.land a b
  | .bitOr => Nat.lor a b
  | _ => Nat.xor a b

/-- A number shifted by so many bits, to the other side if the number of bits is negative. -/
def shifted (left : Bool) (n : Nat) (bits : Int) : Nat :=
  let left := if bits < 0 then !left else left
  let size := bits.natAbs
  if 64 ≤ size then 0
  else if left then (n <<< size) % Number.words.toNat
  else n >>> size

def arithmetic (op : Operation) (m n : Number) : Act Value := do
  match op with
  | .add => pure (.number (m.add n))
  | .sub => pure (.number (m.sub n))
  | .mul => pure (.number (m.mul n))
  | .div =>
    if n.isZero then die "Illegal division by zero".toList else pure (.number (m.div n))
  | .mod =>
    if n.truncated = 0 then die "Illegal modulus zero".toList else pure (.number (m.mod n))
  | .pow => pure (.number (m.pow n))
  | .left => pure (.ofNat (shifted true m.word n.truncated))
  | .right => pure (.ofNat (shifted false m.word n.truncated))
  | .bitAnd | .bitOr | .bitXor => pure (.ofNat (bitwise op m.word n.word))
  | op =>
    let order := m.compare? n
    match op with
    | .less => pure (.ofBool (order == some .lt))
    | .greater => pure (.ofBool (order == some .gt))
    | .atMost => pure (.ofBool (order == some .lt || order == some .eq))
    | .atLeast => pure (.ofBool (order == some .gt || order == some .eq))
    | .equal => pure (.ofBool (order == some .eq))
    | .unequal => pure (.ofBool (order != some .eq))
    | _ =>
      match order with
      | some .lt => pure (.ofInt (-1))
      | some .eq => pure (.ofInt 0)
      | some .gt => pure (.ofInt 1)
      | none => pure .unset

def textual (op : Operation) (s t : Octets) : Value :=
  let before := !Octets.atMost t s
  let after := !Octets.atMost s t
  match op with
  | .before => .ofBool before
  | .after => .ofBool after
  | .notAfter => .ofBool !after
  | .notBefore => .ofBool !before
  | .same => .ofBool (s == t)
  | .different => .ofBool (s != t)
  | _ => .ofInt (if before then -1 else if after then 1 else 0)

def isTextual : Operation → Bool
  | .before | .after | .notAfter | .notBefore | .same | .different | .textOrder => true
  | _ => false

def isBitwise : Operation → Bool
  | .bitAnd | .bitOr | .bitXor => true
  | _ => false

def isPlainText : Value → Bool
  | .text _ => true
  | _ => false

def compute (op : Operation) (first second : Expr) (a b : Value) : Act Value := do
  if op = .join then
    pure (.text ((← textFor first op.title a) ++ (← textFor second op.title b)))
  else if isTextual op then
    let s ← textFor first op.title a
    let t ← textFor second op.title b
    pure (textual op s t)
  else if isBitwise op && isPlainText a && isPlainText b then
    pure (.text (combined (op = .bitAnd) (bitwise op) a.plainText b.plainText))
  else
    -- What is doubtful about the second value is told first.
    let isLate : Bool := match op with
      | .add | .sub | .mul | .div | .mod | .pow => true
      | _ => false
    if isLate then
      let n ← numberOf second op.title b
      let m ← numberOf first op.title a
      arithmetic op m n
    else
      let m ← numberOf first op.title a
      let n ← numberOf second op.title b
      arithmetic op m n

/-- A value with the other sign. A word gets a sign in front. -/
def negated (e : Expr) (v : Value) : Act Value := do
  match v with
  | .text ('-' :: rest) =>
    if rest.head?.any beginsWord then pure (.text ('+' :: rest))
    else do pure (.number (← numberOf e "negation (-)" v).neg)
  | .text ('+' :: rest) =>
    if rest.head?.any beginsWord then pure (.text ('-' :: rest))
    else do pure (.number (← numberOf e "negation (-)" v).neg)
  | .text s =>
    if s.head?.any beginsWord then pure (.text ('-' :: s))
    else do pure (.number (← numberOf e "negation (-)" v).neg)
  | v => do pure (.number (← numberOf e "negation (-)" v).neg)

/-! ## Ranges -/

/-- Whether a value is an end of a range of numbers. -/
def isNumeric : Value → Bool
  | .text s => Number.isText s && !((s.head? = some '0') && 1 < s.length)
  | _ => true

/-- The texts from one to another that is as long at most. -/
def textRange (last : Octets) : Nat → Octets → List Value
  | 0, _ => []
  | rounds + 1, s =>
    if last.length < s.length then []
    else if s == last then [.text s]
    else .text s :: textRange last rounds (Value.nextBackwards s.reverse).reverse

def range (a b : Value) : Act (List Value) := do
  if isNumeric a && isNumeric b then
    let first := a.amount.truncated
    let last := b.amount.truncated
    pure ((List.range (last + 1 - first).toNat).map fun (n : Nat) => .ofInt (first + n))
  else
    let first ← textOf a
    let last ← textOf b
    if !Value.isLabel first then
      pure (if last.length < first.length then [] else [.text first])
    else pure (textRange last 10000000 first)

/-! ## What is wanted -/

def asWanted (want : Want) (values : List Value) : List Value :=
  match want with
  | .none => []
  | .one => [values.getLastD .unset]
  | .all => values

def newScalars (values : List Value) : Act (List Nat) :=
  modifyGet fun s =>
    let first := s.scalars.size
    ((List.range values.length).map fun n => first + n,
      { s with scalars := s.scalars.appendList values })

def valuesAt (places : List Nat) : Act (List Value) := do
  let s ← get
  pure (places.map fun p => (s.scalars[p]?).getD .unset)

/-- Does what a function does with what it is given, and tells its values. Names are known again
behind it as in front of it. -/
def inCall (frame : Frame) (own : List (Nat × Nat)) (given : Nat) (work : Act (List Value)) :
    Act (List Value) := do
  let before := (← get).own
  let found := (← get).found
  let frames := (← get).frames
  let site := (← get).site
  let count := (← get).restores.length
  let key := "@main::_"
  let list := (← get).shared[key]?
  modify fun s =>
    { s with own, frames := frame :: frames, shared := s.shared.insert key given }
  let result ← tryCatch (do pure (Except.ok (← work))) fun stop =>
    match stop with
    | .giveBack values => pure (Except.ok values)
    | stop => pure (Except.error stop)
  putBackTo count
  modify fun s =>
    { s with
      own := before, found, frames, site
      shared := match list with
        | some place => s.shared.insert key place
        | none => s.shared.erase key }
  match result with
  | .ok values => pure values
  | .error stop => throw stop

/-- Does something that may fail, and notes why it has. -/
def trial (want : Want) (work : Act (List Value)) : Act (List Value) := do
  let frames := (← get).frames
  let site := (← get).site
  let frame : Frame := { name := "(eval)", want, site, routine := 0, isTrial := true }
  modify fun s => { s with frames := frame :: frames }
  let result ← tryCatch (do pure (Except.ok (← work))) fun stop => pure (Except.error stop)
  modify fun s => { s with frames }
  match result with
  | .ok values => do
    setCommon "@" (.text [])
    pure values
  | .error (.giveBack values) => do
    setCommon "@" (.text [])
    pure values
  | .error (.failure v) => do
    modify fun s => { s with site }
    setCommon "@" v
    pure (asWanted want [])
  | .error stop => throw stop

def isMeant (meant label : Option String) : Bool :=
  match meant with
  | none => true
  | some l => label == some l

def listener? (name : String) : Act (Option Nat) := do
  match (← get).shared["%main::SIG"]? with
  | none => pure none
  | some table =>
    match ← entry? table name.toList with
    | none => pure none
    | some place =>
      match ← scalarAt place with
      | .link .code routine => pure (some routine)
      | .text s =>
        if s.isEmpty || s == "DEFAULT".toList || s == "IGNORE".toList then pure none
        else do function? (← nameOf s)
      | _ => pure none

def isIgnored (name : String) : Act Bool := do
  match (← get).shared["%main::SIG"]? with
  | none => pure false
  | some table =>
    match ← entry? table name.toList with
    | none => pure false
    | some place => do pure ((← scalarAt place).plainText == "IGNORE".toList)

def setFound (rule : Ordered.Compiled) (text : Array Char) (m : Match) : Act Unit :=
  modify fun s =>
    { s with
      found := some { text, start := m.start, stop := m.stop, groups := m.groups
                      names := rule.names, count := rule.groups }
      lastRule := some rule }

def compiled (source flags : Octets) : Act Ordered.Compiled := do
  let letters := flags.filter fun c => "msixn".contains c
  match (← get).rules[(source, letters)]? with
  | some rule => pure rule
  | none =>
    match compile source letters with
    | .ok rule =>
      modify fun s => { s with rules := s.rules.insert (source, letters) rule }
      pure rule
    | .error message => die message

def linesLeft (name : String) : Nat → List Value → Act (List Value)
  | 0, sofar => pure sofar.reverse
  | rounds + 1, sofar => do
    match ← readLine name with
    | none => pure sofar.reverse
    | some line => linesLeft name rounds (.text line :: sofar)

/-- The text of a value without what ends a line, and how much has been taken away. -/
def withoutLineEnd (text : Octets) : Act (Octets × Nat) := do
  match ← lineEnd with
  | .never | .every _ => pure (text, 0)
  | .emptyLines =>
    let kept := (text.reverse.dropWhile (· == '\n')).reverse
    pure (kept, text.length - kept.length)
  | .text ending =>
    if ending.reverse.isPrefixOf text.reverse then
      pure (text.take (text.length - ending.length), ending.length)
    else pure (text, 0)

end CommandChains.Machine.Scripting.Act
