import CommandChains.Machine.Scripting.Words
import CommandChains.Machine.Scripting.Searching

/-!
# Reading scripts

A script is read in one go, from its first character to its last: what a sign means depends on
whether a value has just been read. Signs that hold what is beside them more closely than others
are read further inside.
-/

namespace CommandChains.Machine.Scripting.Reading

/-! ## Parts of values -/

/-- What stands behind the sign of a name: a name, or something that gives a link. -/
inductive Head where
  | name (n : String)
  | link (e : Expr)

def Head.meant (sigil : Sigil) : Head → Reading Expr
  | name n => do pure (.named sigil (← resolve sigil n))
  | link e => do pure (.follow sigil (← scope).strictLinks e)

def setting (target value : Expr) : Expr :=
  if target.isPlural then .assignAll target value else .assign target value

/-- The value that a condition of a loop has: of what is read, whether it is there. -/
def guarded (condition : Expr) : Expr :=
  let isReading : Expr → Bool
    | .readLine _ | .paths _ => true
    | .builtin name _ => ["readdir", "shift", "each", "readline"].contains name
    | _ => false
  match condition with
  | .assign target value =>
    if isReading value then .builtin "defined" [.assign target value] else condition
  | .readLine _ | .paths _ => .builtin "defined" [.assign .topic condition]
  | .builtin "readdir" _ | .builtin "readline" _ =>
    .builtin "defined" [.assign .topic condition]
  | condition => condition

def literal (text : Octets) : Reading Octets := do
  if (← scope).wide then pure (Octets.toText text).toList else pure text

/-- A plain text that is matched, from what it is written as. -/
def operationOf (sign : String) (a b : Expr) (wholes : Bool) : Expr :=
  match connectives.lookup sign with
  | some op => .connect op a b
  | none =>
    match operations.lookup sign with
    | some op =>
      if wholes && op = .div then .builtin "int" [.compute op a b] else .compute op a b
    | none => .repeated (match a with | .several _ => true | _ => false) a b

/-- Whether a class is meant by what stands in brackets behind a name in a pattern. -/
def isClassIn (text : Octets) : Bool :=
  let inside := text.takeWhile (· != ']')
  let plain := match inside with
    | '-' :: digits => digits
    | inside => inside
  !(!plain.isEmpty && plain.all Char.isDigit) && !(inside.head? = some '$')

def isCount (text : Octets) : Bool :=
  let inside := text.takeWhile (· != '\x7d')
  inside.all (fun c => c.isDigit || c == ',') && !inside.isEmpty

/-- The characters that stand behind a backslash in a text, and what is behind them. -/
def escaped (text : Octets) : Octets × Octets :=
  match text with
  | [] => (['\\'], [])
  | c :: rest =>
    let coded (base most : Nat) (digits : Octets) (rest : Octets) : Octets × Octets :=
      let n := Octets.valueOf base (Octets.digitsOf base most digits)
      ([Char.ofNat n], rest)
    let braced (base : Nat) (inner : Octets) : Octets × Octets :=
      let inside := inner.takeWhile (· != '\x7d')
      coded base inside.length inside (inner.drop (inside.length + 1))
    match c with
    | 't' => (['\t'], rest)
    | 'n' => (['\n'], rest)
    | 'r' => (['\r'], rest)
    | 'f' => (['\x0c'], rest)
    | 'b' => (['\x08'], rest)
    | 'a' => (['\x07'], rest)
    | 'e' => (['\x1b'], rest)
    | 'x' =>
      match rest with
      | '\x7b' :: inner => braced 16 inner
      | rest =>
        let digits := (Octets.digitsOf 16 2 rest).length
        coded 16 2 (rest.take digits) (rest.drop digits)
    | 'o' =>
      match rest with
      | '\x7b' :: inner => braced 8 inner
      | rest => (['o'], rest)
    | 'N' =>
      match rest with
      | '\x7b' :: 'U' :: '+' :: inner => braced 16 inner
      | rest => ([], (rest.dropWhile (· != '\x7d')).drop 1)
    | 'c' =>
      match rest with
      | d :: rest => ([Char.ofNat (Nat.xor d.toUpper.toNat 64)], rest)
      | [] => ([], [])
    | c =>
      let digits := (Octets.digitsOf 8 3 (c :: rest)).length
      if 0 < digits then coded 8 3 ((c :: rest).take digits) ((c :: rest).drop digits)
      else ([c], rest)

/-- The characters of a range in a list of characters. -/
def exchangeList : Nat → Octets → Octets
  | 0, _ => []
  | rounds + 1, text =>
    let first? : Option (Char × Octets) := match text with
      | [] => none
      | '\\' :: '-' :: rest => some ('-', rest)
      | '\\' :: '\\' :: rest => some ('\\', rest)
      | '\\' :: rest =>
        match escaped rest with
        | (c :: _, rest) => some (c, rest)
        | ([], rest) => some ('\\', rest)
      | c :: rest => some (c, rest)
    match first? with
    | none => []
    | some (low, '-' :: d :: rest) =>
      let (high, rest) := if d = '\\' then
          match escaped rest with
          | (c :: _, rest) => (c, rest)
          | ([], rest) => ('\\', rest)
        else (d, rest)
      (List.range (high.toNat + 1 - low.toNat)).map (fun n => Char.ofNat (low.toNat + n)) ++
        exchangeList rounds rest
    | some (c, rest) => c :: exchangeList rounds rest

def flags (known : String) : Reading Octets := do
  let now ← rest
  let letters := now.takeWhile fun c => known.contains c
  goTo (now.drop letters.length)
  pure letters

/-- Whether what is printed first is the name of a file, of the text behind the word that prints:
the name, and what is behind it. -/
def handleIn (known : String → Bool) (text : Octets) : Option (String × Octets) :=
  let (name, rest) := nameIn (text.length + 1) text
  let word := String.ofList name
  let behind := skipped (.blanks false) rest
  let isStandard : Bool := ["STDOUT", "STDERR", "STDIN"].contains word
  let isFunction : Bool := topicFunctions.contains word || singleFunctions.contains word ||
    plainFunctions.contains word || listFunctions.contains word || known word ||
    ["my", "our", "local", "sub", "do", "eval", "return", "not", "qw", "q", "qq", "qr", "qx", "m",
      "s", "y", "tr", "map", "grep", "sort", "print", "printf", "say", "wantarray", "undef",
      "defined", "ref", "scalar", "lc", "uc", "sprintf", "glob", "state", "next", "last", "redo",
      "__FILE__", "__LINE__", "__PACKAGE__", "__END__", "__DATA__"].contains word ||
    innerWords.contains word
  if !name.head?.any beginsWord || isFunction then none
  else if rest.head? = some '(' then none
  else
    match behind with
    | [] => if isStandard then some (word, rest) else none
    | c :: more =>
      if ";)\x7d".contains c then
        if isStandard || word.all Char.isUpper then some (word, rest) else none
      else if c = '(' || c = ',' || c = '?' || c = '=' || c = '|' || c = '[' then none
      else if c = '-' && more.head? = some '>' then none
      else if c = '.' || c = ':' then none
      else if (c = '<' && more.head? != some '<') || c = '>' || c = '*' || c = '/' || c = '+' then none
      else if beginsWord c && innerWords.any (fun w => startsWithWord w behind) then
        if isStandard && ! ["x", "eq", "ne", "lt", "gt", "le", "ge", "cmp"].any
            (fun w => startsWithWord w behind) then some (word, rest) else none
      else some (word, rest)

/-- Whether parentheses with a blank in front seem to hold everything that a function is given,
although something follows them. -/
def looksComplete (text : Octets) : Bool :=
  match text with
  | ' ' :: '(' :: inside =>
    match marked '(' ')' true 0 [] inside with
    | some (_, behind) =>
      match behind.dropWhile Octets.isSpace with
      | [] => false
      | c :: _ => !";&/|\x7d])oairuwef!=".contains c
    | none => false
  | _ => false

/-- Whether what is printed first is a name of a file in a variable, of the text behind the name:
blanks and then the beginning of a value. -/
def isHandleBehind (text : Octets) : Bool :=
  match text with
  | c :: rest =>
    if !Octets.isSpace c then false
    else
      let behind := rest.dropWhile Octets.isSpace
      match behind with
      | [] => false
      | d :: more =>
        if d = '"' || d = '\x27' || d = '\x60' || d = '$' || d = '@' || d = '\\' || d.isDigit then true
        else if d = '<' then more.head? = some '<' && (more.drop 1).head?.any
          fun e => e == '"' || e == '\x27' || e.isAlpha || e == '~'
        else if beginsWord d then !(innerWords.any fun w => startsWithWord w behind)
        else false
  | [] => false

/-- The word that labels a statement, and what is behind its colon. -/
def labelIn (text : Octets) : Option (String × Octets) :=
  let (word, rest) := wordIn text
  if !word.head?.any beginsWord then none
  else
    match skipped (.blanks false) rest with
    | ':' :: behind =>
      if behind.head? = some ':' then none
      else if ["default", "q", "qq", "qw", "m", "s", "y", "tr"].contains (String.ofList word) then none
      else some (String.ofList word, behind)
    | _ => none

def comma? : Reading Bool := do
  if ← sign? "=>" then pure true
  else
    match ← upcoming with
    | ',' :: _ => sign? ","
    | _ => pure false

/-- Reads a text of its own in the place of what comes next. -/
def within {α : Type} (text : Octets) (work : Reading α) : Reading α := do
  let p ← get
  let n ← line
  set { p with rest := text, fixedLine := some n, previous := text, earlier := text }
  let done ← work
  modify fun q =>
    { q with rest := p.rest, fixedLine := p.fixedLine, previous := p.previous, earlier := p.earlier }
  pure done

/-- Whether a file is named by a word at the beginning of a text. -/
def fileWord? (known : String → Bool) (text : Octets) : Option (String × Octets) :=
  let (name, rest) := nameIn (text.length + 1) text
  let word := String.ofList name
  if !name.head?.any beginsWord || known word || topicFunctions.contains word ||
      singleFunctions.contains word || listFunctions.contains word || innerWords.contains word ||
      ["my", "our", "local", "sub", "do", "qw", "q", "qq", "__PACKAGE__", "__FILE__"].contains word
  then none
  else
    match skipped (.blanks false) rest with
    | [] => some (word, rest)
    | c :: _ => if ",;)|&=\x7d?:".contains c then some (word, rest) else none

/-- The value of one statement, if there is one alone. -/
def valueOf (body : List Stmt) : Expr :=
  match body with
  | [.plain _ e] => e
  | body => .block body

def noteFunction (full : String) (body : List Stmt) : Reading Unit := do
  let p ← get
  if p.scope.warns && p.script.functions.any (fun g => g.1 == full) then
    let short := String.ofList ((full.toList.reverse.takeWhile (· != ':')).reverse)
    warn ("Subroutine ".toList ++ short.toList ++ " redefined".toList)
  modify fun p =>
    { p with script :=
        { p.script with functions := p.script.functions ++ [(full, p.scope.package, body)] } }

/-- A name with its sign that is declared, if there is one. -/
def declaredOne (how : Declarator) : Reading (Option (Sigil × Variable)) := do
  let now ← upcoming
  let sigil? : Option Sigil := match now.head? with
    | some '$' => some .scalar
    | some '@' => some .array
    | some '%' => some .hash
    | _ => none
  match sigil? with
  | none => pure none
  | some sigil =>
    let (name, behind) := nameIn (now.length + 1) (now.drop 1)
    if name.head?.any beginsWord then do
      begin_
      goTo behind
      pure (some (sigil, ← declare how sigil (String.ofList name)))
    else pure none

/-- Skips what is said about a function behind colons. -/
def skipAttributes : Reading Unit := do
  match ← upcoming with
  | ':' :: rest =>
    if rest.head? != some ':' then
      let (_, behind) := wordIn (rest.dropWhile Octets.isSpace)
      goTo behind
  | _ => pure ()

def finish : Reading Unit := do
  let now ← upcoming
  if !now.isEmpty && now.head? != some '\x7d' then
    match now with
    | ';' :: _ => sign ";"
    | _ => refuse true

/-- Complains about what cannot be changed by something, unless something else is wrong already:
behind what has been read last, or with the next word. -/
def cannotChange (titles : List String) (kind : String) (isBehind : Bool) : Reading Unit := do
  if (← get).errors.isEmpty then
    titles.forM fun title => do
      let message := "Can't modify ".toList ++ title.toList ++ " in ".toList ++ kind.toList
      noteAs (← if isBehind then aboutLast message else aboutNext message)

/-- Complains about what cannot be set, with the sign that sets it. -/
def cannotSet (target : Expr) (sign : String) : Reading Unit := do
  match sign, target with
  | "", .several list =>
    cannotChange (Expr.fixedPartTitles list) "list assignment" false
  | "", .reference _ => fail "Experimental aliasing via reference not enabled".toList
  | "", target => cannotChange target.fixedTitle?.toList (match target with
      | .builtin "substr" _ => "substr"
      | _ => "scalar assignment") false
  | sign, target =>
    let kind := match sign with
      | "x" => "repeat (x)"
      | "&&" => "logical and assignment (&&=)"
      | "||" => "logical or assignment (||=)"
      | "//" => "defined or assignment (//=)"
      | sign => ((operations.lookup sign).map Operation.title).getD "assignment"
    cannotChange target.fixedTitle?.toList kind false

/-- Complains about a function that is not given what it works on. -/
def checkGiven (w : String) (given : List Expr) (isBehind : Bool) : Reading Unit := do
  let about (message : Octets) : Reading Unit := do
    noteAs (← if isBehind then aboutLast message else aboutNext message)
  let wrongKind (wanted : String) (e : Expr) : Reading Unit :=
    about ("Type of arg 1 to ".toList ++ w.toList ++ " must be ".toList ++ wanted.toList ++
      " (not ".toList ++ e.title.toList ++ [')'])
  match given with
  | [] => pure ()
  | first :: others =>
    if ["push", "unshift", "shift", "pop", "splice"].contains w then
      if first.isArray then pure ()
      else if first.title == "constant item" || first.isHash then wrongKind "array" first
      else about ("Experimental ".toList ++ w.toList ++ " on scalar is now forbidden".toList)
    else if ["keys", "values", "each"].contains w then
      if first.isArray || first.isHash then pure ()
      else do
        if first.title != "constant item" then
          note ("Experimental ".toList ++ w.toList ++ " on scalar is now forbidden".toList)
        wrongKind "hash or array" first
    else if w == "chop" || w == "chomp" then do
      cannotChange (Expr.fixedPartTitles given) w isBehind
    else if w == "delete" then
      if first.isInner then pure ()
      else fail "delete argument is not a HASH or ARRAY element or slice".toList
    else if w == "read" || w == "sysread" then
      cannotChange ((others.take 1).filterMap Expr.fixedTitle?) w isBehind
    else pure ()

/-- A pattern of which all is known must be one that can be read. -/
def checked (pattern : Expr) (letters : Octets) : Reading Expr := do
  match pattern with
  | .constant (.text source) =>
    match compile source letters with
    | .error message => fail message
    | .ok _ => pure ()
  | _ => pure ()
  pure pattern

def checkQuestion (w : String) (e : Expr) : Reading Unit := do
  if w == "exists" then
    match e with
    | .call _ _ => pure ()
    | e =>
      if !e.isInner then
        fail "exists argument is not a HASH or ARRAY element or a subroutine".toList
  else
    let kind? : Option String :=
      if e.isArray then some "array" else if e.isHash then some "hash" else none
    match kind? with
    | none => pure ()
    | some kind =>
      let sign := if kind == "array" then '@' else '%'
      fail ("Can't use 'defined(".toList ++ sign :: kind.toList ++
        ")' (Maybe you should just omit the defined()?)".toList)

mutual

def expression : Nat → Reading Expr
  | 0 => refuse
  | f + 1 => do alternatives f (← conjunction f)

def alternatives : Nat → Expr → Reading Expr
  | 0, e => pure e
  | f + 1, e => do
    if ← word? "or" then do
      let other ← conjunction f
      alternatives f (.connect .either e other)
    else if ← word? "xor" then do
      let other ← conjunction f
      alternatives f (.exclusive e other)
    else pure e

/-- A value as far as a word for an alternative. -/
def conjunction : Nat → Reading Expr
  | 0 => refuse
  | f + 1 => do conjunctions f (← denial f)

def conjunctions : Nat → Expr → Reading Expr
  | 0, e => pure e
  | f + 1, e => do
    if ← word? "and" then do
      let other ← denial f
      conjunctions f (.connect .both e other)
    else pure e

def denial : Nat → Reading Expr
  | 0 => refuse
  | f + 1 => do
    let now ← upcoming
    if startsWithWord "not" now &&
        !("=>".toList).isPrefixOf (skipped (.blanks false) (now.drop 3)) then do
      begin_
      goTo (now.drop 3)
      pure (.opposite (← denial f))
    else listed f

def listed : Nat → Reading Expr
  | 0 => refuse
  | f + 1 => do
    let first ← assignment f
    if ← comma? then do
      let others ← items f
      pure (.several (first :: others))
    else pure first

def items : Nat → Reading (List Expr)
  | 0 => refuse
  | f + 1 => do
    if ← comma? then items f
    else if beginsValue true (← upcoming) then do
      let first ← assignment f
      if ← comma? then do
        let others ← items f
        pure (first :: others)
      else pure [first]
    else pure []

def inParentheses : Nat → Reading (List Expr)
  | 0 => refuse
  | f + 1 => do
    sign "("
    if ← sign? ")" then pure []
    else do
      let e ← expression f
      sign ")"
      match e with
      | .several list => pure list
      | e => pure [e]

def assignment : Nat → Reading Expr
  | 0 => refuse
  | f + 1 => do
    let target ← alternative f
    match settingSign? (← upcoming) with
    | none => pure target
    | some s =>
      begin_
      goTo ((← rest).drop (s.length + 1))
      let value ← assignment f
      cannotSet target s
      match connectives.lookup s, operations.lookup s with
      | some op, _ => pure (.updateIf op target value)
      | none, some op =>
        if (← scope).wholes && op = .div then
          pure (.assign target (.builtin "int" [.compute op target value]))
        else pure (.update op target value)
      | none, none => pure (if s == "x" then .updateRepeated target value else setting target value)

/-- A value, or one of two as a condition says. -/
def alternative : Nat → Reading Expr
  | 0 => refuse
  | f + 1 => do
    let condition ← binary f 7
    if ← sign? "?" then do
      let yes ← assignment f
      sign ":"
      let no ← assignment f
      pure (.choice condition yes no)
    else pure condition

/-- Values with signs between them that hold at least so closely. -/
def binary : Nat → Nat → Reading Expr
  | 0, _ => refuse
  | f + 1, level => do operators f level (← unary f)

/-- What signs that hold at least so closely bring behind a value. -/
def operators : Nat → Nat → Expr → Reading Expr
  | 0, _, e => pure e
  | f + 1, level, left => do
    match innerSign? (← upcoming) with
    | none => pure left
    | some (s, closeness) =>
      if closeness < level then pure left
      else do
        begin_
        goTo ((← rest).drop s.length)
        match s with
        | "=~" => do operators f level (← matched left (← unary f))
        | "!~" => do operators f level (.opposite (← matched left (← unary f)))
        | ".." | "..." => do
          let right ← binary f (closeness + 1)
          operators f level (.range (← fresh) (s == "...") left right)
        | "isa" => do
          let right ← binary f (closeness + 1)
          operators f level (.builtin "isa" [left, right])
        | s => do
          let right ← binary f (closeness + 1)
          operators f level (operationOf s left right (← scope).wholes)
where
  /-- A pattern that something is to match, which may have to be changed by that. -/
  matched (target e : Expr) : Reading Expr := do
    let whole : Expr := match target with
      | .several [target] => target
      | target => target
    let changes : Bool := match e with
      | .replace none _ _ flags => !flags.contains 'r'
      | .exchange none x => !(x.copies || (x.new.isEmpty && !x.deletes))
      | _ => false
    if changes then cannotChange whole.unsteadyTitle?.toList e.title false
    pure (bound target e)
  bound (target : Expr) : Expr → Expr
    | .find none pattern flags => .find (some target) pattern flags
    | .replace none pattern new flags => .replace (some target) pattern new flags
    | .exchange none x => .exchange (some target) x
    | e => .find (some target) e []

def unary : Nat → Reading Expr
  | 0 => refuse
  | f + 1 => do
    let now ← upcoming
    let behind (size : Nat) : Reading Unit := do
      begin_
      goTo (now.drop size)
    match now with
    | '!' :: _ => do
      behind 1
      pure (.opposite (← unary f))
    | '~' :: _ => do
      behind 1
      pure (.complement (← unary f))
    | '\\' :: _ => do
      behind 1
      match ← upcoming with
      | '&' :: c :: _ =>
        if c == '&' then refuse
        else do
          goTo ((← rest).drop 1)
          let h ← head f
          if (← upcoming).head? = some '(' then do
            let given ← inParentheses f
            pure (.reference (.call (← h.meant .code) (some given)))
          else pure (.reference (← h.meant .code))
      | _ => pure (.reference (← unary f))
    | '-' :: '-' :: _ => do
      behind 2
      stepping false (← unary f)
    | '+' :: '+' :: _ => do
      behind 2
      stepping true (← unary f)
    | '-' :: c :: rest =>
      let after := skipped (.blanks false) rest
      if questionLetters.contains c && !rest.head?.any isWordly && !("=>".toList).isPrefixOf after &&
          !(rest.head? = some '(' && c = 'x') then do
        behind 2
        question f c
      else do
        behind 1
        pure (.negative (← unary f))
    | ['-'] => do
      behind 1
      refuse
    | '+' :: _ => do
      behind 1
      unary f
    | _ => power f
where
  stepping (up : Bool) (e : Expr) : Reading Expr := do
    cannotChange e.unsteadyTitle?.toList (Expr.step up true e).title false
    pure (.step up true e)

def question : Nat → Char → Reading Expr
  | 0, _ => refuse
  | f + 1, letter => do
    let now ← upcoming
    let p ← get
    let known (word : String) : Bool := p.known.contains (qualified p.scope.package word)
    match fileWord? known now with
    | some (word, behind) => do
      begin_
      goTo behind
      pure (.test letter (.constant (.glob (qualified p.scope.package word))))
    | none =>
      if beginsValue false now then do
        match now with
        | '-' :: _ => do pure (.test letter (← unary f))
        | _ => do pure (.test letter (← binary f 15))
      else pure (.test letter .topic)

def power : Nat → Reading Expr
  | 0 => refuse
  | f + 1 => do
    let base ← stepped f
    match ← upcoming with
    | '*' :: '*' :: c :: _ =>
      if c = '=' then pure base
      else do
        begin_
        goTo ((← rest).drop 2)
        pure (.compute .pow base (← unary f))
    | _ => pure base

/-- A value that may be counted up or down when it has been told. -/
def stepped : Nat → Reading Expr
  | 0 => refuse
  | f + 1 => do
    let e ← subscripted f
    match ← upcoming with
    | '+' :: '+' :: _ => do
      begin_
      goTo ((← rest).drop 2)
      cannotChange e.unsteadyTitle?.toList "postincrement (++)" true
      pure (.step true false e)
    | '-' :: '-' :: _ => do
      begin_
      goTo ((← rest).drop 2)
      cannotChange e.unsteadyTitle?.toList "postdecrement (--)" true
      pure (.step false false e)
    | _ => pure e

def subscripted : Nat → Reading Expr
  | 0 => refuse
  | f + 1 => do
    let (e, direct) ← term f
    subscripts f e direct

/-- What is chosen from a value. Without an arrow that is possible behind a choice alone. -/
def subscripts : Nat → Expr → Bool → Reading Expr
  | 0, e, _ => pure e
  | f + 1, e, direct => do
    let strict := (← scope).strictLinks
    let now ← upcoming
    match now with
    | '-' :: '>' :: behind => do
      begin_
      goTo behind
      match ← upcoming with
      | '[' :: _ => do
        let place ← index f
        subscripts f (.item (.follow .array strict e) place) true
      | '\x7b' :: _ => do
        let key ← hashKey f
        subscripts f (.entry (.follow .hash strict e) key) true
      | '(' :: _ => do
        let given ← inParentheses f
        subscripts f (.call e (some given)) true
      | '@' :: '*' :: behind => do
        goTo behind
        pure (.follow .array strict e)
      | '%' :: '*' :: behind => do
        goTo behind
        pure (.follow .hash strict e)
      | '$' :: '*' :: behind => do
        goTo behind
        subscripts f (.follow .scalar strict e) false
      | '$' :: '#' :: '*' :: behind => do
        goTo behind
        pure (.lastPlace (.follow .array strict e))
      | '&' :: '*' :: behind => do
        goTo behind
        pure (.call e none)
      | '@' :: '[' :: behind => do
        goTo ('[' :: behind)
        pure (.items (.follow .array strict e) (← index f))
      | '@' :: '\x7b' :: behind => do
        goTo ('\x7b' :: behind)
        pure (.entries (.follow .hash strict e) (← hashKey f))
      | '$' :: _ => do
        goTo ((← rest).drop 1)
        let name ← (← head f).meant .scalar
        let given ← if (← upcoming).head? = some '(' then inParentheses f else pure []
        subscripts f (.methodBy e name given) true
      | text =>
        let (name, behind) := nameIn (text.length + 1) text
        if name.head?.any beginsWord then do
          begin_
          goTo behind
          let given ← if (← upcoming).head? = some '(' then inParentheses f else pure []
          subscripts f (.method e (String.ofList name) given) true
        else refuse
    | '[' :: _ =>
      if direct then do
        let place ← index f
        subscripts f (.item (.follow .array strict e) place) true
      else pure e
    | '\x7b' :: _ =>
      if direct then do
        let key ← hashKey f
        subscripts f (.entry (.follow .hash strict e) key) true
      else pure e
    | '(' :: _ =>
      if direct then do
        let given ← inParentheses f
        subscripts f (.call e (some given)) true
      else pure e
    | _ => pure e

def index : Nat → Reading Expr
  | 0 => refuse
  | f + 1 => do
    sign "["
    let e ← expression f
    sign "]"
    pure e

/-- A key in braces. A single word is a key as it stands. -/
def hashKey : Nat → Reading Expr
  | 0 => refuse
  | f + 1 => do
    sign "\x7b"
    let now ← upcoming
    let (front, inner) := match now with
      | '-' :: inner => (['-'], inner)
      | inner => ([], inner)
    let (word, behind) := wordIn inner
    let after := skipped (.blanks false) behind
    match after with
    | '\x7d' :: behind =>
      if word.head?.any beginsWord then do
        goTo after
        begin_
        goTo behind
        pure (.ofText (front ++ word))
      else keyWithin f
    | _ => keyWithin f

/-- A key in braces that is computed. Several values make a key together. -/
def keyWithin : Nat → Reading Expr
  | 0 => refuse
  | f + 1 => do
    deeper
    let e ← expression f
    sign "\x7d"
    higher
    match e with
    | .several (a :: b :: rest) =>
      pure (.builtin "keys of" (a :: b :: rest))
    | e => pure e

/-- A name, or a link, behind the sign that says what is meant. -/
def head : Nat → Reading Head
  | 0 => refuse
  | f + 1 => do
    let now ← rest
    match now with
    | '\x7b' :: inner =>
      let trimmed := inner.dropWhile Octets.isSpace
      let (front, word) := match trimmed with
        | '\x5e' :: word => (['\x5e'], word)
        | word => ([], word)
      let (name, behind) := nameIn (word.length + 1) word
      match behind.dropWhile Octets.isSpace with
      | '\x7d' :: behind =>
        if name.isEmpty then bracedHead f
        else do
          goTo behind
          pure (.name (String.ofList (front ++ name)))
      | _ => bracedHead f
    | '$' :: c :: _ =>
      if beginsWord c || c == '$' || c == '\x7b' || c == ':' then do
        goTo (now.drop 1)
        let inner ← head f
        pure (.link (← inner.meant .scalar))
      else do
        goTo (now.drop 1)
        pure (.name "$")
    | '\x5e' :: c :: behind =>
      if c.isUpper then do
        goTo behind
        pure (.name (String.ofList ['\x5e', c]))
      else do
        goTo (c :: behind)
        pure (.name "\x5e")
    | c :: behind =>
      if beginsWord c || (c == ':' && ("::".toList).isPrefixOf now) then do
        let (name, behind) := nameIn (now.length + 1) now
        goTo behind
        pure (.name (String.ofList name))
      else if c.isDigit then do
        goTo (now.dropWhile Char.isDigit)
        pure (.name (String.ofList (now.takeWhile Char.isDigit)))
      else if Octets.isSpace c then refuse
      else do
        goTo behind
        pure (.name (String.singleton c))
    | [] => refuse

def bracedHead : Nat → Reading Head
  | 0 => refuse
  | f + 1 => do pure (.link (valueOf (← block f)))

/-- A value by itself, and whether something can be chosen from it without an arrow. -/
def term : Nat → Reading (Expr × Bool)
  | 0 => refuse
  | f + 1 => do
    let now ← upcoming
    match now with
    | '$' :: '#' :: c :: _ =>
      if c == '\x7b' || c == '$' || beginsWord c then do
        begin_
        goTo (now.drop 2)
        let h ← head f
        pure (.lastPlace (← h.meant .array), false)
      else scalarTerm f
    | '$' :: _ => scalarTerm f
    | '@' :: _ => do
      begin_
      goTo (now.drop 1)
      let h ← head f
      match ← upcoming with
      | '[' :: _ => do
        let array ← h.meant .array
        let places ← index f
        match array, places with
        | .named _ v, .constant n =>
          if (← scope).warns then
            let shown := v.name.toList ++ '[' :: n.plainText ++ [']']
            warn ("Scalar value @".toList ++ shown ++ " better written as $".toList ++ shown)
        | _, _ => pure ()
        pure (.items array places, false)
      | '\x7b' :: _ => do pure (.entries (← h.meant .hash) (← hashKey f), false)
      | _ => do pure (← h.meant .array, false)
    | '%' :: _ => do
      begin_
      goTo (now.drop 1)
      let h ← head f
      match ← rest with
      | '[' :: _ => do
        let c ← h.meant .array
        pure (.pairs false c (← index f), false)
      | '\x7b' :: _ => do
        let c ← h.meant .hash
        pure (.pairs true c (← hashKey f), false)
      | _ => do pure (← h.meant .hash, false)
    | '&' :: _ => do
      begin_
      goTo (now.drop 1)
      skip
      let h ← head f
      let code ← h.meant .code
      if (← upcoming).head? = some '(' then do
        let given ← inParentheses f
        pure (.call code (some given), true)
      else pure (.call code none, true)
    | '*' :: _ => do
      begin_
      goTo (now.drop 1)
      match ← head f with
      | .name n => do pure (.constant (.glob (qualified (← scope).package n)), false)
      | .link e => pure (.follow .glob (← scope).strictLinks e, false)
    | '(' :: _ => do
      let list ← inParentheses f
      if (← upcoming).head? = some '[' then do
        let places ← index f
        pure (.chosen (.several list) places, true)
      else pure (.several list, false)
    | '[' :: _ => do
      sign "["
      let list ← items f
      sign "]"
      pure (.newArray list, true)
    | '\x7b' :: _ => do
      sign "\x7b"
      deeper
      let list ← items f
      sign "\x7d"
      higher
      pure (.newHash list, true)
    | '"' :: _ => do
      begin_
      let (_, text) ← markedText false endless
      pure (← interpolated f false text, false)
    | '\x27' :: _ => do
      begin_
      let (_, text) ← markedText false endless
      pure (.ofText (← literal (withoutPairs text)), false)
    | '\x60' :: _ => do
      begin_
      let (_, text) ← markedText false endless
      pure (.output (← interpolated f false text), false)
    | '/' :: _ => do
      begin_
      let (_, text) ← markedText true fun _ => "Search pattern not terminated".toList
      let letters ← flags "msixpodualngc"
      pure (.find none (← checked (← interpolated f true text) letters) letters, false)
    | '<' :: _ => do
      begin_
      goTo (now.drop 1)
      pure (← angled f, false)
    | c :: behind =>
      if c.isDigit || (c == '.' && behind.head?.any Char.isDigit) then do
        begin_
        let (v, behind) := numeralIn now
        goTo behind
        pure (.constant v, false)
      else if beginsWord c || (c == ':' && ("::".toList).isPrefixOf now) then word f
      else refuse
    | [] => refuse

/-- A single value by its name, or one that is chosen from several of a name. -/
def scalarTerm : Nat → Reading (Expr × Bool)
  | 0 => refuse
  | f + 1 => do
    begin_
    goTo ((← rest).drop 1)
    let h ← head f
    match ← upcoming with
    | '[' :: _ => do
      let c ← h.meant .array
      pure (.item c (← index f), true)
    | '\x7b' :: _ => do
      let c ← h.meant .hash
      pure (.entry c (← hashKey f), true)
    | _ => do pure (← h.meant .scalar, false)

/-- What stands behind an angle: lines below, a file that is read, or names of files. -/
def angled : Nat → Reading Expr
  | 0 => refuse
  | f + 1 => do
    let now ← rest
    let input : Expr := .readLine (.constant (.glob "main::ARGV"))
    match now with
    | '<' :: '>' :: '>' :: behind => do
      goTo behind
      pure input
    | '<' :: behind => do
      let (indented, behind) := match behind with
        | '~' :: behind => (true, behind)
        | behind => (false, behind)
      goTo behind
      match behind.dropWhile (· == ' ') with
      | c :: _ =>
        if c = '"' || c = '\x27' then do
          skip
          let (_, ending) ← markedText false endless
          let text ← linesBelow ending indented
          if c = '\x27' then do pure (.ofText (← literal text)) else interpolated f false text
        else if (behind.head?).any beginsWord then do
          let (ending, behind) := wordIn behind
          goTo behind
          let text ← linesBelow ending indented
          interpolated f false text
        else refuse
      | [] => refuse
    | '>' :: behind => do
      goTo behind
      pure input
    | text =>
      let inside := text.takeWhile (· != '>')
      match text.drop inside.length with
      | [] => fail "Unterminated <> operator".toList
      | _ :: behind => do
        goTo behind
        match inside with
        | '$' :: name =>
          if !name.isEmpty && name.all isWordly then do
            pure (.readLine (.named .scalar (← resolve .scalar (String.ofList name))))
          else do pure (.paths (← interpolated f false inside))
        | name =>
          let word := String.ofList name
          if name.head?.any beginsWord && name.all (fun c => isWordly c || c == ':') then do
            mention (qualified (← scope).package word)
            pure (.readLine (.constant (.glob (qualified (← scope).package word))))
          else do pure (.paths (← interpolated f false inside))

def interpolated : Nat → Bool → Octets → Reading Expr
  | 0, _, _ => refuse
  | f + 1, inPattern, text => do
    let text ← literal text
    let parts ← within text (pieces f inPattern false [] [])
    match parts with
    | [] => pure (.ofText [])
    | [.constant (.text s)] => pure (.ofText s)
    | parts => pure (.joined parts)

/-- The parts of a text, up to its end or the end of what letters are changed in. -/
def pieces : Nat → Bool → Bool → Octets → List Expr → Reading (List Expr)
  | 0, _, _, _, _ => refuse
  | f + 1, inPattern, nested, sofar, parts => do
    let done : List Expr := if sofar.isEmpty then parts else .ofText sofar.reverse :: parts
    let changed (name : String) (behind : Octets) : Reading (List Expr) := do
      goTo behind
      let inner ← pieces f inPattern true [] []
      pieces f inPattern nested [] (.builtin name [.joined inner] :: done)
    let begun (name : String) (behind : Octets) : Reading (List Expr) := do
      goTo behind
      let inner ← pieces f inPattern nested [] []
      pure ((.builtin name [.joined inner] :: done).reverse)
    match ← rest with
    | [] => pure done.reverse
    | '\\' :: c :: behind =>
      match c with
      | 'U' =>
        if ['\\', 'l'].isPrefixOf behind then do
          goTo ('\\' :: 'l' :: '\\' :: 'U' :: behind.drop 2)
          pieces f inPattern nested sofar parts
        else changed "uc" behind
      | 'L' =>
        if ['\\', 'u'].isPrefixOf behind then do
          goTo ('\\' :: 'u' :: '\\' :: 'L' :: behind.drop 2)
          pieces f inPattern nested sofar parts
        else changed "lc" behind
      | 'F' => changed "fc" behind
      | 'Q' => changed "quotemeta" behind
      | 'u' => begun "ucfirst" behind
      | 'l' => begun "lcfirst" behind
      | 'E' => do
        goTo behind
        if nested then pure done.reverse else pieces f inPattern nested sofar parts
      | c =>
        if inPattern then do
          goTo behind
          pieces f inPattern nested (c :: '\\' :: sofar) parts
        else do
          let (shown, behind) := escaped (c :: behind)
          goTo behind
          pieces f inPattern nested (shown.reverse ++ sofar) parts
    | c :: behind =>
      if c = '$' || c = '@' then do
        match ← embedded f inPattern with
        | some e => pieces f inPattern nested [] (e :: done)
        | none => do
          goTo behind
          pieces f inPattern nested (c :: sofar) parts
      else do
        goTo behind
        pieces f inPattern nested (c :: sofar) parts

/-- A value in a text, if its sign stands for one. -/
def embedded : Nat → Bool → Reading (Option Expr)
  | 0, _ => refuse
  | f + 1, inPattern => do
    match ← rest with
    | '@' :: c :: behind =>
      if beginsWord c || c == '\x7b' || (c == '$' && behind.head?.any fun d =>
          beginsWord d || d == '\x7b' || d == '$') || (c == ':' && behind.head? = some ':') then do
        goTo (c :: behind)
        let h ← head f
        match ← rest with
        | '[' :: inner =>
          if inPattern && isClassIn inner then do pure (some (.spaced (← h.meant .array)))
          else do
            let a ← h.meant .array
            pure (some (.spaced (.items a (← index f))))
        | '\x7b' :: inner =>
          if inPattern && isCount inner then do pure (some (.spaced (← h.meant .array)))
          else do
            let a ← h.meant .hash
            pure (some (.spaced (.entries a (← hashKey f))))
        | _ => do pure (some (.spaced (← h.meant .array)))
      else pure none
    | '$' :: '#' :: c :: behind =>
      if c == '\x7b' || c == '$' || (beginsWord c && !inPattern) then do
        goTo (c :: behind)
        pure (some (.lastPlace (← (← head f).meant .array)))
      else pure none
    | '$' :: c :: behind =>
      let isName : Bool := beginsWord c || c.isDigit || c == '\x7b' || c == '&' ||
        (c == '$' && !(inPattern && behind.isEmpty)) ||
        (c == ':' && behind.head? = some ':' && (behind.drop 1).head?.any beginsWord) ||
        (!inPattern && "\x60\x27+!@/\\,;.".contains c)
      if isName then do
        goTo (c :: behind)
        let h ← head f
        match ← rest with
        | '[' :: inner =>
          if (inPattern && isClassIn inner) || inner.head? = some ']' then do
            pure (some (← h.meant .scalar))
          else do
            let a ← h.meant .array
            pure (some (← innerSubscripts f inPattern (.item a (← index f))))
        | '\x7b' :: inner =>
          if inPattern && isCount inner then do pure (some (← h.meant .scalar))
          else do
            let a ← h.meant .hash
            pure (some (← innerSubscripts f inPattern (.entry a (← hashKey f))))
        | '-' :: '>' :: d :: _ =>
          if d = '[' || d = '\x7b' then do
            pure (some (← innerSubscripts f inPattern (← h.meant .scalar)))
          else do pure (some (← h.meant .scalar))
        | _ => do pure (some (← h.meant .scalar))
      else pure none
    | _ => pure none

def innerSubscripts : Nat → Bool → Expr → Reading Expr
  | 0, _, e => pure e
  | f + 1, inPattern, e => do
    let strict := (← scope).strictLinks
    let isPlain : Bool := match e with
      | .named _ _ | .follow _ _ _ => true
      | _ => false
    let now ← rest
    let (arrow, now) := match now with
      | '-' :: '>' :: behind => (true, behind)
      | now => (false, now)
    match now with
    | '[' :: inner =>
      if (isPlain && !arrow) || (inPattern && isClassIn inner) then pure e
      else do
        goTo now
        let place ← index f
        innerSubscripts f inPattern (.item (.follow .array strict e) place)
    | '\x7b' :: inner =>
      if (isPlain && !arrow) || (inPattern && isCount inner) then pure e
      else do
        goTo now
        let key ← hashKey f
        innerSubscripts f inPattern (.entry (.follow .hash strict e) key)
    | _ => pure e

def word : Nat → Reading (Expr × Bool)
  | 0 => refuse
  | f + 1 => do
    let now ← rest
    let p ← get
    let (name, behind) := nameIn (now.length + 1) now
    let w := String.ofList name
    let after := skipped (.blanks false) behind
    let go : Reading Unit := do
      begin_
      goTo behind
    let plain (e : Expr) : Reading (Expr × Bool) := pure (e, false)
    let isMarked : Bool :=
      match after with
      | [] => true
      | c :: _ =>
        !(c = ',' || c = ';' || c = ')' || ("=>".toList).isPrefixOf after) &&
          !(c = '=' && behind.head? != some '=')
    if ("=>".toList).isPrefixOf after then do
      go
      plain (.ofText name)
    else
      match w with
      | "my" | "our" | "state" | "local" => do
        if w == "local" then do
          go
          let e ← binary f 15
          match e with
          | .declare _ [some (sigil, v)] _ =>
            fail ("Can't localize lexical variable ".toList ++ sigil.sign :: v.name.toList)
          | .several list =>
            cannotChange (Expr.fixedPartTitles list) "local" false
          | e => cannotChange e.fixedTitle?.toList "local" false
          plain (.localized e)
        else if w == "state" && !p.scope.modern then do
          go
          plain (.ofText name)
        else do
          go
          plain (← declaration f (if w == "our" then .shared else if w == "state" then .lasting
            else .own))
      | "do" => do
        go
        if (← upcoming).head? = some '\x7b' then do
          pure (.block (← block f), false)
        else do
          let e ← unary f
          plain (.builtin "do" [e])
      | "eval" => do
        go
        if (← upcoming).head? = some '\x7b' then do pure (.attempt (← block f), false)
        else
          let e ← if beginsValue true (← upcoming) then single f else pure .topic
          plain (.evaluate e (← scope))
      | "sub" => do
        go
        let body ← subBody f
        pure (.newCode "__ANON__" p.scope.package body, true)
      | "return" => do
        go
        let e ← if beginsValue true (← upcoming) then do pure (some (← listed f)) else pure none
        plain (.giveBack e)
      | "next" | "last" | "redo" => do
        go
        let (label, behind) := wordIn (← upcoming)
        let how : Leaving := if w == "next" then .next else if w == "last" then .last else .again
        if label.head?.any beginsWord && !innerWords.contains (String.ofList label) then do
          begin_
          goTo behind
          plain (.leave how (some (String.ofList label)))
        else plain (.leave how none)
      | "goto" => do
        go
        match ← upcoming with
        | '&' :: _ => do plain (.giveBack (some (← unary f)))
        | _ => do
          let (label, behind) := wordIn (← upcoming)
          goTo behind
          plain (.builtin "goto" [.ofText label])
      | "print" | "printf" => do
        go
        if p.scope.warns && looksComplete behind then
          warn (name ++ " (...) interpreted as function".toList)
        printing f w
      | "say" =>
        if p.scope.modern then do
          go
          printing f w
        else named f
      | "sort" => do
        go
        arranged f
      | "map" | "grep" => do
        go
        throughBlock f (w == "grep")
      | "qw" =>
        if isMarked then do
          go
          skip
          let (_, text) ← markedText false endless
          let words := (Octets.words text).map Expr.ofText
          if (← upcoming).head? = some '[' then do
            let places ← index f
            pure (.chosen (.several words) places, true)
          else plain (.several words)
        else named f
      | "q" | "qq" | "qx" | "m" | "qr" | "s" | "tr" | "y" =>
        if isMarked then do
          go
          if behind.head? != some '#' then skip
          plain (← quoted f w)
        else named f
      | "not" => do
        go
        if (← upcoming).head? = some '(' then do
          let list ← inParentheses f
          plain (.opposite (.several list))
        else do plain (.opposite (← assignment f))
      | "__FILE__" => do
        go
        plain (.ofText p.file)
      | "__LINE__" => do
        let n ← line
        go
        plain (.constant (.ofNat n))
      | "__PACKAGE__" => do
        go
        pure (.ofString p.scope.package, true)
      | "undef" => do
        go
        match ← upcoming with
        | '(' :: _ => do
          let given ← inParentheses f
          plain (if given.isEmpty then .constant .unset else .builtin "undef" given)
        | c :: rest =>
          if "$@%&*".contains c && rest.head?.any (fun d => beginsWord d || d == '$' || d == '\x7b')
          then do
            let e ← binary f 15
            cannotChange e.fixedTitle?.toList "undef operator" false
            plain (.builtin "undef" [e])
          else if beginsValue false (c :: rest) && !beginsWord c then do
            doubtWord name behind
            let e ← binary f 15
            giveUp (← aboutNext ("Can't modify ".toList ++
              (e.fixedTitle?.getD "constant item").toList ++ " in undef operator".toList))
          else plain (.constant .unset)
        | [] => plain (.constant .unset)
      | "defined" | "exists" => do
        go
        let open_ ← sign? "("
        match ← upcoming with
        | '&' :: c :: _ =>
          if c == '&' then refuse
          else do
            goTo ((← rest).drop 1)
            let h ← head f
            let e ← h.meant .code
            let e ← if (← upcoming).head? = some '(' then do
                let given ← inParentheses f
                pure (.call e (some given))
              else pure e
            if open_ then sign ")"
            plain (.builtin w [e])
        | text =>
          if open_ then do
            let e ← if text.head? = some ')' then pure .topic else expression f
            sign ")"
            checkQuestion w e
            plain (.builtin w [e])
          else if w == "exists" && !beginsValue false text then
            giveUp (← aboutNext "Not enough arguments for exists".toList)
          else do
            let e ← if beginsValue false text then binary f 15 else pure .topic
            checkQuestion w e
            plain (.builtin w [e])
      | "require" => do
        go
        let (name, behind) := nameIn (after.length + 1) after
        if name.head?.any beginsWord && !name.isEmpty then do
          skip
          begin_
          goTo behind
          plain (.builtin "require" [.ofText (moduleFile (String.ofList name)), .ofText name])
        else
          let e ← if beginsValue false after then binary f 15 else pure .topic
          plain (.builtin "require" [e])
      | "glob" => do
        go
        let given ← arguments f false
        plain (.paths (match given with
          | [] => .topic
          | list => .ofList list))
      | "split" => do
        go
        let given ← arguments f false
        let given := match given with
          | .find none pattern flags :: rest => .rule pattern flags :: rest
          | given => given
        plain (.builtin "split" given)
      | "STDIN" | "STDOUT" | "STDERR" | "ARGV" => do
        go
        plain (.constant (.glob ("main::" ++ w)))
      | w =>
        if innerWords.contains w then refuse
        else named f

/-- What a function that is known by its name is given, or what a word means by itself. -/
def named : Nat → Reading (Expr × Bool)
  | 0 => refuse
  | f + 1 => do
    let now ← rest
    let (name, behind) := nameIn (now.length + 1) now
    let w := String.ofList name
    let after := skipped (.blanks false) behind
    let isTopic : Bool := topicFunctions.contains w
    let isSingle : Bool := (isTopic && w != "unlink") || singleFunctions.contains w
    if plainFunctions.contains w then do
      begin_
      goTo behind
      if ← sign? "(" then
        match ← upcoming with
        | ')' :: _ => sign ")"
        | _ => refuse
      pure (.builtin w [], false)
    else if isTopic || isSingle || listFunctions.contains w then do
      begin_
      goTo behind
      if w == "eof" && ("()".toList).isPrefixOf (← upcoming) then do
        sign "("
        sign ")"
        pure (.builtin "eof of all" [], false)
      else do
        if isSingle then doubtWord name behind
        let given ← givenTo f w isSingle
        let closed : Bool := after.head? = some '('
        let refuseCount (message : String) : Reading (Expr × Bool) := do
          let text := message.toList ++ (titleOf w).toList
          giveUp (← if closed then aboutLast text else aboutNext text)
        let least := (leastValues.lookup w).getD 0
        let most := if w == "chop" || w == "chomp" then none
          else if isSingle then some 1 else mostValues.lookup w
        if given.length < least then refuseCount "Not enough arguments for "
        else if most.any (· < given.length) then refuseCount "Too many arguments for "
        else do
          checkGiven w given closed
          pure (.builtin w (if isTopic && given.isEmpty then [.topic] else given), false)
    else do
      begin_
      goTo behind
      otherWord f w

/-- The values that a function is given, of which the first may name a file. -/
def givenTo : Nat → String → Bool → Reading (List Expr)
  | 0, _, _ => refuse
  | f + 1, w, isSingle => do
    let p ← get
    let known (word : String) : Bool := p.known.contains (qualified p.scope.package word)
    let open_ ← if fileFunctions.contains w then sign? "(" else pure false
    let now ← upcoming
    match if fileFunctions.contains w then fileWord? known now else none with
    | some (word, behind) => do
      begin_
      goTo behind
      mention (qualified p.scope.package word)
      let others ← if ← comma? then items f else pure []
      if open_ then sign ")"
      pure (.constant (.glob (qualified p.scope.package word)) :: others)
    | none => do
      set p
      arguments f isSingle

/-- Values behind a function: in parentheses, or without them one or several. -/
def arguments : Nat → Bool → Reading (List Expr)
  | 0, _ => refuse
  | f + 1, isSingle => do
    let now ← upcoming
    if now.head? = some '(' then inParentheses f
    else if isSingle then
      if beginsValue false now then do pure [← binary f 15] else pure []
    else if beginsValue true now then items f
    else pure []

/-- A value that a word for one value is given. -/
def single : Nat → Reading Expr
  | 0 => refuse
  | f + 1 => do
    match ← arguments f true with
    | [] => pure .topic
    | list => pure (.ofList list)

/-- What a word means that is no word of the language. -/
def otherWord : Nat → String → Reading (Expr × Bool)
  | 0, _ => refuse
  | f + 1, w => do
    let p ← get
    let full := qualified p.scope.package w
    let code : Expr := .named .code (.shared full)
    let isKnown : Bool := p.known.contains full
    let now ← upcoming
    let (next, behindNext) := nameIn (now.length + 1) now
    let second := String.ofList next
    let isObject : Bool := !isKnown && next.head?.any beginsWord && !innerWords.contains second &&
      !w.toList.contains ':' && !topicFunctions.contains second &&
      !singleFunctions.contains second && !listFunctions.contains second &&
      ! ["my", "sub", "do", "qw", "q", "qq", "print", "return", "map", "grep", "sort"].contains second &&
      !("=>".toList).isPrefixOf (skipped (.blanks false) behindNext)
    match now with
    | '(' :: _ => do
      let given ← inParentheses f
      pure (.call code (some given), true)
    | '-' :: '>' :: _ =>
      if isKnown then pure (.call code (some []), true)
      else pure (.ofString w, false)
    | _ =>
      if isKnown then
        if p.plainKnown.contains full then pure (.call code (some []), false)
        else if p.blockFirst.contains full && now.head? = some '\x7b' then do
          let body ← apart (block f)
          let _ ← comma?
          let others ← items f
          pure (.call code (some (.newCode "__ANON__" p.scope.package body :: others)), false)
        else do
          let given ← if beginsValue true now then items f else pure []
          pure (.call code (some given), false)
      else if (w.toList.reverse.take 2) = [':', ':'] then
        pure (.ofText (w.toList.reverse.drop 2).reverse, false)
      else if isObject then do
        begin_
        goTo behindNext
        let given ← arguments f false
        pure (.method (.ofString second) w given, true)
      else if w == "new" && now.head? = some '$' then do
        let (object, _) ← scalarTerm f
        let given ← arguments f false
        pure (.method object w given, true)
      else do
        let isVersion : Bool := match w.toList with
          | 'v' :: digits => !digits.isEmpty && digits.all Char.isDigit
          | _ => false
        if isVersion then do
          let text := w.toList.drop 1 ++ now
          let (shown, behind) := versionIn (text.length + 1) text
          goTo behind
          pure (.ofText shown, false)
        else do
          if p.scope.strictWords then
            note ("Bareword \"".toList ++ w.toList ++
              "\" not allowed while \"strict subs\" in use".toList)
          pure (.ofString w, false)

def printing : Nat → String → Reading (Expr × Bool)
  | 0, _ => refuse
  | f + 1, kind => do
    let open_ ← sign? "("
    let (handle, list) ← printed f
    if open_ then sign ")"
    let list := if list.isEmpty && kind != "printf" then [.topic] else list
    pure (.print kind handle list, false)

def printed : Nat → Reading (Option Expr × List Expr)
  | 0 => refuse
  | f + 1 => do
    let now ← upcoming
    let p ← get
    let known (word : String) : Bool := p.known.contains (qualified p.scope.package word)
    let handle : Option Expr ← match now with
      | '\x7b' :: _ => do pure (some (valueOf (← block f)))
      | '$' :: name =>
        let (word, behind) := nameIn (name.length + 1) name
        if word.head?.any beginsWord && isHandleBehind behind then do
          goTo behind
          pure (some (.named .scalar (← resolve .scalar (String.ofList word))))
        else pure none
      | text =>
        match handleIn known text with
        | some (word, behind) => do
          begin_
          goTo behind
          mention (qualified p.scope.package word)
          pure (some (.constant (.glob (qualified p.scope.package word))))
        | none => pure none
    let list ← if beginsValue true (← upcoming) then items f else pure []
    pure (handle, list)

def arranged : Nat → Reading (Expr × Bool)
  | 0 => refuse
  | f + 1 => do
    let open_ ← sign? "("
    let now ← upcoming
    let p ← get
    let (how, isBlock) ← match now with
      | '\x7b' :: _ => do
        let body ← block f
        let _ ← comma?
        pure (some (valueOf body), true)
      | '$' :: name =>
        let (word, behind) := nameIn (name.length + 1) name
        let after := skipped (.blanks false) behind
        let isName : Bool := match after with
          | c :: _ => c == '@' || c == '(' || (isHandleBehind behind && c == '$')
          | [] => false
        if word.head?.any beginsWord && isName then do
          goTo behind
          pure (some (.named .scalar (← resolve .scalar (String.ofList word))), false)
        else pure (none, false)
      | text =>
        match handleIn (fun _ => false) text with
        | some (word, behind) =>
          match skipped (.blanks false) behind with
          | c :: _ =>
            if c == '@' || c == '(' || c == '$' || c == '%' || beginsWord c then do
              begin_
              goTo behind
              pure (some (.named .code (.shared (qualified p.scope.package word))), false)
            else pure (none, false)
          | [] => pure (none, false)
        | none => pure (none, false)
    let list ← items f
    if open_ then sign ")"
    pure (.arrange how isBlock list, false)

def throughBlock : Nat → Bool → Reading (Expr × Bool)
  | 0, _ => refuse
  | f + 1, filters => do
    let open_ ← sign? "("
    let p ← get
    let body? : Option Expr ← match ← upcoming with
      | '\x7b' :: _ => do
        let body ← block f
        if (← upcoming).head? = some ',' then do
          set p
          pure none
        else pure (some (valueOf body))
      | _ => pure none
    match body? with
    | some body => do
      let list ← items f
      if open_ then sign ")"
      pure (.through filters body list, false)
    | none => do
      let body ← assignment f
      if !(← comma?) then refuse
      let list ← items f
      if open_ then sign ")"
      pure (.through filters body list, false)

/-- What stands in marks behind a word that says what it is. -/
def quoted : Nat → String → Reading Expr
  | 0, _ => refuse
  | f + 1, w => do
    let search : Char → Octets := fun _ => "Search pattern not terminated".toList
    let pattern (c : Char) (text : Octets) : Reading Expr :=
      if c = '\x27' then pure (.ofText text) else interpolated f true text
    let second (c : Char) (complaint : String) : Reading Octets := do
      if closing c != c then do
        skip
        let (_, text) ← markedText false fun _ => complaint.toList
        pure text
      else
        match marked c c false 0 [] (← rest) with
        | some (text, behind) => do
          goTo behind
          pure text
        | none => fail complaint.toList
    match w with
    | "q" => do
      let (_, text) ← markedText false endless
      pure (.ofText (← literal (withoutPairs text)))
    | "qq" => do
      let (_, text) ← markedText false endless
      interpolated f false text
    | "qx" => do
      let (c, text) ← markedText false endless
      if c = '\x27' then pure (.output (.ofText text))
      else do pure (.output (← interpolated f false text))
    | "m" => do
      let (c, text) ← markedText true search
      let letters ← flags "msixpodualngc"
      pure (.find none (← checked (← pattern c text) letters) letters)
    | "qr" => do
      let (c, text) ← markedText true search
      let letters ← flags "msixpodualn"
      pure (.rule (← checked (← pattern c text) letters) letters)
    | "s" => do
      let (c, text) ← markedText true fun _ => "Substitution pattern not terminated".toList
      let new ← second c "Substitution replacement not terminated"
      let letters ← flags "msixpodualngcer"
      let p ← checked (← pattern c text) letters
      if letters.contains 'e' then do
        let body ← within new do
          let body ← enclosed (statements f)
          if !(← upcoming).isEmpty then refuse
          pure body
        let new := valueOf body
        let twice : Bool := 1 < (letters.filter (· == 'e')).length
        let here ← scope
        pure (.replace none p (if twice then .evaluate new here else new) letters)
      else if c = '\x27' then pure (.replace none p (.ofText new) letters)
      else do pure (.replace none p (← interpolated f false new) letters)
    | _ => do
      let (c, text) ← markedText false fun _ => "Transliteration pattern not terminated".toList
      let new ← second c "Transliteration replacement not terminated"
      let letters ← flags "cdsr"
      pure (.exchange none
        { wanted := exchangeList (text.length + 1) text, new := exchangeList (new.length + 1) new
          complement := letters.contains 'c', deletes := letters.contains 'd'
          squeezes := letters.contains 's', copies := letters.contains 'r' })

def declaration : Nat → Declarator → Reading Expr
  | 0, _ => refuse
  | f + 1, how => do
    match ← upcoming with
    | '(' :: _ => do
      sign "("
      let names ← declared f how
      sign ")"
      pure (.declare how names true)
    | _ => do
      match ← declaredOne how with
      | some name => pure (.declare how [some name] false)
      | none => refuse

def declared : Nat → Declarator → Reading (List (Option (Sigil × Variable)))
  | 0, _ => refuse
  | f + 1, how => do
    if ← comma? then declared f how
    else if ← word? "undef" then do pure (none :: (← declared f how))
    else if (← upcoming).head? = some ')' then pure []
    else
      match ← declaredOne how with
      | some name => do pure (some name :: (← declared f how))
      | none => refuse

/-- What stands in the braces of a function. Names of what it is given may be in front. -/
def subBody : Nat → Reading (List Stmt)
  | 0 => refuse
  | f + 1 =>
    apart do
      let front ← if (← upcoming).head? = some '(' then
          if (← scope).signatures then do
            let here ← site
            sign "("
            let (names, defaults, least, most) ← parameters f 0
            sign ")"
            let bounds : List Expr :=
              [.constant (.ofNat least), .constant (match most with
                | some n => .ofNat n
                | none => .unset)]
            let taken : Stmt :=
              .plain here (.assignAll (.declare .own names true) .givenValues)
            pure (.plain here (.builtin "expects" bounds) :: taken :: defaults)
          else do
            let _ ← markedText false endless
            pure []
        else pure []
      skipAttributes
      let body ← block f
      pure (front ++ body)

/-- The names of what a function is given, what is taken if something is missing, and how many
values there are at least and at most. -/
def parameters : Nat → Nat →
    Reading (List (Option (Sigil × Variable)) × List Stmt × Nat × Option Nat)
  | 0, _ => refuse
  | f + 1, place => do
    match ← upcoming with
    | ')' :: _ => pure ([], [], 0, some place)
    | ',' :: _ => do
      sign ","
      parameters f place
    | c :: behind => do
      let here ← site
      let isNamed : Bool := behind.head?.any beginsWord
      let one ← if isNamed then declaredOne .own else do
        goTo behind
        pure none
      introduce
      if c != '$' then do
        let (_, _, _, _) ← parameters f place
        pure ([one], [], 0, none)
      else
        let now ← upcoming
        let size : Nat := if now.head? = some '=' then 1
          else if ("//=".toList).isPrefixOf now || ("||=".toList).isPrefixOf now then 3 else 0
        if size = 0 then do
          let (names, defaults, least, most) ← parameters f (place + 1)
          pure (one :: names, defaults, least + 1, most)
        else do
          goTo (now.drop size)
          let value ← if beginsValue true (← upcoming) then assignment f else pure (.constant .unset)
          let (names, defaults, _, most) ← parameters f (place + 1)
          let fill : List Stmt := match one with
            | some (_, v) =>
              let missing : Expr :=
                .compute .less (.builtin "scalar" [.givenValues]) (.constant (.ofNat (place + 1)))
              [.plain here (.connect .both missing (.assign (.named .scalar v) value))]
            | none => []
          pure (one :: names, fill ++ defaults, 0, most)
    | [] => refuse

def block : Nat → Reading (List Stmt)
  | 0 => refuse
  | f + 1 => do
    sign "\x7b"
    deeper
    let body ← enclosed (statements f)
    sign "\x7d"
    higher
    pure body

def statements : Nat → Reading (List Stmt)
  | 0 => refuse
  | f + 1 => do
    introduce
    let now ← upcoming
    if now.isEmpty || now.head? = some '\x7d' then pure []
    else if startsWithWord "__END__" now || startsWithWord "__DATA__" now then do
      let data := ((now.dropWhile (· != '\n')).drop 1)
      modify fun p => { p with rest := [], script := { p.script with data := some data } }
      pure []
    else do
      let first ← statement f
      let others ← statements f
      pure (match first with
        | .nothing => others
        | first => first :: others)

/-- What stands behind a loop and is done between its rounds. -/
def continuation : Nat → Reading (List Stmt)
  | 0 => refuse
  | f + 1 => do if ← word? "continue" then block f else pure []

def statement : Nat → Reading Stmt
  | 0 => refuse
  | f + 1 => do
    let now ← upcoming
    match now with
    | ';' :: _ => do
      sign ";"
      pure .nothing
    | _ =>
      match labelIn now with
      | some (label, behind) => do
        begin_
        goTo behind
        let _ ← upcoming
        if (← rest).isEmpty || (← rest).head? = some '\x7d' then pure .nothing
        else labelled f (some label)
      | none => labelled f none

def labelled : Nat → Option String → Reading Stmt
  | 0, _ => refuse
  | f + 1, label => do
    let now ← upcoming
    let here ← site
    if now.head? = some '\x7b' then do
      let body ← block f
      pure (.bare here label body (← continuation f))
    else
      let (name, behind) := nameIn (now.length + 1) now
      let after := skipped (.blanks false) behind
      let w := String.ofList name
      let isArrow : Bool := ("=>".toList).isPrefixOf after
      let go : Reading Unit := do
        begin_
        goTo behind
      if isArrow then simple f
      else
        match w with
        | "if" | "unless" => do
          go
          enclosed (condition f here (w == "unless"))
        | "while" | "until" => do
          go
          enclosed do
            sign "("
            let condition : Option Expr ←
              if (← upcoming).head? = some ')' then pure none else do
                pure (some (guarded (← expression f)))
            sign ")"
            let body ← block f
            pure (.loop here label condition (w == "while") body (← continuation f))
        | "for" | "foreach" => do
          go
          enclosed (rounds f here label)
        | "sub" =>
          if after.head?.any beginsWord then do
            go
            skip
            function f
            pure .nothing
          else simple f
        | "package" => do
          go
          let (package, behind) := nameIn (after.length + 1) after
          begin_
          goTo behind
          if (← upcoming).head? = some '\x7b' then do
            let before := (← scope).package
            alterScope fun s => { s with package := String.ofList package }
            let body ← block f
            alterScope fun s => { s with package := before }
            pure (.bare here none body [])
          else do
            finish
            alterScope fun s => { s with package := String.ofList package }
            pure .nothing
        | "use" | "no" => do
          go
          using_ f (w == "use")
          pure .nothing
        | "BEGIN" | "INIT" | "CHECK" | "UNITCHECK" | "END" =>
          if after.head? = some '\x7b' then do
            go
            let body ← block f
            modify fun p =>
              { p with script :=
                  if w == "END" then { p.script with finals := body :: p.script.finals }
                  else { p.script with starts := p.script.starts ++ [body] } }
            pure .nothing
          else simple f
        | _ => simple f

/-- Whether something is done as a condition says, and what else is done. -/
def condition : Nat → Site → Bool → Reading Stmt
  | 0, _, _ => refuse
  | f + 1, here, opposite => do
    sign "("
    let e ← expression f
    sign ")"
    let yes ← block f
    let no ← match String.ofList (wordIn (← upcoming)).1 with
      | "elsif" => do
        let _ ← word? "elsif"
        let there ← site
        pure [← condition f there false]
      | "else" => do
        let _ ← word? "else"
        block f
      | _ => pure []
    pure (.choose here (if opposite then .opposite e else e) yes no)

/-- A loop over values, or one with a start and a step. -/
def rounds : Nat → Site → Option String → Reading Stmt
  | 0, _, _ => refuse
  | f + 1, here, label => do
    let isOwn ← word? "my"
    let isShared ← if isOwn then pure false else word? "our"
    let target : Option Expr ←
      if isOwn then do pure (some (← declaration f .own))
      else if isShared then do pure (some (← declaration f .shared))
      else
        match ← upcoming with
        | '$' :: _ => do
          let (e, _) ← scalarTerm f
          pure (some e)
        | _ => pure none
    match target with
    | some target => do
      let list ← inParentheses f
      let body ← block f
      pure (.each here label (some target) (.several list) body (← continuation f))
    | none => do
      sign "("
      let first : Option Expr ← match ← upcoming with
        | c :: _ => if c == ';' || c == ')' then pure none else do pure (some (← expression f))
        | [] => pure none
      match ← upcoming with
      | ';' :: _ => do
        sign ";"
        introduce
        let condition : Option Expr ← if (← upcoming).head? = some ';' then pure none else do
          pure (some (guarded (← expression f)))
        sign ";"
        let next : Option Expr ← if (← upcoming).head? = some ')' then pure none else do
          pure (some (← expression f))
        sign ")"
        let body ← block f
        pure (.counted here label first condition next body)
      | _ => do
        sign ")"
        let body ← block f
        pure (.each here label none (first.getD (.several [])) body (← continuation f))

def function : Nat → Reading Unit
  | 0 => refuse
  | f + 1 => do
    let now ← rest
    let (name, behind) := nameIn (now.length + 1) now
    let full := qualified (← scope).package (String.ofList name)
    begin_
    goTo behind
    modify fun p => { p with known := full :: p.known }
    match ← upcoming with
    | '(' :: inside =>
      if !(← scope).signatures then do
        if inside.head? = some '&' then
          modify fun p => { p with blockFirst := full :: p.blockFirst }
        if inside.head? = some ')' then
          modify fun p => { p with plainKnown := full :: p.plainKnown }
    | _ => pure ()
    if ← sign? ";" then pure ()
    else do
      let body ← subBody f
      noteFunction full body

def using_ : Nat → Bool → Reading Unit
  | 0, _ => refuse
  | f + 1, on => do
    let now ← upcoming
    let isVersion : Bool := match now with
      | 'v' :: c :: _ => c.isDigit
      | c :: _ => c.isDigit
      | [] => false
    if isVersion then do
      let text := now.takeWhile fun c => c.isDigit || c == '.' || c == 'v' || c == '_'
      goTo (now.drop text.length)
      if on then useVersion text
      finish
    else do
      let (name, behind) := nameIn (now.length + 1) now
      if name.isEmpty then refuse
      begin_
      goTo behind
      let after ← upcoming
      if after.head?.any Char.isDigit then do
        let (_, behind) := numeralIn after
        if (skipped (.blanks false) behind).head? != some ',' then goTo behind
      let list ← if beginsValue true (← upcoming) then do pure (some (← expression f)) else pure none
      useModule on (String.ofList name) list
      finish

/-- A value as a statement, with a condition or a loop behind it. -/
def simple : Nat → Reading Stmt
  | 0 => refuse
  | f + 1 => do
    let here ← site
    let e ← expression f
    let w := String.ofList (wordIn (← upcoming)).1
    let behind : Reading Expr := do
      let _ ← word? w
      expression f
    let stmt : Stmt ← match w with
      | "if" => do pure (.plain here (.connect .both (← behind) e))
      | "unless" => do pure (.plain here (.connect .either (← behind) e))
      | "while" => do repeated here e true (← behind)
      | "until" => do repeated here e false (← behind)
      | "for" | "foreach" => do pure (.each here none none (← behind) [.plain here e] [])
      | _ => pure (.plain here e)
    finish
    pure stmt
where
  /-- A value that is computed again and again, or a block that is run once at least. -/
  repeated (here : Site) (e : Expr) (wanted : Bool) (condition : Expr) : Reading Stmt := do
    let loop : Stmt := .loop here none (some (guarded condition)) wanted [.plain here e] []
    match e with
    | .block _ => pure (.bare here none [.plain here e, loop] [])
    | _ => pure loop

end

def whole : Reading (List Stmt) := do
  modify fun p => { p with rest := skipped (.blanks true) p.rest }
  let fuel := 40 * (← rest).length + 400
  let body ← statements fuel
  if !(← upcoming).isEmpty then refuse
  pure body

end CommandChains.Machine.Scripting.Reading
