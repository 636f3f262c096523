import CommandChains.Machine.Scripting.Syntax

/-!
# How a script is taken apart

What stands between the words of a script is skipped: blanks, comments, and descriptions that begin
with an equals sign in front of a line. A text in marks ends at the mark that closes it; a text
below its line is taken out, and a sign is left there that stands for its lines.
-/

namespace CommandChains.Machine.Scripting

/-! ## Blanks -/

/-- The first character that stands for lines that have been taken out. -/
def gapStart : Nat := 983040

def linesOf (c : Char) : Nat :=
  if c = '\n' then 1 else if gapStart ≤ c.toNat ∧ c.toNat < gapStart + 65000 then c.toNat - gapStart
  else 0

/-- Whether a character stands for lines that have been taken out. -/
def isGap (c : Char) : Bool := c != '\n' && linesOf c != 0

def lineCount (text : Octets) : Nat := text.foldl (fun n c => n + linesOf c) 0

inductive Skipping where
  | blanks (inFront : Bool)
  | comment
  | description (inFront : Bool)

/-- What is left of a text behind blanks, comments and descriptions. -/
def skipped : Skipping → Octets → Octets
  | _, [] => []
  | .comment, c :: rest => skipped (if c = '\n' then .blanks true else .comment) rest
  | .description inFront, c :: rest =>
    if inFront && "=cut".toList.isPrefixOf (c :: rest) then skipped .comment rest
    else skipped (.description (c = '\n')) rest
  | .blanks inFront, c :: rest =>
    if c = '\n' then skipped (.blanks true) rest
    else if isGap c then skipped (.blanks inFront) rest
    else if Octets.isSpace c then skipped (.blanks false) rest
    else if c = '#' then skipped .comment rest
    else if inFront && c = '=' && rest.head?.any Char.isAlpha then
      skipped (.description false) rest
    else c :: rest

/-! ## Words -/

def isWordly (c : Char) : Bool := c.isAlphanum || c == '_'

def beginsWord (c : Char) : Bool := c.isAlpha || c == '_'

/-- The name at the beginning of a text, of parts with two colons between them, and what is behind
it. An apostrophe counts as two colons. -/
def nameIn : Nat → Octets → Octets × Octets
  | 0, text => ([], text)
  | rounds + 1, text =>
    let word := text.takeWhile isWordly
    match text.drop word.length with
    | ':' :: ':' :: rest =>
      if rest.head? = some '$' then (word, ':' :: ':' :: rest)
      else
        let (more, rest) := nameIn rounds rest
        (word ++ ':' :: ':' :: more, rest)
    | '\x27' :: c :: rest =>
      if !word.isEmpty && beginsWord c then
        let (more, rest) := nameIn rounds (c :: rest)
        (word ++ ':' :: ':' :: more, rest)
      else (word, '\x27' :: c :: rest)
    | rest => (word, rest)

def wordIn (text : Octets) : Octets × Octets :=
  let word := text.takeWhile isWordly
  (word, text.drop word.length)

/-- Whether a text begins with a word, and nothing that belongs to it is behind it. -/
def startsWithWord (word : String) (text : Octets) : Bool :=
  word.toList.isPrefixOf text && !(text.drop word.length).head?.any isWordly

def innerWords : List String :=
  ["x", "lt", "gt", "le", "ge", "eq", "ne", "cmp", "isa", "and", "or", "xor", "if", "unless",
    "while", "until", "for", "foreach"]

/-! ## Texts in marks -/

def closing (c : Char) : Char :=
  match c with
  | '(' => ')'
  | '[' => ']'
  | '\x7b' => '\x7d'
  | '<' => '>'
  | c => c

/-- A text up to the mark that closes it, and what is behind that. A backslash in front of a mark
is kept or not. -/
def marked (opens closes : Char) (keeps : Bool) : Nat → Octets → Octets → Option (Octets × Octets)
  | _, _, [] => none
  | depth, sofar, '\\' :: c :: rest =>
    if !keeps && (c == opens || c == closes) then marked opens closes keeps depth (c :: sofar) rest
    else marked opens closes keeps depth (c :: '\\' :: sofar) rest
  | depth, sofar, c :: rest =>
    if c == closes then
      if depth = 0 then some (sofar.reverse, rest)
      else marked opens closes keeps (depth - 1) (c :: sofar) rest
    else marked opens closes keeps (if c == opens then depth + 1 else depth) (c :: sofar) rest

/-- A text in which a pair of backslashes is one. -/
def withoutPairs : Octets → Octets
  | '\\' :: '\\' :: rest => '\\' :: withoutPairs rest
  | c :: rest => c :: withoutPairs rest
  | [] => []

/-! ## Numbers -/

/-- The digits at the beginning of a text, without the lines between them, and what is behind
them. -/
def digitsIn (isDigit : Char → Bool) (text : Octets) : Octets × Octets :=
  let all := text.takeWhile fun c => isDigit c || c == '_'
  (all.filter (· != '_'), text.drop all.length)

def numberToBase (base : Nat) (digits : Octets) : Number :=
  .ofInt (Octets.valueOf base (Octets.digitsOf base digits.length digits))

/-- Numbers with points between them, as the characters that they stand for. -/
def versionIn : Nat → Octets → Octets × Octets
  | 0, text => ([], text)
  | rounds + 1, text =>
    let digits := text.takeWhile Char.isDigit
    let rest := text.drop digits.length
    let c := Char.ofNat (Octets.decimal digits)
    match rest with
    | '.' :: d :: more =>
      if d.isDigit then
        let (others, rest) := versionIn rounds (d :: more)
        (c :: others, rest)
      else ([c], rest)
    | rest => ([c], rest)

/-- The number at the beginning of a text, and what is behind it. -/
def numeralIn (text : Octets) : Value × Octets :=
  let plain : Value × Octets :=
    let (whole, rest) := digitsIn Char.isDigit text
    let (fraction, rest, pointed) := match rest with
      | '.' :: more =>
        if more.head? = some '.' then ([], rest, false)
        else
          let (fraction, rest) := digitsIn Char.isDigit more
          (fraction, rest, true)
      | rest => ([], rest, false)
    match pointed, rest with
    | true, '.' :: d :: _ =>
      if d.isDigit && !fraction.isEmpty then
        let (shown, rest) := versionIn (text.length + 1) text
        (.text shown, rest)
      else
        (.number (.real (floatOf ⟨false, .ratio (Octets.decimal (whole ++ fraction))
          (Nat.pow 10 fraction.length)⟩)), rest)
    | _, _ =>
      let (exponent, behind) := Duration.readExponent 'e' 'E' rest
      if pointed || behind.length != rest.length then
        match Duration.scaled (Octets.decimal (whole ++ fraction)) 10
            (exponent - fraction.length) with
        | .ratio n d => (.number (.real (floatOf ⟨false, .ratio n d⟩)), behind)
        | .infinite => (.unset, behind)
      else (.number (.ofNat (Octets.decimal whole)), rest)
  let based (base : Nat) (rest : Octets) : Value × Octets :=
    let (digits, rest) := digitsIn (fun c => (Octets.digit? c).any (· < base)) rest
    (.number (numberToBase base digits), rest)
  match text with
  | '0' :: c :: rest =>
    if c = 'x' ∨ c = 'X' then based 16 rest
    else if c = 'b' ∨ c = 'B' then based 2 rest
    else if c = 'o' ∨ c = 'O' then based 8 rest
    else if c.isDigit || c == '_' then based 8 (c :: rest)
    else plain
  | _ => plain

/-! ## Where reading stands -/

structure Mistake where
  message : Octets
  /-- Whether it is told that the script is given up. -/
  aborts : Bool := true

structure Progress where
  rest : Octets
  file : Octets
  lastLine : Nat
  endsLine : Bool := false
  fixedLine : Option Nat := none
  scope : Scope := {}
  /-- Names that are declared in the statement that is read. -/
  pending : List (String × Variable) := []
  /-- How many names were known where the block begins that is read. -/
  outer : Nat := 0
  known : List String := []
  blockFirst : List String := []
  plainKnown : List String := []
  /-- What is not read, from the last word or sign on. -/
  previous : Octets := []
  /-- The same from the word or sign before that on. -/
  earlier : Octets := []
  depth : Nat := 0
  errors : List Octets := []
  mentions : List (String × Nat) := []
  watchful : Bool := false
  script : Script := {}

abbrev Reading := ExceptT Mistake (StateM Progress)

namespace Reading

def rest : Reading Octets := do pure (← get).rest

def goTo (text : Octets) : Reading Unit := modify fun p => { p with rest := text }

def scope : Reading Scope := do pure (← get).scope

def alterScope (change : Scope → Scope) : Reading Unit :=
  modify fun p => { p with scope := change p.scope }

def line : Reading Nat := do
  let p ← get
  match p.fixedLine with
  | some n => pure n
  | none =>
    pure (min p.lastLine (p.lastLine + (if p.endsLine then 1 else 0) - lineCount p.rest))

def place (n : Nat) : Reading Octets := do
  if n = 0 then pure []
  else
    let p ← get
    pure (" at ".toList ++ p.file ++ " line ".toList ++ Octets.ofNat n)

def placed (message : Octets) : Reading Octets := do
  pure (message ++ (← place (← line)) ++ ".\n".toList)

def site : Reading Site := do
  let p ← get
  pure { line := ← line, file := p.file, package := p.scope.package, warns := p.scope.warns }

def fail {α : Type} (message : Octets) (aborts : Bool := false) : Reading α := do
  throw { message := ← placed message, aborts }

def note (message : Octets) : Reading Unit := do
  let m ← placed message
  modify fun p => { p with errors := m :: p.errors }

def warn (message : Octets) : Reading Unit := do
  let m ← placed message
  modify fun p => { p with script := { p.script with warnings := p.script.warnings ++ m } }

/-- Tells that it is doubtful what a word for one value is given: what stands behind it begins
with a sign that could as well stand between two values. -/
def doubtWord (word behind : Octets) : Reading Unit := do
  let now := skipped (.blanks false) behind
  let isClose : Bool := !behind.head?.any Octets.isSpace
  let doubtful : Bool := match now with
    | '+' :: '+' :: _ | '-' :: '-' :: _ => false
    | '+' :: next | '-' :: next => isClose || next.head?.any Octets.isSpace
    | '<' :: next => next.head? != some '<' && !(next.takeWhile (· != '\n')).contains '>'
    | '/' :: _ => true
    | _ => false
  if doubtful && !(behind.takeWhile (· != '\n')).contains '(' then
    warn ("Warning: Use of \"".toList ++ word ++ "\" without parentheses is ambiguous".toList)

def skip : Reading Unit := modify fun p => { p with rest := skipped (.blanks false) p.rest }

def upcoming : Reading Octets := do
  skip
  rest

/-- Takes note that a word or sign begins here. -/
def begin_ : Reading Unit := modify fun p => { p with earlier := p.previous, previous := p.rest }

def sign? (text : String) : Reading Bool := do
  let now ← upcoming
  if text.toList.isPrefixOf now then
    begin_
    goTo (now.drop text.length)
    pure true
  else pure false

def word? (word : String) : Reading Bool := do
  let now ← upcoming
  if startsWithWord word now then
    begin_
    goTo (now.drop word.length)
    pure true
  else pure false

def deeper : Reading Unit := modify fun p => { p with depth := p.depth + 1 }

def higher : Reading Unit := modify fun p => { p with depth := p.depth - 1 }

/-! ## What cannot be read -/

/-- How much of a text is its first word or sign. -/
def tokenLength (text : Octets) : Nat :=
  match text with
  | [] => 0
  | c :: rest =>
    if beginsWord c then ((nameIn (text.length + 1) text).1).length
    else if c.isDigit then text.length - ((numeralIn text).2).length
    else if c == '$' || c == '@' then
      text.length - (skipped (.blanks false) ((nameIn (rest.length + 1) rest).2)).length
    else if c == '"' || c == '\x27' || c == '\x60' then
      match marked c c true 0 [] rest with
      | some (_, behind) => text.length - behind.length
      | none => text.length
    else if c == ')' then text.length - (skipped (.blanks false) rest).length
    else
      match ["=>", "->", "++", "--", "**", "&&", "||", "//", "==", "!=", "<=", ">=", "=~", "..",
          "::"].find? fun s => s.toList.isPrefixOf text with
      | some s => s.length
      | none => 1

/-- What is misplaced where a sign should stand between values, as it is told. -/
def misplaced? (text : Octets) : Option String :=
  match text with
  | c :: rest =>
    if beginsWord c then some "Bareword"
    else if c.isDigit then some "Number"
    else if c == '"' || c == '\x27' then some "String"
    else if c == '$' && rest.head?.any beginsWord then some "Scalar"
    else if c == '@' && rest.head?.any beginsWord then some "Array"
    else none
  | [] => none

/-- What stands between two places of a text on one line, from the later one back. -/
def between (front back : Octets) : Octets :=
  if front.length < back.length then []
  else
    let text := front.take (front.length - back.length)
    if text.any fun c => linesOf c != 0 then [] else text

/-- What is near, as it is told: some text, or the end. -/
def nearness (text : Octets) : Octets :=
  if text.isEmpty then ", at EOF\n".toList
  else ", near \"".toList ++ (text.filter fun c => !isGap c) ++ "\"\n".toList

def aboutLast (message : Octets) : Reading Octets := do
  let p ← get
  let text := p.previous.take (p.previous.length - p.rest.length)
  let blanks := p.rest.take (p.rest.length - (← upcoming).length)
  let near := if (← rest).isEmpty && text != [')'] then [] else between p.earlier p.previous ++ text
  let near := if near.isEmpty then [] else near ++ blanks
  pure (message ++ (← place (← line)) ++ nearness near)

/-- A message about what has been read as far as the next word or sign. -/
def aboutNext (message : Octets) : Reading Octets := do
  let now ← upcoming
  let p ← get
  let near := if now.isEmpty then [] else between p.previous now ++ now.take (tokenLength now)
  pure (message ++ (← place (← line)) ++ nearness near)

/-- Gives up with a message, and with what has been wrong before. -/
def giveUp {α : Type} (message : Octets) : Reading α := do
  throw { message := (← get).errors.reverse.flatten ++ message }

def noteAs (message : Octets) : Reading Unit :=
  modify fun p => { p with errors := message :: p.errors }

def refuse {α : Type} (behindValue : Bool := false) : Reading α := do
  let now ← upcoming
  let p ← get
  let where_ ← place (← line)
  let hints := p.errors.reverse.flatten
  if now.isEmpty then
    let missing : Octets :=
      if p.depth = 0 then []
      else "Missing right curly or square bracket".toList ++ where_ ++ ", at end of line\n".toList
    throw { message := hints ++ missing ++ "syntax error".toList ++ where_ ++ nearness [] }
  else
    let size := tokenLength now
    let before := between p.previous now
    let near := nearness (before ++ now.take size)
    let hint : Octets :=
      match misplaced? now, behindValue with
      | some what, true =>
        let word := before.takeWhile fun c => isWordly c || c == ':'
        let shown := now.take (tokenLength now)
        let shown := (shown.reverse.dropWhile Octets.isSpace).reverse
        let advice : Octets :=
          if before.isEmpty then []
          else if before.head?.any beginsWord then
            if word.length < before.length then
              "\t(Do you need to predeclare ".toList ++ word ++ "?)\n".toList
            else []
          else
            let gap := (before.reverse.takeWhile Octets.isSpace).reverse
            "\t(Missing operator before ".toList ++ gap ++ shown ++ "?)\n".toList
        if before.isEmpty then []
        else what.toList ++ " found where operator expected".toList ++ where_ ++ near ++ advice
      | _, _ => []
    let unmatched : Octets :=
      if now.head? = some '\x7d' && p.depth = 0 then
        "Unmatched right curly bracket".toList ++ where_ ++ ", at end of line\n".toList
      else []
    throw { message := hints ++ hint ++ unmatched ++ "syntax error".toList ++ where_ ++ near }

def sign (text : String) : Reading Unit := do
  if !(← sign? text) then refuse (text == ";")

/-! ## Names -/

def commonNames : List String :=
  ["ENV", "ARGV", "INC", "SIG", "STDIN", "STDOUT", "STDERR", "ARGVOUT", "_"]

def qualified (package name : String) : String :=
  match name.toList with
  | ':' :: ':' :: rest => "main::" ++ String.ofList rest
  | text =>
    if (text.dropWhile (· != ':')).take 2 = [':', ':'] then name
    else if commonNames.contains name || !text.head?.any beginsWord then "main::" ++ name
    else package ++ "::" ++ name

/-- Whether a single value by a name is found out when it is asked for. -/
def isSpecial (name : String) : Bool :=
  ["&", "\x60", "\x27", "+", ".", "!", "$", "|", "]", "<", ">", "(", ")", "\x5eN", "\x5eT",
    "\x5eW", "\x5eX", "\x5eO", "\x5eV"].contains name ||
    (name != "0" && name.all Char.isDigit)

def resolve (sigil : Sigil) (name : String) : Reading Variable := do
  let p ← get
  let key := String.singleton sigil.sign ++ name
  match p.scope.names.lookup key with
  | some v => pure v
  | none =>
    let isOdd : Bool := match sigil with
      | .scalar => isSpecial name
      | .array => name == "-" || name == "+"
      | .hash => name == "-" || name == "+" || name == "!"
      | _ => false
    if isOdd then pure (.special name)
    else
      let full := qualified p.scope.package name
      let isPlain : Bool := name.toList.head?.any beginsWord && !name.toList.contains ':' &&
        !commonNames.contains name
      if isPlain then
        let isOrdering : Bool := sigil == .scalar && (name == "a" || name == "b")
        if p.scope.strictNames && sigil != .code && sigil != .glob && !isOrdering then
          note ("Global symbol \"".toList ++ key.toList ++ "\" requires explicit package name ".toList
            ++ "(did you forget to declare \"my ".toList ++ key.toList ++ "\"?)".toList)
        if !isOrdering && sigil != .code then
          let n ← line
          modify fun p => { p with mentions := (full, n) :: p.mentions }
      pure (.shared full)

/-- Declares a name, which is known from the next statement on. -/
def declare (how : Declarator) (sigil : Sigil) (name : String) : Reading Variable := do
  let p ← get
  let key := String.singleton sigil.sign ++ name
  let v : Variable := match how with
    | .shared => .shared (qualified p.scope.package name)
    | _ => .own p.script.count name
  let here := p.pending ++ p.scope.names.take (p.scope.names.length - p.outer)
  if p.scope.warns && how != .shared && (here.lookup key).isSome then
    warn ("\"my\" variable ".toList ++ key.toList ++ " masks earlier declaration in same scope".toList)
  modify fun p =>
    { p with
      pending := (key, v) :: p.pending
      script := { p.script with count := p.script.count + 1 } }
  pure v

def mention (full : String) : Reading Unit := do
  let n ← line
  let short := String.ofList ((full.toList.reverse.takeWhile (· != ':')).reverse)
  if !commonNames.contains short then
    modify fun p => { p with mentions := (full, n) :: p.mentions }

def fresh : Reading Nat := do
  let n := (← get).script.count
  modify fun p => { p with script := { p.script with count := n + 1 } }
  pure n

def introduce : Reading Unit :=
  modify fun p =>
    { p with scope := { p.scope with names := p.pending ++ p.scope.names }, pending := [] }

/-- Reads something in which what is declared is not known outside. -/
def enclosed {α : Type} (work : Reading α) : Reading α := do
  introduce
  let before := (← get).scope
  let outer := (← get).outer
  modify fun p => { p with outer := before.names.length }
  let done ← work
  modify fun p => { p with scope := before, outer, pending := [] }
  pure done

/-- Reads something of its own, whose names begin where it begins. -/
def apart {α : Type} (work : Reading α) : Reading α := do
  let p ← get
  modify fun p => { p with pending := [] }
  let done ← work
  modify fun q => { q with scope := p.scope, pending := p.pending }
  pure done

/-! ## Texts -/

/-- The text in marks that comes next, with the mark that opens it. -/
def markedText (keeps : Bool) (complaint : Char → Octets) : Reading (Char × Octets) := do
  match ← rest with
  | [] => fail (complaint ' ')
  | c :: behind =>
    match marked c (closing c) keeps 0 [] behind with
    | some (text, after) =>
      goTo after
      pure (c, text)
    | none => fail (complaint (closing c))

/-- The complaint about a text that does not end. -/
def endless (mark : Char) : Octets :=
  let quote : Octets := if mark == '"' then ['\x27'] else ['"']
  "Can't find string terminator ".toList ++ quote ++ mark :: quote ++ " anywhere before EOF".toList

/-- The lines below the line, up to one that ends them, which are taken out. -/
def linesBelow (ending : Octets) (indented : Bool) : Reading Octets := do
  let now ← rest
  let here := now.takeWhile (· != '\n')
  let below := (now.drop (here.length + 1))
  let gaps := below.takeWhile isGap
  let below := below.drop gaps.length
  let lines := Octets.splitAt '\n' below
  let blank (c : Char) : Bool := c == ' ' || c == '\t'
  let isEnd (l : Octets) : Bool := (if indented then l.dropWhile blank else l) == ending
  match lines.findIdx? isEnd with
  | none =>
    fail ("Can't find string terminator \"".toList ++ ending ++ "\" anywhere before EOF".toList)
  | some count =>
    let body := lines.take count
    let after := Octets.joined ['\n'] (lines.drop (count + 1))
    let sign := Char.ofNat (gapStart + count + 1)
    goTo (here ++ '\n' :: gaps ++ sign :: after)
    let indent := ((lines[count]?).getD []).takeWhile blank
    let body := if indented then
        body.map fun l => if indent.isPrefixOf l then l.drop indent.length else l
      else body
    pure (Octets.unlines body)

end Reading

end CommandChains.Machine.Scripting
