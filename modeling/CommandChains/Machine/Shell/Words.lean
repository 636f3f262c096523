import CommandChains.Machine.Shell.Syntax

/-!
# Words of scripts

Words end at blanks and operators. Quotes and backslashes protect characters; a dollar
sign or a backquote begins something that is put into its place later.
-/

namespace CommandChains.Machine.Shell

inductive Problem where
  | openQuote (mark : Char)
  | openBackquote
  | openBrace
  | openParenthesis
  | openSum
  | unfinished (wanted : Option String)
  /-- Something stands where it cannot stand, what kind of thing it is, and perhaps what
  should stand there. -/
  | unexpected (text : Octets) (kind : String) (wanted : Option String)
  | badLoopVariable (text : Octets)
  | badFunctionName (text : Octets)
  /-- A stream is to be the same as something that is no number. -/
  | badStream
  | badCheck (text : Octets)
  deriving DecidableEq

structure ScriptError where
  problem : Problem
  rest : Octets
  deriving DecidableEq

namespace Problem

/-- That something cannot stand where it does, and what should stand there. -/
def outOfPlace (kind : String) : Option String → String
  | none => kind ++ " unexpected"
  | some wanted => kind ++ " unexpected (expecting " ++ wanted ++ ")"

def message (p : Problem) : Octets :=
  String.toList <| match p with
    | openQuote _ => "Unterminated quoted string"
    | openBackquote => "EOF in backquote substitution"
    | openBrace => "Missing '\x7d'"
    | openParenthesis => outOfPlace "end of file" (some "\")\"")
    | openSum => "Missing '))'"
    | unfinished wanted => outOfPlace "end of file" wanted
    | unexpected _ kind wanted => outOfPlace kind wanted
    | badLoopVariable _ => "Bad for loop variable"
    | badFunctionName _ => "Bad function name"
    | badStream => "Bad fd number"
    | badCheck _ => ""

def longMessage (p : Problem) : Octets :=
  let lookingFor (closing : Octets) : Octets :=
    "unexpected EOF while looking for matching \x60".toList ++ closing ++ ['\x27']
  match p with
  | openQuote mark => lookingFor [mark]
  | openBackquote => lookingFor ['\x60']
  | openBrace => lookingFor ['\x7d']
  | openParenthesis | openSum => lookingFor [')']
  | unfinished _ => "syntax error: unexpected end of file".toList
  | unexpected text _ _ =>
    "syntax error near unexpected token \x60".toList ++ text ++ ['\x27']
  | badLoopVariable text | badFunctionName text =>
    ['\x60'] ++ text ++ "\x27: not a valid identifier".toList
  | badStream => "Bad file descriptor".toList
  | badCheck text => "syntax error in conditional expression: unexpected token \x60".toList ++
      text ++ ['\x27']

def isOpen : Problem → Bool
  | openQuote _ | openBackquote | openBrace | openParenthesis | openSum | unfinished _ => true
  | _ => false

end Problem

/-! ## Texts up to a closing character -/

/-- Whether quotes of the single kind count inside these closing characters, the innermost
first. They do not between double quotes, but for scripts inside. -/
def singleCounts (inQuotes : Bool) : List Char → Bool
  | [] => !inQuotes
  | ')' :: _ => true
  | '"' :: _ => false
  | _ :: rest => singleCounts inQuotes rest

/-- The text up to the last of some closing characters, the innermost of which comes first,
and what is behind it. -/
def enclosed (inQuotes : Bool) : List Char → Octets → Option (Octets × Octets)
  | [], rest => some ([], rest)
  | _ :: _, [] => none
  | top :: below, c :: rest =>
    let keep (stack : List Char) : Option (Octets × Octets) :=
      (enclosed inQuotes stack rest).map fun (inner, after) => (c :: inner, after)
    if top = '\x00' then keep below
    else if c = top then
      if below.isEmpty then some ([], rest) else keep below
    else if top = '\x27' then keep (top :: below)
    else if c = '\\' then keep ('\x00' :: top :: below)
    else if top = '\x60' then keep (top :: below)
    else if c = '"' then keep ('"' :: top :: below)
    else if c = '\x60' then keep ('\x60' :: top :: below)
    else if c = '\x27' && singleCounts inQuotes (top :: below) then keep ('\x27' :: top :: below)
    else if c = '(' && top = ')' then keep (')' :: top :: below)
    else if c = '$' && rest.head? = some '(' && top != ')' then keep ('\x01' :: top :: below)
    else if top = '\x01' then keep (')' :: below)
    else if c = '$' && rest.head? = some '\x7b' then keep ('\x02' :: top :: below)
    else if top = '\x02' then keep ('\x7d' :: below)
    else keep (top :: below)

/-- A script between backquotes, where a backslash protects some characters. -/
def unprotected (inQuotes : Bool) : Octets → Octets
  | '\\' :: c :: rest =>
    if c = '\n' then unprotected inQuotes rest
    else if c = '\\' ∨ c = '\x60' ∨ c = '$' ∨ (inQuotes ∧ c = '"') then
      c :: unprotected inQuotes rest
    else '\\' :: c :: unprotected inQuotes rest
  | c :: rest => c :: unprotected inQuotes rest
  | [] => []

/-! ## How words are read -/

structure WordManner where
  dialect : Dialect := .small
  /-- Finds the parenthesis that closes a script: gives what is behind it. -/
  scriptEnd : Octets → Except ScriptError Octets := fun rest =>
    match enclosed false [')'] rest with
    | some (_, after) => .ok after
    | none => .error ⟨.openParenthesis, rest⟩
  /-- Whether parentheses behind some signs belong to patterns. -/
  extended : Bool := false

/-- The part of a text that stands before a later place. -/
def upTo (text later : Octets) : Octets := text.take (text.length - later.length)

/-- A text in which backslashes write characters, as the large shell reads it behind a
dollar sign. -/
def unescaped : Nat → Octets → Octets
  | 0, text => text
  | rounds + 1, text =>
    match text with
    | '\\' :: c :: rest =>
      let one (d : Char) : Octets := d :: unescaped rounds rest
      let digits (base most : Nat) (from_ : Octets) : Octets :=
        let found := Octets.digitsOf base most from_
        Char.ofNat (Octets.valueOf base found % 256) :: unescaped rounds (from_.drop found.length)
      match c with
      | 'a' => one '\x07'
      | 'b' => one '\x08'
      | 'e' | 'E' => one '\x1b'
      | 'f' => one '\x0c'
      | 'n' => one '\n'
      | 'r' => one '\r'
      | 't' => one '\t'
      | 'v' => one '\x0b'
      | '\\' | '\x27' | '"' | '?' => one c
      | 'x' =>
        if (Octets.digitsOf 16 2 rest).isEmpty then '\\' :: one 'x' else digits 16 2 rest
      | 'u' | 'U' =>
        let found := Octets.digitsOf 16 (if c = 'u' then 4 else 8) rest
        let code := Octets.valueOf 16 found
        let shown := if code < 128 then [Char.ofNat code]
          else '\\' :: (if code < 65536 then 'u' else 'U') ::
            Octets.padded (if code < 65536 then 4 else 8) ((Nat.toDigits 16 code).map Char.toUpper) '0'
        if found.isEmpty then '\\' :: one c
        else shown ++ unescaped rounds (rest.drop found.length)
      | 'c' =>
        match rest with
        | d :: rest => Char.ofNat (d.toNat % 32) :: unescaped rounds rest
        | [] => ['\\', 'c']
      | c =>
        if decide ('0' ≤ c) && decide (c ≤ '7') then digits 8 3 (c :: rest) else '\\' :: one c
    | c :: rest => c :: unescaped rounds rest
    | [] => []

/-- The text up to a single quote, where a backslash protects every character. -/
def escapedQuote : Octets → Option (Octets × Octets)
  | [] => none
  | '\x27' :: rest => some ([], rest)
  | '\\' :: c :: rest => (escapedQuote rest).map fun (inner, after) => ('\\' :: c :: inner, after)
  | c :: rest => (escapedQuote rest).map fun (inner, after) => (c :: inner, after)

/-! ## Pieces -/

/-- The name or the number of a parameter that stands without braces. -/
def bareParameter (text : Octets) : Octets :=
  match text with
  | c :: rest =>
    if beginsName c then c :: rest.takeWhile inName
    else if c.isDigit || "@*#?-$!".contains c then [c]
    else []
  | [] => []

/-- Whether what is said behind the name of a parameter is a pattern. -/
def takesPattern (text : Octets) : Bool :=
  let name := match bareParameter text with
    | [c] => if c.isDigit then text.takeWhile Char.isDigit else [c]
    | name => name
  (text.drop name.length).head?.any fun c => "#%/^,".contains c

/-- The piece that begins with a dollar sign, and what is behind it. -/
def readDollar (how : WordManner) (quoted : Bool) (text : Octets) :
    Except ScriptError (Piece × Octets) :=
  let script (rest : Octets) : Except ScriptError (Piece × Octets) :=
    match how.scriptEnd rest with
    | .error e => .error e
    | .ok after => .ok (⟨.command, (upTo rest after).dropLast, quoted⟩, after)
  match text with
  | '(' :: '(' :: rest =>
    match enclosed quoted [')'] ('(' :: rest), how.dialect with
    | none, .small => .error ⟨.openSum, '$' :: text⟩
    | none, .large => script ('(' :: rest)
    | some (inner, after), dialect =>
      if inner.getLast? = some ')' then
        .ok (⟨.arithmetic, (inner.drop 1).dropLast, quoted⟩, after)
      else if dialect = .small then .error ⟨.openSum, '$' :: text⟩
      else script ('(' :: rest)
  | '(' :: rest => script rest
  | '\x7b' :: rest =>
    match enclosed (quoted && !takesPattern rest) ['\x7d'] rest with
    | none => .error ⟨.openBrace, '$' :: text⟩
    | some (inner, after) => .ok (⟨.parameter, inner, quoted⟩, after)
  | '[' :: rest =>
    match how.dialect, enclosed quoted [']'] rest with
    | .large, some (inner, after) => .ok (⟨.arithmetic, inner, quoted⟩, after)
    | _, _ => .ok (⟨.text, ['$'], quoted⟩, text)
  | text =>
    match bareParameter text with
    | [] => .ok (⟨.text, ['$'], quoted⟩, text)
    | name => .ok (⟨.parameter, name, quoted⟩, text.drop name.length)

def readBackquoted (quoted : Bool) (text : Octets) : Except ScriptError (Piece × Octets) :=
  match enclosed quoted ['\x60'] text with
  | none => .error ⟨.openBackquote, '\x60' :: text⟩
  | some (inner, after) => .ok (⟨.command, unprotected quoted inner, quoted⟩, after)

/-- Pieces that have been read, and what is behind them. -/
abbrev PiecesRead := Except ScriptError (Pieces × Octets)

/-- A piece in front of what is read after it. -/
def before (p : Piece) (found : PiecesRead) : PiecesRead :=
  found.map fun (w, rest) => (Pieces.cons p w, rest)

/-- What a double quote means in a text that stands between double quotes. -/
inductive QuoteSign where
  | ends
  | stands
  | vanishes
  deriving DecidableEq

/-- The pieces up to a double quote, or to the end where none is wanted. Every round takes
at least one character, so as many rounds as there are characters are enough. -/
def readDouble (how : WordManner) (sign : QuoteSign) : Nat → Octets → PiecesRead
  | 0, rest => .ok ([], rest)
  | _, [] => if sign = .ends then .error ⟨.openQuote '"', []⟩ else .ok ([], [])
  | rounds + 1, c :: rest =>
    let keep (c : Char) (found : PiecesRead) : PiecesRead := before ⟨.text, [c], true⟩ found
    let go (rest : Octets) : PiecesRead := readDouble how sign rounds rest
    if c = '"' && sign == .ends then .ok ([], rest)
    else if c = '"' && sign == .vanishes then go rest
    else if c = '\\' then
      match rest with
      | [] => keep '\\' (go [])
      | d :: rest =>
        if d = '\n' then go rest
        else if d = '$' || d = '\x60' || d = '\\' || (d = '"' && sign != .stands) then
          keep d (go rest)
        else keep '\\' (go (d :: rest))
    else if c = '$' then
      match readDollar how true rest with
      | .error e => .error e
      | .ok (p, rest) => before p (go rest)
    else if c = '\x60' then
      match readBackquoted true rest with
      | .error e => .error e
      | .ok (p, rest) => before p (go rest)
    else keep c (go rest)

/-- The pieces of a text that stands between double quotes. -/
def quotedPieces (how : WordManner) (text : Octets) (sign : QuoteSign := .stands) :
    Except ScriptError Pieces :=
  (readDouble how sign (text.length + 1) text).map (·.1)

def endsWord (c : Char) : Bool :=
  c == ' ' || c == '\t' || c == '\n' || ";&|<>()".contains c

/-- Whether a text begins with a sign for a pattern that has parentheses. -/
def beginsGroup : Octets → Bool
  | c :: '(' :: _ => "@?*+!".contains c
  | _ => false

/-- Reads a word up to a character that ends it. Every round takes at least one character,
so as many rounds as there are characters are enough. -/
def readWord (how : WordManner) (ends : Char → Bool) : Nat → Octets → PiecesRead
  | 0, rest => .ok ([], rest)
  | _, [] => .ok ([], [])
  | rounds + 1, c :: rest =>
    let go (rest : Octets) : PiecesRead := readWord how ends rounds rest
    let large := how.dialect = .large
    if large ∧ (c = '<' ∨ c = '>') ∧ rest.head? = some '(' ∧ ends c then
      let inner := rest.drop 1
      match how.scriptEnd inner with
      | .error e => .error e
      | .ok after =>
        before ⟨if c = '<' then .source else .sink, (upTo inner after).dropLast, false⟩ (go after)
    else if ends c then .ok ([], c :: rest)
    else if how.extended && beginsGroup (c :: rest) then
      match enclosed false [')'] (rest.drop 1) with
      | some (inner, after) =>
        before ⟨.text, c :: '(' :: inner ++ [')'], false⟩ (go after)
      | none => .error ⟨.openParenthesis, rest⟩
    else if c = '\\' then
      match rest with
      | [] => .ok ([⟨.text, ['\\'], false⟩], [])
      | '\n' :: rest => go rest
      | d :: rest => before ⟨.text, [d], true⟩ (go rest)
    else if c = '\x27' then
      match enclosed false ['\x27'] rest with
      | none => .error ⟨.openQuote '\x27', c :: rest⟩
      | some (inner, rest) => before ⟨.text, inner, true⟩ (go rest)
    else if c = '"' ∨ (large ∧ c = '$' ∧ rest.head? = some '"') then
      let rest := if c = '"' then rest else rest.drop 1
      match readDouble how .ends (rest.length + 1) rest with
      | .error ⟨.openQuote '"', []⟩ => .error ⟨.openQuote '"', c :: rest⟩
      | .error e => .error e
      | .ok (w, rest) =>
        let w := if w.isEmpty then [⟨.text, [], true⟩] else w
        (go rest).map fun (more, rest) => (w ++ more, rest)
    else if large ∧ c = '$' ∧ rest.head? = some '\x27' then
      match escapedQuote (rest.drop 1) with
      | none => .error ⟨.openQuote '\x27', c :: rest⟩
      | some (inner, rest) =>
        before ⟨.text, (unescaped inner.length inner).takeWhile (· != '\x00'), true⟩ (go rest)
    else if c = '$' then
      match readDollar how false rest with
      | .error e => .error e
      | .ok (p, rest) => before p (go rest)
    else if c = '\x60' then
      match readBackquoted false rest with
      | .error e => .error e
      | .ok (p, rest) => before p (go rest)
    else before ⟨.text, [c], false⟩ (go rest)

/-- The pieces of a text that stands between no quotes. -/
def plainPieces (how : WordManner) (text : Octets) : Except ScriptError Pieces :=
  (readWord how (fun _ => false) (text.length + 1) text).map (·.1)

end CommandChains.Machine.Shell
