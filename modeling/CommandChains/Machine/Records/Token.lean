import CommandChains.Machine.Records.Value
import CommandChains.Machine.Expression

/-!
# Tokens of programs about records

The text of a program as a row of tokens. A slash begins an expression where no value stands
before it; a name is that of a function if a parenthesis follows at once. In front of a brace
that closes a block a statement is taken to end.
-/

namespace CommandChains.Machine.Records

inductive Token where
  | sign (text : String)
  | word (text : String)
  | name (text : String)
  | function (text : String)
  | builtin (text : String)
  | number (x : Float) (shown : Octets)
  | text (s : Octets)
  | regex (source : Octets)
  | newline
  | semicolon
  | implied
  | unexpected (c : Char)
  | broken (message : Octets)
  | ending
  deriving Inhabited

namespace Token

/-- How a token is named where it should not be. -/
def shown : Token → Octets
  | sign s | word s | name s | function s | builtin s => s.toList
  | number _ shown => shown
  | text s => s
  | regex source => '/' :: source ++ ['/']
  | newline => "end of line".toList
  | semicolon => [';']
  | implied => ['\x7d']
  | ending => "end of file".toList
  | unexpected c => [c]
  | broken _ => []

def isSign (t : Token) (text : String) : Bool :=
  match t with
  | sign s => s == text
  | _ => false

def isWord (t : Token) (text : String) : Bool :=
  match t with
  | word s => s == text
  | _ => false

def endsStatement : Token → Bool
  | newline | semicolon | implied => true
  | _ => false

/-- Whether a value can end with a token, so that a slash behind it divides. -/
def endsValue : Token → Bool
  | number _ _ | text _ | name _ | regex _ => true
  | sign s => [")", "]", "++", "--"].contains s
  | word s => s == "getline"
  | _ => false

end Token

structure Lexeme where
  token : Token
  line : Nat
  parentheses : Nat := 0
  braces : Nat := 0
  complaints : List Octets := []
  deriving Inhabited

namespace Lexeme

def words : List String :=
  ["print", "printf", "do", "while", "for", "break", "continue", "if", "else", "in", "delete",
    "split", "match", "BEGIN", "END", "exit", "next", "nextfile", "return", "getline", "sub", "gsub",
    "function", "length"]

def builtins : List String :=
  ["index", "substr", "sprintf", "sin", "cos", "atan2", "exp", "log", "int", "sqrt", "rand", "srand",
    "close", "system", "toupper", "tolower", "fflush", "systime", "mktime", "strftime"]

def signs : List String :=
  ["**=", "&&", "||", "==", "!=", "<=", ">=", "!~", "++", "--", "+=", "-=", "*=", "/=", "%=",
    "\x5e=", ">>", "+", "-", "*", "/", "%", "\x5e", "=", "<", ">", "!", "~", "?", ":", ",", "$",
    "[", "]", "|"]

/-- The signs behind which a program may go on in the next line. -/
def openEnded : List String := ["&&", "||", ","]

/-- A text without blanks, comments and, if that is wanted, newlines at its beginning. The
lines that are left behind are counted. -/
def skip (newlines : Bool) : Nat → Nat → Octets → Nat × Octets
  | 0, line, text => (line, text)
  | rounds + 1, line, text =>
    match text with
    | '\\' :: '\n' :: rest => skip newlines rounds (line + 1) rest
    | '\\' :: '\r' :: '\n' :: rest => skip newlines rounds (line + 1) rest
    | '#' :: rest => skip newlines rounds line (rest.dropWhile (· != '\n'))
    | '\n' :: rest => if newlines then skip newlines rounds (line + 1) rest else (line, text)
    | c :: rest =>
      if c != '\n' && Octets.isSpace c then skip newlines rounds line rest else (line, text)
    | [] => (line, [])

/-- The characters of a text between quotes with what backslashes stand for. -/
def unescaped : Nat → Octets → Octets
  | 0, _ => []
  | _, [] => []
  | rounds + 1, '\\' :: rest =>
    match rest with
    | [] => ['\\']
    | c :: behind =>
      if c = '"' ∨ c = '\\' ∨ c = '/' then c :: unescaped rounds behind
      else
        match Octets.digitsOf 8 3 rest, Expression.controlNamed? c with
        | [], some control => control :: unescaped rounds behind
        | [], none =>
          let digits := if c = 'x' then Octets.digitsOf 16 2 behind else []
          if digits.isEmpty then '\\' :: c :: unescaped rounds behind
          else
            Char.ofNat (Octets.valueOf 16 digits % 256) ::
              unescaped rounds (behind.drop digits.length)
        | digits, _ =>
          Char.ofNat (Octets.valueOf 8 digits % 256) :: unescaped rounds (rest.drop digits.length)
  | rounds + 1, c :: rest => c :: unescaped rounds rest

/-- What stands between quotes, and what is behind them, if they are closed in the line. -/
def quoted? : Octets → Option (Octets × Octets)
  | [] => none
  | '"' :: rest => some ([], rest)
  | '\\' :: '\n' :: rest => quoted? rest
  | '\\' :: c :: rest => (quoted? rest).map fun (s, rest) => ('\\' :: c :: s, rest)
  | c :: rest => if c = '\n' then none else (quoted? rest).map fun (s, rest) => (c :: s, rest)

/-- The source of an expression between slashes, and what is behind it. -/
def slashed? : Bool → Octets → Option (Octets × Octets)
  | _, [] => none
  | inBracket, c :: rest =>
    let with_ (front : Octets) (found : Option (Octets × Octets)) : Option (Octets × Octets) :=
      found.map fun (s, rest) => (front ++ s, rest)
    if c = '\n' then none
    else if c = '/' && !inBracket then some ([], rest)
    else if c = '\\' then
      match rest with
      | '/' :: rest => with_ ['/'] (slashed? inBracket rest)
      | '\n' :: rest => slashed? inBracket rest
      | d :: rest => with_ [c, d] (slashed? inBracket rest)
      | [] => none
    else if c = '[' && !inBracket then
      match rest with
      | ']' :: rest => with_ [c, ']'] (slashed? true rest)
      | '\x5e' :: ']' :: rest => with_ [c, '\x5e', ']'] (slashed? true rest)
      | rest => with_ [c] (slashed? true rest)
    else if c = ']' then with_ [c] (slashed? false rest)
    else with_ [c] (slashed? inBracket rest)

/-- The digits of a number at the beginning of a text. -/
def numeral (text : Octets) : Octets :=
  let whole := text.takeWhile Char.isDigit
  let rest := text.drop whole.length
  let (fraction, rest) := match rest with
    | '.' :: rest =>
      let digits := rest.takeWhile Char.isDigit
      ('.' :: digits, rest.drop digits.length)
    | rest => ([], rest)
  let exponent := match rest with
    | e :: rest =>
      if e = 'e' ∨ e = 'E' then
        let sign := (rest.take 1).filter fun c => c == '+' || c == '-'
        let digits := (rest.drop sign.length).takeWhile Char.isDigit
        e :: sign ++ digits
      else []
    | [] => []
  whole ++ fraction ++ exponent

structure Scan where
  rest : Octets
  line : Nat := 1
  previous : Token := .newline
  parentheses : Nat := 0
  braces : Nat := 0
  known : List String := ["NR", "FNR", "NF", "FS", "OFS", "ORS", "RS", "SUBSEP", "RSTART", "RLENGTH",
    "FILENAME", "CONVFMT", "OFMT", "ENVIRON", "ARGC", "ARGV"]
  complaints : List Octets := []

def Scan.next (s : Scan) : Token × Scan :=
  let fuel := s.rest.length + 1
  let (line, text) := skip false fuel s.line s.rest
  let s := { s with line, rest := text }
  let line_ (s : Scan) : Octets := "line ".toList ++ Octets.ofNat s.line ++ ": ".toList
  let through (s : Scan) : Scan :=
    let (line, rest) := skip true (s.rest.length + 1) s.line s.rest
    { s with line, rest }
  match text with
  | [] => (.ending, s)
  | c :: rest =>
    let after (t : Token) (rest : Octets) : Token × Scan := (t, { s with rest })
    match c with
    | '\n' => (.newline, through { s with rest, line := s.line + 1 })
    | ';' => (.semicolon, through { s with rest })
    | '\x7b' => (.sign "\x7b", through { s with rest, braces := s.braces + 1 })
    | '(' => (.sign "(", { s with rest, parentheses := s.parentheses + 1 })
    | '"' =>
      match quoted? rest with
      | some (inner, rest) => after (.text (unescaped (inner.length + 1) inner)) rest
      | none =>
        let shown := ('"' :: rest.takeWhile (· != '\n')).take 10
        after (.broken (line_ s ++ "runaway string constant ".toList ++ shown ++ " ...".toList)) []
    | '.' =>
      if (rest.head?).any Char.isDigit then
        let digits := numeral text
        after (.number (numberOf digits) digits) (text.drop digits.length)
      else after (.unexpected c) (rest.drop 1)
    | c =>
      if c.isDigit then
        let digits := numeral text
        after (.number (numberOf digits) digits) (text.drop digits.length)
      else if c.isAlpha || c == '_' then
        let letters := text.takeWhile fun c => c.isAlphanum || c == '_'
        let name := String.ofList letters
        let rest := text.drop letters.length
        if words.contains name then
          let s := { s with rest }
          (.word name, if name == "else" || name == "do" then through s else s)
        else if builtins.contains name then after (.builtin name) rest
        else if s.previous.isWord "function" then after (.function name) rest
        else if s.known.contains name then after (.name name) rest
        else if rest.head? = some '(' then after (.function name) rest
        else (.name name, { s with rest, known := name :: s.known })
      else
        let divides := s.previous.endsValue &&
          !(["++", "--"].any s.previous.isSign && rest.head? != some '=')
        if c = '/' && !divides then
          match slashed? false rest with
          | some (source, rest) => after (.regex source) rest
          | none =>
            let shown := (rest.takeWhile (· != '\n')).take 10
            after (.broken (line_ s ++ "runaway regular expression /".toList ++ shown ++
              " ...".toList)) []
        else
          match signs.find? fun sign => sign.toList.isPrefixOf text with
          | some sign =>
            let s := { s with rest := text.drop sign.length }
            (.sign sign, if openEnded.contains sign then through s else s)
          | none => after (.unexpected c) rest

def Scan.behindBlock (s : Scan) : Scan :=
  let (line, rest) := skip false (s.rest.length + 1) s.line s.rest
  match rest with
  | ';' :: rest =>
    let (line, rest) := skip true (rest.length + 1) line rest
    { s with line, rest }
  | rest =>
    let (line, rest) := skip true (rest.length + 1) line rest
    { s with line, rest }

/-- All tokens of a program, in at most so many rounds. -/
def scan : Nat → Scan → List Lexeme
  | 0, s => [{ token := .ending, line := s.line }]
  | rounds + 1, s =>
    let (line, text) := skip false (s.rest.length + 1) s.line s.rest
    let s := { s with line, rest := text }
    let complain (message : String) (s : Scan) : Scan :=
      { s with complaints := s.complaints ++
          ["line ".toList ++ Octets.ofNat s.line ++ ": ".toList ++ message.toList] }
    let lexeme (token : Token) (s : Scan) : Lexeme :=
      { token, line := s.line, parentheses := s.parentheses, braces := s.braces
        complaints := s.complaints }
    let give (token : Token) (s : Scan) : List Lexeme :=
      lexeme token s :: scan rounds { s with previous := token, complaints := [] }
    match text with
    | '\x7d' :: rest =>
      if s.braces = 0 then
        let (line, rest) := match skip false (rest.length + 1) line rest with
          | (line, ';' :: rest) => (line, rest)
          | found => found
        scan rounds (complain "extra '\x7d'" { s with line, rest })
      else if s.previous.endsStatement || s.previous.isSign "\x7d" then
        let s := { s with rest, braces := s.braces - 1 }
        let token := Token.sign "\x7d"
        let after := if s.braces = 0 then s.behindBlock
          else
            let (line, rest) := skip true (s.rest.length + 1) s.line s.rest
            { s with line, rest }
        lexeme token s :: scan rounds { after with previous := token, complaints := [] }
      else give .implied s
    | ')' :: rest =>
      if s.parentheses = 0 then scan rounds (complain "extra ')'" { s with rest })
      else give (.sign ")") { s with rest, parentheses := s.parentheses - 1 }
    | _ =>
      let begun := s.line
      let (token, s) := s.next
      match token with
      | .ending => [lexeme token s]
      | _ =>
        { lexeme token s with line := begun } ::
          scan rounds { s with previous := token, complaints := [] }

/-- The tokens of a program. A newline is added at its end. -/
def ofText (text : Octets) : List Lexeme :=
  let text := text ++ ['\n']
  let (line, rest) := skip true (text.length + 1) 1 text
  scan (2 * text.length + 2) { rest, line }

end Lexeme

end CommandChains.Machine.Records
