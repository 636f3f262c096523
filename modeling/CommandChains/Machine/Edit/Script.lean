import CommandChains.Machine.Expression

/-!
# Scripts of the line editor

A script is a row of commands. A command is a letter, with what it needs behind it; in
front of it may stand the lines that it is for. Between braces stand commands that
are for the same lines.
-/

namespace CommandChains.Machine.Edit

structure Pattern where
  /-- The expression as it is written, where codes have become the characters they stand for. -/
  written : Octets
  how : Expression.Manner := {}
  meant : Expression

inductive Address where
  | number (n : Nat)
  | last
  | every (first step : Nat)
  | always
  /-- Lines where an expression is found, or the one that was used last. -/
  | matching (p : Option Pattern)

inductive Until where
  | address (a : Address)
  | more (n : Nat)
  | multiple (n : Nat)

inductive Letters where
  | given
  | capital
  | small
  deriving DecidableEq, Repr

/-- A part of what is put in the place of a match: a text, and perhaps what a group has matched
behind it. -/
structure Piece where
  text : Octets
  group : Option Nat
  letters : Letters
  first : Option Letters

structure Replacement where
  /-- What is replaced, or the expression that was used last. -/
  pattern : Option Pattern
  pieces : List Piece
  /-- The first match that is replaced, counted from one, if one is named. -/
  first : Option Nat := none
  all : Bool := false
  runs : Bool := false
  printsBefore : Bool := false
  prints : Bool := false
  file : Option Octets := none

inductive Action where
  | opens
  | closes
  | delete (firstLine : Bool)
  | print (firstLine : Bool)
  | number
  | quit (status : Option Nat) (silently : Bool)
  /-- Goes on to the next line, which replaces this one or is put behind it. -/
  | next (keeping : Bool)
  | hold (keeping : Bool)
  /-- Takes what is kept, or puts it behind the line. -/
  | get (keeping : Bool)
  | exchange
  | replace (r : Replacement)
  | translate (pairs : List (Char × Char))
  | append (text : Octets)
  | insert (text : Octets)
  | change (text : Octets)
  | run (command : Octets)
  /-- Runs the line as a command and takes what it prints. -/
  | runLine
  | label (name : Octets)
  | jump (name : Octets)
  | jumpIf (replaced : Bool) (name : Octets)
  /-- Shows the line in pieces of so many columns, or as usual. -/
  | list (width : Option Nat)
  | source
  | clear
  | read (path : Octets) (byLine : Bool)
  | readBefore (path : Octets)
  /-- Writes the line, or its first one, to a file. -/
  | write (path : Octets) (firstLine : Bool)
  | lost (letter : Char)

structure Command where
  first : Option Address := none
  second : Option Until := none
  negated : Bool := false
  action : Action

/-- The place of the brace that closes a block, where the commands behind the one that opens it
are given with the place of the first. -/
def closing (depth place : Nat) : List Command → Nat
  | [] => place
  | c :: rest =>
    match c.action, depth with
    | .opens, _ => closing (depth + 1) (place + 1) rest
    | .closes, 0 => place
    | .closes, depth + 1 => closing depth (place + 1) rest
    | _, _ => closing depth (place + 1) rest

def Action.target? : Action → Option Octets
  | .jump name | .jumpIf _ name => if name.isEmpty then none else some name
  | _ => none

/-- The place of a label. Of several with one name the last one counts. -/
def placeOf? (commands : Array Command) (name : Octets) : Option Nat :=
  (List.range commands.size).reverse.find? fun place =>
    match commands[place]? with
    | some ⟨_, _, _, .label other⟩ => other == name
    | _ => false

/-- The label that a command jumps to though there is none, if one does so. -/
def strayLabel? (commands : Array Command) : Option Octets :=
  (commands.toList.reverse.filterMap fun c => c.action.target?).find? fun name =>
    (placeOf? commands name).isNone

/-!
## Scripts as they are listed

How a script is shown to whoever wants to see what the line editor does.
-/

def listedCharacter (c : Char) : Octets :=
  match c with
  | '\\' => "\\\\".toList
  | '\x07' => "\\a".toList
  | '\x0c' => "\\f".toList
  | '\n' => "\\n".toList
  | '\r' => "\\r".toList
  | '\t' => "\\t".toList
  | '\x0b' => "\\v".toList
  | c =>
    let code := if c.toNat < 128 then c.toNat else 4294967040 + c.toNat
    if 32 ≤ code ∧ code < 127 then [c]
    else "\\o".toList ++ Octets.padded 3 (Nat.toDigits 8 code) '0'

def listedText (text : Octets) : Octets := text.flatMap listedCharacter

def listedPattern : Option Pattern → Octets
  | none => ['/', '/']
  | some p =>
    '/' :: (p.written.flatMap fun c => if c = '/' then ['\\', '/'] else listedCharacter c) ++ ['/']

def listedManner (p : Option Pattern) (ignoring several : Char) : Octets :=
  match p with
  | none => []
  | some p =>
    (if p.how.ignoreCase then [ignoring] else []) ++ if p.how.severalLines then [several] else []

/-- Lines that a command is for, as they are listed. -/
def Address.listing : Address → Octets
  | .number n => Octets.ofNat n
  | .last => ['$']
  | .every first step => Octets.ofNat first ++ '~' :: Octets.ofNat step
  | .always => "[ADDR-NULL]".toList
  | .matching p => listedPattern p ++ listedManner p 'I' 'M'

/-- The end of a range of lines, as it is listed. -/
def Until.listing : Until → Octets
  | .address a => a.listing
  | .more n => '+' :: Octets.ofNat n
  | .multiple n => '~' :: Octets.ofNat n

/-- The sign for letters that a text is put in with. -/
def Piece.sign (p : Piece) : Char :=
  match p.first, p.letters with
  | some .capital, _ => 'u'
  | some _, _ => 'l'
  | none, .given => 'E'
  | none, .capital => 'U'
  | none, .small => 'L'

/-- What is put in, as it is listed: a sign stands where the letters change. -/
def listedPieces (letters : Letters) (first : Option Letters) : List Piece → Octets
  | [] => []
  | p :: rest =>
    (if p.letters = letters ∧ p.first = first then [] else ['\\', p.sign]) ++ p.text ++
      (match p.group with
        | none => []
        | some 0 => ['&']
        | some n => '\\' :: Octets.ofNat n) ++
      listedPieces p.letters p.first rest

def Replacement.listing (r : Replacement) : Octets :=
  listedPattern r.pattern ++ listedPieces .given none r.pieces ++ '/' ::
    listedManner r.pattern 'i' 'm' ++ (if r.all then ['g'] else []) ++
    (if r.runs then ['e'] else []) ++ (if r.prints || r.printsBefore then ['p'] else []) ++
    (r.first.elim [] Octets.ofNat) ++ (r.file.elim [] ('w' :: ·))

/-- A translation as it is listed: the characters that change in their order, and what comes in
their places. -/
def listedPairs (pairs : List (Char × Char)) : Octets :=
  let changed := allCharacters.filter fun c => (pairs.lookup c).any (· != c)
  changed ++ '/' :: changed.map fun c => (pairs.lookup c).getD c

def Action.listing (commands : Array Command) (ran : Bool) (a : Action) : Octets :=
  let counted (letter : Char) (n : Option Nat) : Octets :=
    letter :: n.elim [] fun n => ' ' :: Octets.ofNat n
  let jump (letter : Char) (name : Octets) : Octets :=
    letter :: if name.isEmpty || (placeOf? commands name).isNone then [] else ' ' :: name
  match a with
  | .opens => ['\x7b']
  | .closes => ['\x7d']
  | .delete firstLine => [if firstLine then 'D' else 'd']
  | .print firstLine => [if firstLine then 'P' else 'p']
  | .number => ['=']
  | .quit status silently => counted (if silently then 'Q' else 'q') status
  | .next keeping => [if keeping then 'N' else 'n']
  | .hold keeping => [if keeping then 'H' else 'h']
  | .get keeping => [if keeping then 'G' else 'g']
  | .exchange => ['x']
  | .replace r => 's' :: r.listing
  | .translate pairs => "y/".toList ++ listedPairs pairs ++ ['/']
  | .append text => "a\\".toList ++ text
  | .insert text => "i\\".toList ++ text
  | .change text => "c\\".toList ++ text
  | .run command =>
    "e ".toList ++ if ran then command.dropLast ++ ['\x00'] else command
  | .runLine => "e ".toList
  | .label name => ':' :: name
  | .jump name => jump 'b' name
  | .jumpIf replaced name => jump (if replaced then 't' else 'T') name
  | .list width => counted 'l' width
  | .source => ['F']
  | .clear => ['z']
  | .read path byLine => (if byLine then 'R' else 'r') :: ' ' :: path
  | .readBefore path => "r ".toList ++ path
  | .write path firstLine => (if firstLine then 'W' else 'w') :: path
  | .lost letter => [letter]

/-- A command as it is listed, so deep in blocks, and how deep the next one is. -/
def Command.listing (commands : Array Command) (ran : Bool) (depth : Int) (c : Command) :
    Octets × Int :=
  let depth := match c.action with
    | .closes => depth - 1
    | _ => depth
  let lines := (c.first.elim [] Address.listing) ++ (c.second.elim [] fun e => ',' :: e.listing) ++
    (if c.negated then ['!'] else []) ++ if c.first.isSome then [' '] else []
  (List.replicate (2 * depth.toNat) ' ' ++ lines ++ c.action.listing commands ran ++ ['\n'],
    match c.action with
    | .opens => depth + 1
    | _ => depth)

def listedScript (commands : Array Command) : Octets :=
  let rec go : Int → List Command → Octets
    | _, [] => []
    | depth, c :: rest =>
      let (line, depth) := c.listing commands false depth
      line ++ go depth rest
  "SED PROGRAM:\n".toList ++ go 1 commands.toList

/-!
## Texts between delimiters

Expressions and what is put in their place stand between two characters that are the same. In
these texts and others a backslash and a letter can stand for a character by its code.
-/

/-! ## Delimiters -/

inductive Within where
  | plain
  /-- At the beginning of a bracket, perhaps behind the sign that negates it. -/
  | start (negated : Bool)
  | bracket
  /-- In a bracket within a bracket, which this character and another one close. -/
  | inner (closing : Char)
  | innerEnd

def Within.after (w : Within) (c : Char) (next : Option Char) : Within :=
  let opens := c == '[' && (next == some ':' || next == some '.' || next == some '=')
  match w with
  | plain => if c = '[' then start false else plain
  | start negated =>
    if c = '^' && !negated then start true
    else if c = ']' then bracket
    else if opens then inner (next.getD ':') else bracket
  | bracket => if c = ']' then plain else if opens then inner (next.getD ':') else bracket
  | inner closing => if c = closing && next == some ']' then innerEnd else inner closing
  | innerEnd => bracket

/-- Reads a text up to a delimiter. A backslash takes the delimiter its meaning; in an
expression it makes a newline of an n, and within brackets it means itself there. If there is no
delimiter, nothing is read, and what is left is told. -/
def readDelimited (delimiter : Char) (expression : Bool) :
    Within → Octets → Except Octets (Octets × Octets)
  | _, [] => .error []
  | w, c :: rest =>
    let keep (text : Octets) (rest : Except Octets (Octets × Octets)) :
        Except Octets (Octets × Octets) :=
      rest.map fun (more, rest) => (text ++ more, rest)
    if c = '\n' then .error (c :: rest)
    else if w matches .plain && c = delimiter then .ok ([], rest)
    else
      match w, c, rest with
      | .plain, '\\', d :: rest =>
        let text :=
          if d = delimiter && !(!expression && d == '&') then [d]
          else if d = 'n' && expression then ['\n']
          else if d = '\n' then [d] else ['\\', d]
        keep text (readDelimited delimiter expression .plain rest)
      | w, c, rest =>
        let next := if expression then w.after c rest.head? else .plain
        keep [c] (readDelimited delimiter expression next rest)

/-! ## Codes -/

inductive Use where
  | pattern
  | replacement
  | translation
  | shown
  deriving DecidableEq, Repr

/-- The character whose code stands behind a backslash, and what is behind it: a letter
names the base of the code. Without a code the letter stands for itself. -/
def coded? (text : Octets) : Option (Char × Octets) :=
  let code (letter : Char) (base most : Nat) (rest : Octets) : Option (Char × Octets) :=
    match Octets.digitsOf base most rest with
    | [] => some (letter, rest)
    | digits => some (Char.ofNat (Octets.valueOf base digits % 256), rest.drop digits.length)
  match text with
  | 'x' :: rest => code 'x' 16 2 rest
  | 'o' :: rest => code 'o' 8 3 rest
  | 'd' :: rest => code 'd' 10 3 rest
  | _ => none

/-- The control character that is the other one of a pair. -/
def controlOf (c : Char) : Char :=
  let code := c.toUpper.toNat
  Char.ofNat (if code / 64 % 2 = 0 then code + 64 else code - 64)

/-- A character that a code has named, as it is written where codes have been replaced. -/
def Use.written (use : Use) (c : Char) : Octets :=
  match use, c with
  | .replacement, '&' => ['\\', '&']
  | .replacement, '\\' | .translation, '\\' => ['\\', '\\']
  | _, c => [c]

/-- A text where codes are replaced by their characters, or nothing if a control character would
be named by a code. In a text that is shown no backslash is left. Brackets can be spared. Every
round takes at least one character. -/
def decoded (use : Use) (spares : Bool) : Nat → Within → Octets → Option Octets
  | 0, _, _ => some []
  | _, _, [] => some []
  | rounds + 1, w, c :: rest =>
    let keep (w : Within) (text rest : Octets) : Option Octets :=
      (decoded use spares rounds w rest).map (text ++ ·)
    let alone : Option Octets :=
      keep (if spares then w.after c rest.head? else .plain) [c] rest
    match w, c, rest with
    | .plain, '\\', d :: rest =>
      match coded? (d :: rest), d, rest with
      | some (c, rest), _, _ => keep .plain (use.written c) rest
      | none, 'c', '\\' :: '\\' :: rest => keep .plain [controlOf '\\'] rest
      | none, 'c', '\\' :: _ => none
      | none, 'c', e :: rest => keep .plain [controlOf e] rest
      | none, 'c', [] => some ['\\']
      | none, d, rest =>
        match Expression.controlNamed? d with
        | some control => keep .plain [control] rest
        | none => keep .plain (if use = .shown then [d] else ['\\', d]) rest
    | _, _, _ => alone

/-! ## What is put in -/

/-- The pieces of what is put in the place of a match, where a text has been read that belongs to
the next one. -/
def pieces (strict : Bool) (letters : Letters) (first : Option Letters) (text : Octets) :
    Octets → List Piece
  | [] => if text.isEmpty then [] else [⟨text, none, letters, first⟩]
  | ['\\'] => [⟨text ++ ['\\'], none, letters, first⟩]
  | '\\' :: c :: rest =>
    let piece : Piece := ⟨text, none, letters, first⟩
    let literal : List Piece :=
      { piece with text := text ++ [c] } :: pieces strict letters none [] rest
    if c.isDigit then
      { piece with group := some (c.toNat - '0'.toNat) } :: pieces strict letters none [] rest
    else if strict then literal
    else
      match c with
      | 'L' => piece :: pieces strict .small none [] rest
      | 'U' => piece :: pieces strict .capital none [] rest
      | 'E' => piece :: pieces strict .given none [] rest
      | 'l' => piece :: pieces strict letters (some .small) [] rest
      | 'u' => piece :: pieces strict letters (some .capital) [] rest
      | _ => literal
  | '&' :: rest => ⟨text, some 0, letters, first⟩ :: pieces strict letters none [] rest
  | c :: rest => pieces strict letters first (text ++ [c]) rest

def bare : Octets → Octets
  | '\\' :: c :: rest => c :: bare rest
  | ['\\'] => []
  | c :: rest => c :: bare rest
  | [] => []

end CommandChains.Machine.Edit
